/-
**The order at the gate.**

Fewer unsafe lines among no fewer lines are no greater a percentage, also as a number of 64 bits, and a limit that
is no lower is below no more percentages. So what passes still passes when its unsafe lines become fewer, its lines
more or its limit higher.

* `result_exceeds`, `passes_iff`: whether metrics exceed a limit, by their percentage;
* `Percentage.real_atMost`: percentages in order become amounts in order;
* `NoLower`: one limit is not below another, and none is below being without a limit;
* `passes_of_lesser`: a share that is no greater passes a limit that is no lower;
* `lesser_share_passes`: so it is for the percentages themselves and for rows that are left out.
-/

import Mathlib
import UnsafeCensus.Census.Gate
import UnsafeCensus.Proofs.Attempt
import UnsafeCensus.Proofs.Census.Percentage
import UnsafeCensus.Proofs.Number.Order

namespace UnsafeCensus.Census

variable {metrics metrics' : Metrics} {limit limit' : Option Amount} {total total' : Nat}

/-! ### What passes a limit -/

/-- Whether metrics exceed a limit, by their percentage. -/
theorem result_exceeds (metrics : Metrics) (limit : Amount) :
    (exceeds metrics (some limit)).result
      = metrics.percentage.map fun percentage =>
          percentage.elim false fun found => limit.below (.real found.real) := by
  unfold exceeds
  rw [Attempt.result_bind]
  show (metrics.percentage >>= _) = _
  cases metrics.percentage with
  | error failure => rfl
  | ok percentage => cases percentage <;> rfl

/-- Metrics pass a limit exactly when their percentage can be computed and the limit is not below it. -/
theorem passes_iff {limit : Amount} :
    (exceeds metrics (some limit)).result = .ok false
      ↔ ∃ percentage, metrics.percentage = .ok percentage
        ∧ ∀ found, percentage = some found → limit.below (.real found.real) = false := by
  rw [result_exceeds, map_eq_ok_iff]
  refine exists_congr fun percentage => and_congr_right fun _ => ?_
  cases percentage <;> simp

/-- Metrics of some lines have a percentage if it can be computed. -/
theorem percentage_of_lineCount (known : metrics.lineCount = some total) :
    metrics.percentage = Percentage.of metrics.unsafeLines (some (total : Int)) := by
  unfold Metrics.percentage
  rw [known]
  rfl

/-! ### Percentages as amounts -/

/-- **Percentages in order become amounts in order.** -/
theorem Percentage.real_atMost {first second : Percentage} (plus : first.negative = false)
    (plus' : second.negative = false) (ordered : first.hundredths ≤ second.hundredths) :
    (Amount.real first.real).AtMost (.real second.real) := by
  unfold Percentage.real
  rw [plus, plus']
  exact Binary64.ofRatio_atMost (by decide) (by decide) (Nat.mul_le_mul_right 100 ordered)

/-! ### Limits -/

/-- The first limit is not lower than the second; being without a limit is above all limits. -/
def NoLower : Option Amount → Option Amount → Prop
  | none, _ => True
  | some _, none => False
  | some first, some second => second.AtMost first

/-- **A share that is no greater passes a limit that is no lower.** -/
theorem passes_of_lesser (known : metrics.lineCount = some total) (known' : metrics'.lineCount = some total')
    (fewer : metrics.unsafeLines ≤ metrics'.unsafeLines) (more : total' ≤ total) (positive : 1 ≤ total')
    (noLower : NoLower limit limit') (passes : (exceeds metrics' limit').result = .ok false) :
    (exceeds metrics limit).result = .ok false := by
  cases limit with
  | none => rfl
  | some limit =>
    cases limit' with
    | none => exact noLower.elim
    | some limit' =>
      obtain ⟨percentage', computed', below'⟩ := passes_iff.mp passes
      rw [percentage_of_lineCount known'] at computed'
      obtain ⟨found', rfl⟩ : ∃ found', percentage' = some found' := by
        rw [Percentage.of_natCast _ positive] at computed'
        split at computed'
        · cases computed'
        · exact ⟨_, (Except.ok.inj computed').symm⟩
      obtain ⟨found, computed, plus, plus', ordered⟩ :=
        Percentage.of_mono fewer more positive computed'
      refine passes_iff.mpr ⟨_, (percentage_of_lineCount known).trans computed, ?_⟩
      rintro _ ⟨⟩
      -- A limit below the lesser percentage would make the other limit below the greater one.
      by_contra below
      have above : limit.below (.real found.real) = true := by simpa using below
      have held : limit'.below (.real found'.real) = true :=
        Amount.below_of_below_of_atMost (Amount.below_of_atMost_of_below noLower above)
          (Percentage.real_atMost plus plus' ordered)
      exact absurd ((below' _ rfl).symm.trans held) Bool.false_ne_true

/-! ### Shares and rows -/

/-- Rows that are left out take their lines with them. -/
theorem unsafeLines_le_of_sublist {rows rows' : List Row} (left : rows.Sublist rows')
    (lineCount lineCount' : Option Nat) :
    (Metrics.mk rows lineCount).unsafeLines ≤ (Metrics.mk rows' lineCount').unsafeLines := by
  unfold Metrics.unsafeLines
  exact (left.map Row.lineCount).sum_le_sum fun _ _ => Nat.zero_le _

/-- **A lesser share passes.** A percentage that is defined is so for a lesser part and for a greater total, and
is no greater then. What passes a limit passes with fewer unsafe lines, with more lines and under a higher limit;
so it does when some of its rows are left out. -/
theorem lesser_share_passes :
    (∀ (part part' total total' : Nat) (percentage' : Percentage), part ≤ part' → total' ≤ total →
        1 ≤ total' → Percentage.of part' (some (total' : Int)) = .ok (some percentage') →
        ∃ percentage, Percentage.of part (some (total : Int)) = .ok (some percentage)
          ∧ percentage.negative = false ∧ percentage'.negative = false
          ∧ percentage.hundredths ≤ percentage'.hundredths)
      ∧ (∀ (metrics metrics' : Metrics) (limit limit' : Option Amount) (total total' : Nat),
          metrics.lineCount = some total → metrics'.lineCount = some total' →
          metrics.unsafeLines ≤ metrics'.unsafeLines → total' ≤ total → 1 ≤ total' →
          NoLower limit limit' → (exceeds metrics' limit').result = .ok false →
          (exceeds metrics limit).result = .ok false)
      ∧ ∀ (rows rows' : List Row) (limit limit' : Option Amount) (total total' : Nat),
          rows.Sublist rows' → total' ≤ total → 1 ≤ total' → NoLower limit limit' →
          (exceeds ⟨rows', some total'⟩ limit').result = .ok false →
          (exceeds ⟨rows, some total⟩ limit).result = .ok false := by
  refine ⟨fun _ _ _ _ _ => Percentage.of_mono, fun _ _ _ _ _ _ => passes_of_lesser, ?_⟩
  intro rows rows' limit limit' total total' left more positive noLower passes
  exact passes_of_lesser rfl rfl (unsafeLines_le_of_sublist left _ _) more positive noLower passes

/-- A row of three lines. -/
def longRow : Row := .between ⟨"a.rs", 1, 0, by decide⟩ ⟨"a.rs", 4, 1, by decide⟩

/-- A row of one line. -/
def shortRow : Row := .between ⟨"a.rs", 6, 0, by decide⟩ ⟨"a.rs", 6, 9, by decide⟩

/-- Four lines of thirty-two pass a limit of just their share. So do three of forty, and without the long row one
of thirty-two under a higher limit. -/
theorem lesser_share_passes_equal :
    let share : Amount := .real (.ofRatio false 25 2)
    longRow.lineCount = 3 ∧ shortRow.lineCount = 1 ∧ NoLower (some share) (some share)
      ∧ NoLower (some (.whole 13)) (some share)
      ∧ Percentage.of (4 : Nat) (some ((32 : Nat) : Int)) = .ok (some ⟨false, 1250⟩)
      ∧ (exceeds ⟨[longRow, shortRow], some 32⟩ (some share)).result = .ok false
      ∧ (∃ percentage, Percentage.of (3 : Nat) (some ((40 : Nat) : Int)) = .ok (some percentage)
        ∧ percentage.hundredths ≤ 1250)
      ∧ (exceeds ⟨[longRow], some 40⟩ (some share)).result = .ok false
      ∧ (exceeds ⟨[shortRow], some 32⟩ (some (.whole 13))).result = .ok false := by
  intro share
  obtain ⟨shares, gates, rows⟩ := lesser_share_passes
  have same : NoLower (some share) (some share) := .inr rfl
  have higher : NoLower (some (.whole 13)) (some share) := .inl (by decide +kernel)
  have defined : Percentage.of (4 : Nat) (some ((32 : Nat) : Int)) = .ok (some ⟨false, 1250⟩) :=
    toOption_eq_some_iff.mp (by decide +kernel)
  have passes : (exceeds ⟨[longRow, shortRow], some 32⟩ (some share)).result = .ok false :=
    toOption_eq_some_iff.mp (by decide +kernel)
  obtain ⟨percentage, known, _, _, ordered⟩ :=
    shares 3 4 40 32 _ (by decide) (by decide) (by decide) defined
  have gate : (exceeds ⟨[longRow], some 40⟩ (some share)).result = .ok false :=
    gates ⟨[longRow], some 40⟩ _ _ _ 40 32 rfl rfl (by decide) (by decide) (by decide) same passes
  have left : [shortRow].Sublist [longRow, shortRow] := List.sublist_cons_self _ _
  exact ⟨rfl, rfl, same, higher, defined, passes, ⟨percentage, known, ordered⟩, gate,
    rows _ _ _ _ 32 32 left le_rfl (by decide) higher passes⟩

end UnsafeCensus.Census
