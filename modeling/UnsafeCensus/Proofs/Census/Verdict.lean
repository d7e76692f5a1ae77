/-
**The gate and the report agree.**

A report tells the percentage with two places, and the gate compares the same percentage as a number of 64 bits. A
limit of at most two places below `10 ^ 13` keeps its order to all percentages at 64 bits, so a unit is held back
exactly when the percentage that is told is greater than the limit as a decimal. As a percentage is rounded with
halves going up, that is so from half a hundredth above the limit on.

* `decimalNumber`, `toldPercentage`: the number of a decimal, and the percentage that a report tells;
* `toldPercentage_shareText`: a report tells the hundredths of its percentage;
* `below_percentage_iff`: when a limit is below a percentage;
* `gate_agrees`: what the gate decides, what the report tells and what the exact share is.
-/

import Mathlib
import UnsafeCensus.Proofs.Census.Gate
import UnsafeCensus.Proofs.Number.Spacing
import UnsafeCensus.Proofs.Text.Numerals

namespace UnsafeCensus

/-! ### Decimals in a text -/

/-- The number of a decimal: the digits before and after its point over a power of ten. -/
def decimalNumber (letters : List Char) : ℚ :=
  let whole := letters.takeWhile Char.isDigit
  let fraction := (letters.dropWhile Char.isDigit).drop 1
  (Nat.ofDigitChars 10 (whole ++ fraction) 0 : ℚ) / 10 ^ fraction.length

/-- The number of digits and digits after a point. -/
theorem decimalNumber_toDigits (number : Nat) (fraction : List Char) :
    decimalNumber (Nat.toDigits 10 number ++ '.' :: fraction)
      = (Nat.ofDigitChars 10 fraction number : ℚ) / 10 ^ fraction.length := by
  have point : ('.' :: fraction).takeWhile Char.isDigit = [] :=
    takeWhile_eq_nil fun letter first => by
      cases first
      rfl
  have whole : (Nat.toDigits 10 number ++ '.' :: fraction).takeWhile Char.isDigit = Nat.toDigits 10 number := by
    rw [List.takeWhile_append_of_pos fun letter => isDigit_of_mem_toDigits, point, List.append_nil]
  have rest : (Nat.toDigits 10 number ++ '.' :: fraction).dropWhile Char.isDigit = '.' :: fraction := by
    rw [List.dropWhile_append_of_pos fun letter => isDigit_of_mem_toDigits]
    rfl
  unfold decimalNumber
  rw [whole, rest]
  dsimp only
  rw [Nat.ofDigitChars_append, Nat.ofDigitChars_ten_toDigits]
  rfl

namespace Census

open Rounding

/-- The letters of a decimal with two places. -/
theorem toList_twoPlaces (hundredths : Nat) :
    (twoPlaces hundredths).toList = Nat.toDigits 10 (hundredths / 100)
      ++ '.' :: [Nat.digitChar (hundredths / 10 % 10), Nat.digitChar (hundredths % 10)] := by
  simp [twoPlaces]

/-- Two places are read back as hundredths. -/
theorem decimalNumber_twoPlaces (hundredths : Nat) :
    decimalNumber (twoPlaces hundredths).toList = (hundredths : ℚ) / 100 := by
  have tens : hundredths / 10 % 10 < 10 := Nat.mod_lt _ (by decide)
  have ones : hundredths % 10 < 10 := Nat.mod_lt _ (by decide)
  have digits : Nat.ofDigitChars 10
      [Nat.digitChar (hundredths / 10 % 10), Nat.digitChar (hundredths % 10)] (hundredths / 100)
        = hundredths := by
    rw [Nat.ofDigitChars_cons_digitChar_of_lt_ten tens, Nat.ofDigitChars_cons_digitChar_of_lt_ten ones,
      Nat.ofDigitChars_nil]
    omega
  rw [toList_twoPlaces, decimalNumber_toDigits, digits]
  norm_num

/-! ### What a report tells -/

/-- The percentage that a report tells: the decimal between its bracket and its percent sign. -/
def toldPercentage (report : String) : ℚ :=
  decimalNumber (((report.toList.dropWhile (· != '(')).drop 1).takeWhile (· != '%'))

/-- No letter of a number is a mark. -/
theorem bne_of_mem_toDigits {number : Nat} {mark : Char} (other : mark.isDigit = false) :
    ∀ letter ∈ Nat.toDigits 10 number, (letter != mark) = true := by
  rintro letter member
  refine bne_iff_ne.mpr ?_
  rintro rfl
  rw [isDigit_of_mem_toDigits member] at other
  cases other

/-- No letter of a decimal with two places is a percent sign. -/
theorem bne_of_mem_twoPlaces (hundredths : Nat) :
    ∀ letter ∈ (twoPlaces hundredths).toList, (letter != '%') = true := by
  have digit : ∀ value < 10, (Nat.digitChar value != '%') = true := by decide
  rw [toList_twoPlaces, List.forall_mem_append]
  refine ⟨bne_of_mem_toDigits rfl, ?_⟩
  simp only [List.forall_mem_cons]
  exact ⟨rfl, digit _ (Nat.mod_lt _ (by decide)), digit _ (Nat.mod_lt _ (by decide)), nofun⟩

/-- **A report tells the hundredths of its percentage.** -/
theorem toldPercentage_shareText (part total : Nat) {percentage : Percentage}
    (plus : percentage.negative = false) :
    toldPercentage (shareText part total percentage) = (percentage.hundredths : ℚ) / 100 := by
  have text : percentage.text = twoPlaces percentage.hundredths := by
    unfold Percentage.text
    rw [plus, hundredthsText_eq]
    rfl
  have whole : shareText part total percentage
      = "Unsafe lines: " ++ toString part ++ "/" ++ toString total ++ " (" ++ percentage.text ++ "%)" := rfl
  have split : (shareText part total percentage).toList
      = ("Unsafe lines: " ++ toString part ++ "/" ++ toString total ++ " ").toList
        ++ '(' :: ((twoPlaces percentage.hundredths).toList ++ ['%', ')']) := by
    rw [whole, text]
    simp
  have front : ∀ letter ∈ ("Unsafe lines: " ++ toString part ++ "/" ++ toString total ++ " ").toList,
      (letter != '(') = true := by
    simp only [String.toList_append, toList_toString, List.forall_mem_append]
    exact ⟨⟨⟨⟨by simp, bne_of_mem_toDigits rfl⟩, by simp⟩, bne_of_mem_toDigits rfl⟩, by simp⟩
  have inner : ((twoPlaces percentage.hundredths).toList ++ ['%', ')']).takeWhile (· != '%')
      = (twoPlaces percentage.hundredths).toList := by
    rw [List.takeWhile_append_of_pos (bne_of_mem_twoPlaces _)]
    exact List.append_nil _
  unfold toldPercentage
  rw [split, List.dropWhile_append_of_pos front, List.dropWhile_cons_of_neg (by decide),
    List.drop_succ_cons, List.drop_zero, inner, decimalNumber_twoPlaces]

/-- A report that is no count tells the share of a unit with a percentage. -/
theorem report_eq_shareText {metrics : Metrics} {total : Nat} {percentage : Percentage} {format : Format}
    (known : metrics.lineCount = some total) (positive : 1 ≤ total)
    (computed : metrics.percentage = .ok (some percentage)) (asked : format ≠ .count) :
    report metrics format = ⟨[], .ok (shareText metrics.unsafeLines total percentage)⟩ := by
  have there : metrics.hasTotal = true := by
    unfold Metrics.hasTotal
    rw [known]
    exact decide_eq_true positive
  unfold report
  rw [if_neg asked, if_pos there, computed, known]
  rfl

/-! ### The verdict -/

/-- **A limit is below a percentage** exactly when it has fewer hundredths. -/
theorem below_percentage_iff {digits places : Nat} {percentage : Percentage} (few : places ≤ 2)
    (low : digits < 10 ^ (13 + places)) (plus : percentage.negative = false) :
    (Amount.real (.ofDecimal false digits (-(places : Int)))).below (.real percentage.real) = true
      ↔ digits * 10 ^ (2 - places) < percentage.hundredths := by
  have power : 10 ^ places * 10 ^ (2 - places) = 100 := by
    rw [← Nat.pow_add, Nat.add_sub_cancel' few]
  have positive : 10 ^ places ≠ 0 := (Nat.pow_pos (by decide)).ne'
  have small : digits * 10 ^ (2 - places) < 10 ^ 15 :=
    calc digits * 10 ^ (2 - places) < 10 ^ (13 + places) * 10 ^ (2 - places) :=
        Nat.mul_lt_mul_of_pos_right low (Nat.pow_pos (by decide))
      _ = 10 ^ 13 * (10 ^ places * 10 ^ (2 - places)) := by rw [Nat.pow_add, Nat.mul_assoc]
      _ = 10 ^ 15 := by
        rw [power]
        norm_num
  have same : digits * 100 = digits * 10 ^ (2 - places) * 10 ^ places := by
    rw [Nat.mul_assoc, Nat.mul_comm (10 ^ (2 - places)), power]
  have real : percentage.real = .ofRatio false percentage.hundredths 100 := by
    unfold Percentage.real
    rw [plus]
  have short : digits < 10 ^ 200 :=
    low.trans_le (Nat.pow_le_pow_right (by decide) (by omega))
  rw [Binary64.ofDecimal_eq_ofRatio short (by omega), real,
    Binary64.below_ratio_congr positive (by decide) same, Binary64.below_hundredths_iff small]

/-- A unit with a percentage is held back exactly when the limit is below it. -/
theorem exceeds_eq_below {metrics : Metrics} {percentage : Percentage}
    (computed : metrics.percentage = .ok (some percentage)) (limit : Amount) :
    exceeds metrics (some limit) = ⟨[], .ok (limit.below (.real percentage.real))⟩ := by
  unfold exceeds
  rw [computed]
  rfl

/-- A number of hundredths is below a share that is rounded exactly when the share is at least half a hundredth
above it. -/
theorem lt_rounded_iff {part total hundredths : Nat} (positive : 1 ≤ total) :
    hundredths < (20000 * part + total) / (2 * total)
      ↔ (hundredths : ℚ) / 100 + 5 / 1000 ≤ 100 * part / total := by
  have total_pos : (0 : ℚ) < total := by exact_mod_cast positive
  rw [Nat.lt_iff_add_one_le, Nat.le_div_iff_mul_le (by omega), le_div_iff₀ total_pos]
  constructor
  · intro whole
    have cast : ((hundredths + 1) * (2 * total) : ℚ) ≤ 20000 * part + total := by exact_mod_cast whole
    linarith
  · intro share
    have cast : ((hundredths + 1) * (2 * total) : ℚ) ≤ 20000 * part + total := by linarith
    exact_mod_cast cast

/-- The percentage of a small part is rounded once. -/
theorem percentage_of_small {metrics : Metrics} {total : Nat} (known : metrics.lineCount = some total)
    (positive : 1 ≤ total) (small : metrics.unsafeLines < 10 ^ 23) :
    metrics.percentage
      = .ok (some ⟨false, (20000 * metrics.unsafeLines + total) / (2 * total)⟩) := by
  have bound : (20000 * metrics.unsafeLines + total) / (2 * total) < 10 ^ 28 := by
    rw [Nat.div_lt_iff_lt_mul (by omega)]
    omega
  rw [percentage_of_lineCount known, Percentage.of_natCast _ positive, hundredthsOf_eq_div positive small,
    if_neg (Nat.not_le.mpr bound)]

/-- **The gate agrees with the report**, and both have an exact meaning. For a unit of fewer than `10 ^ 23` unsafe
lines and a limit of at most two places below `10 ^ 13`, the gate decides without a warning, and it holds the unit
back exactly when the percentage that is reported, on its own or as the automatic report, is greater than the limit
as a decimal. That is so exactly when the exact share is at least half a hundredth above the limit. The percentage
itself may be of any size. -/
theorem gate_agrees (metrics : Metrics) (total digits places : Nat) (known : metrics.lineCount = some total)
    (positive : 1 ≤ total) (small : metrics.unsafeLines < 10 ^ 23) (few : places ≤ 2)
    (low : digits < 10 ^ (13 + places)) :
    ∃ text held, report metrics .percentage = ⟨[], .ok text⟩ ∧ report metrics .automatic = ⟨[], .ok text⟩
      ∧ exceeds metrics (some (.real (.ofDecimal false digits (-(places : Int))))) = ⟨[], .ok held⟩
      ∧ (held = true ↔ (digits : ℚ) / 10 ^ places < toldPercentage text)
      ∧ (held = true ↔ (digits : ℚ) / 10 ^ places + 5 / 1000 ≤ 100 * metrics.unsafeLines / total) := by
  have computed := percentage_of_small known positive small
  have power : (10 : ℚ) ^ places * 10 ^ (2 - places) = 100 := by
    rw [← pow_add, Nat.add_sub_cancel' few]
    norm_num
  have limit : (digits : ℚ) / 10 ^ places = ((digits * 10 ^ (2 - places) : Nat) : ℚ) / 100 := by
    rw [div_eq_div_iff (by positivity) (by norm_num), ← power]
    push_cast
    ring
  refine ⟨_, _, report_eq_shareText known positive computed nofun,
    report_eq_shareText known positive computed nofun, exceeds_eq_below computed _, ?_, ?_⟩
  · rw [below_percentage_iff few low rfl, toldPercentage_shareText _ _ rfl, limit,
      div_lt_div_iff_of_pos_right (by norm_num), Nat.cast_lt]
  · rw [below_percentage_iff few low rfl, limit]
    exact lt_rounded_iff positive

/-- A share halfway between two hundredths is told as the upper one. It is held back by the lower one as a limit,
half a hundredth below the share, and passes the upper one. -/
theorem gate_agrees_half :
    let metrics : Metrics := ⟨[shortRow], some 32⟩
    metrics.lineCount = some 32 ∧ 1 ≤ 32 ∧ metrics.unsafeLines < 10 ^ 23 ∧ 2 ≤ 2 ∧ 313 < 10 ^ (13 + 2)
      ∧ (report metrics .automatic).result = .ok "Unsafe lines: 1/32 (3.13%)"
      ∧ exceeds metrics (some (.real (.ofDecimal false 312 (-2)))) = ⟨[], .ok true⟩
      ∧ exceeds metrics (some (.real (.ofDecimal false 313 (-2)))) = ⟨[], .ok false⟩ := by
  intro metrics
  have small : metrics.unsafeLines < 10 ^ 23 := by decide
  have lines : metrics.unsafeLines = 1 := rfl
  obtain ⟨_, held, _, _, above, _, share⟩ := gate_agrees metrics 32 312 2 rfl (by decide) small le_rfl (by decide)
  obtain ⟨_, held', _, _, below, _, share'⟩ := gate_agrees metrics 32 313 2 rfl (by decide) small le_rfl (by decide)
  have holds : held = true := by
    rw [share, lines]
    norm_num
  have passes : held' = false := by
    rw [← Bool.not_eq_true, share', lines]
    norm_num
  rw [holds] at above
  rw [passes] at below
  have told : (report metrics .automatic).result = .ok "Unsafe lines: 1/32 (3.13%)" :=
    toOption_eq_some_iff.mp (by decide +kernel)
  exact ⟨rfl, by decide, small, le_rfl, by decide, told, above, below⟩

end Census

end UnsafeCensus
