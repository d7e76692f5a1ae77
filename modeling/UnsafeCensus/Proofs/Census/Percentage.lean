/-
**Rounding a percentage twice.**

The hundredths of a percentage come of two roundings, to significant digits and to two places. Each keeps the
order of quotients, so both together do. Of a part below `10 ^ 23` the first rounding never reaches a tie of the
second from below, as the quotient is then further from the tie than the first rounding moves it.

* `digitsOf`: a quotient rounded to significant digits, without the point;
* `placesFor_spec`: the places are the fewest with all significant digits;
* `hundredthsOf_mono`: a greater quotient has no fewer hundredths;
* `hundredthsOf_le`: a part of some times the total has as many hundred percent at most;
* `hundredthsOf_eq_div`: the hundredths of a small part are those of one rounding;
* `percentage_eq_rounded`: so are the percentage of a small part and its text.
-/

import Mathlib
import UnsafeCensus.Census.Report
import UnsafeCensus.Proofs.Number.Rounding

namespace UnsafeCensus.Census

open Rounding

variable {numerator denominator numerator' denominator' : Nat}

/-! ### Significant digits -/

/-- The search for places ends at the first one that reaches the target, or without fuel. -/
theorem placesFrom_spec (numerator target fuel places : Nat) :
    ∃ more, placesFrom numerator target fuel places = places + more
      ∧ (∀ fewer < more, numerator * 10 ^ fewer < target)
      ∧ (target ≤ numerator * 10 ^ more ∨ more = fuel) := by
  induction fuel generalizing numerator places with
  | zero => exact ⟨0, rfl, fun _ negative => absurd negative (Nat.not_lt_zero _), .inr rfl⟩
  | succ fuel hypothesis =>
    rw [placesFrom]
    by_cases reached : target ≤ numerator
    · rw [if_pos reached]
      refine ⟨0, rfl, fun _ negative => absurd negative (Nat.not_lt_zero _), .inl ?_⟩
      rwa [pow_zero, Nat.mul_one]
    · obtain ⟨more, found, least, ended⟩ := hypothesis (10 * numerator) (places + 1)
      have shifted (count : Nat) : 10 * numerator * 10 ^ count = numerator * 10 ^ (count + 1) := by ring
      rw [if_neg reached, found]
      refine ⟨more + 1, by omega, fun fewer below => ?_, ?_⟩
      · cases fewer with
        | zero => rwa [pow_zero, Nat.mul_one, ← Nat.not_le]
        | succ fewer =>
          rw [← shifted]
          exact least fewer (by omega)
      · rw [← shifted]
        exact ended.imp_right (congrArg (· + 1))

/-- The least number of all significant digits. -/
def leastDigits : Nat := 10 ^ 27

/-- With fewer places a quotient has not all significant digits. -/
theorem lt_of_lt_placesFor {fewer : Nat} (less : fewer < placesFor numerator denominator) :
    numerator * 10 ^ fewer < denominator * leastDigits := by
  obtain ⟨places, found, least, _⟩ := placesFrom_spec numerator (denominator * leastDigits)
    (Nat.log2 (denominator * leastDigits) + 1) 0
  have known : placesFor numerator denominator = 0 + places := found
  exact least fewer (by omega)

/-- **With its places a quotient has all significant digits**, unless it is zero. -/
theorem placesFor_reaches (nonzero : 0 < numerator) :
    denominator * leastDigits ≤ numerator * 10 ^ placesFor numerator denominator := by
  obtain ⟨places, found, _, ended⟩ := placesFrom_spec numerator (denominator * leastDigits)
    (Nat.log2 (denominator * leastDigits) + 1) 0
  have known : placesFor numerator denominator = 0 + places := found
  rw [known, Nat.zero_add]
  rcases ended with reached | spent
  · exact reached
  · have enough : denominator * leastDigits < 2 ^ places := by
      rw [spent]
      exact Nat.lt_log2_self
    calc denominator * leastDigits ≤ 2 ^ places := enough.le
      _ ≤ 10 ^ places := Nat.pow_le_pow_left (by decide) places
      _ ≤ numerator * 10 ^ places := Nat.le_mul_of_pos_left _ nonzero

/-- A quotient rounded to significant digits, as a whole number of units of the last place. -/
def digitsOf (numerator denominator : Nat) : Nat :=
  roundDiv .toEven (numerator * 10 ^ placesFor numerator denominator) denominator

theorem le_digitsOf (positive : 0 < denominator) (nonzero : 0 < numerator) :
    leastDigits ≤ digitsOf numerator denominator := by
  refine le_roundDiv _ positive ?_
  rw [Nat.mul_comm]
  exact placesFor_reaches nonzero

theorem digitsOf_le (positive : 0 < denominator) (some_places : 0 < placesFor numerator denominator) :
    digitsOf numerator denominator ≤ 10 * leastDigits := by
  obtain ⟨places, known⟩ : ∃ places, placesFor numerator denominator = places + 1 :=
    ⟨placesFor numerator denominator - 1, by omega⟩
  have less : numerator * 10 ^ places < denominator * leastDigits :=
    lt_of_lt_placesFor (known ▸ Nat.lt_succ_self places)
  refine roundDiv_le _ positive ?_
  rw [known]
  calc numerator * 10 ^ (places + 1) = 10 * (numerator * 10 ^ places) := by ring
    _ ≤ 10 * (denominator * leastDigits) := Nat.mul_le_mul_left _ less.le
    _ = 10 * leastDigits * denominator := by ring

/-- The hundredths are the digits rounded to two places. -/
theorem hundredthsOf_eq (numerator denominator : Nat) :
    hundredthsOf numerator denominator
      = roundDiv .away (100 * digitsOf numerator denominator) (10 ^ placesFor numerator denominator) := by
  unfold hundredthsOf digitsOf
  dsimp only
  rw [Nat.pow_eq]
  generalize roundDiv .toEven (numerator * 10 ^ placesFor numerator denominator) denominator = digits
  generalize placesFor numerator denominator = places
  have power : 0 < 10 ^ places := Nat.pow_pos (by decide)
  by_cases few : places < 2
  · have whole : 100 * digits = digits * 10 ^ (2 - places) * 10 ^ places := by
      rw [Nat.mul_assoc, ← Nat.pow_add, Nat.sub_add_cancel few.le, Nat.mul_comm]
    rw [if_pos few, Nat.pow_eq, whole, roundDiv_mul_self _ power]
  · have scale : 10 ^ places = 100 * 10 ^ (places - 2) := by
      rw [show 100 = 10 ^ 2 from rfl, ← Nat.pow_add, Nat.add_sub_cancel' (Nat.not_lt.mp few)]
    rw [if_neg few, Nat.pow_eq, scale, roundDiv_scale _ (Nat.pow_pos (by decide)) (by decide)]

/-! ### The order of quotients -/

/-- A greater quotient needs no more places. -/
theorem placesFor_antitone (positive : 0 < denominator) (nonzero : 0 < numerator)
    (ordered : numerator * denominator' ≤ numerator' * denominator) :
    placesFor numerator' denominator' ≤ placesFor numerator denominator := by
  by_contra more
  have less : numerator' * 10 ^ placesFor numerator denominator < denominator' * leastDigits :=
    lt_of_lt_placesFor (Nat.lt_of_not_le more)
  have reached : denominator * leastDigits ≤ numerator * 10 ^ placesFor numerator denominator :=
    placesFor_reaches nonzero
  generalize 10 ^ placesFor numerator denominator = power at less reached
  refine Nat.lt_irrefl (denominator' * (denominator * leastDigits)) ?_
  calc denominator' * (denominator * leastDigits)
      ≤ denominator' * (numerator * power) := Nat.mul_le_mul_left _ reached
    _ = numerator * denominator' * power := by ring
    _ ≤ numerator' * denominator * power := Nat.mul_le_mul_right _ ordered
    _ = denominator * (numerator' * power) := by ring
    _ < denominator * (denominator' * leastDigits) := Nat.mul_lt_mul_of_pos_left less positive
    _ = denominator' * (denominator * leastDigits) := by ring

theorem digitsOf_zero (positive : 0 < denominator) : digitsOf 0 denominator = 0 := by
  refine Nat.le_zero.mp (roundDiv_le _ positive ?_)
  rw [Nat.zero_mul, Nat.zero_mul]

/-- The rounded quotients, in units of a common place, are in the order of the quotients. -/
theorem digitsOf_mono (positive : 0 < denominator) (positive' : 0 < denominator')
    (ordered : numerator * denominator' ≤ numerator' * denominator) :
    digitsOf numerator denominator * 10 ^ placesFor numerator' denominator'
      ≤ digitsOf numerator' denominator' * 10 ^ placesFor numerator denominator := by
  rcases Nat.eq_zero_or_pos numerator with rfl | nonzero
  · rw [digitsOf_zero positive, Nat.zero_mul]
    exact Nat.zero_le _
  have nonzero' : 0 < numerator' := by
    by_contra zero
    have none : numerator' = 0 := by omega
    rw [none, Nat.zero_mul] at ordered
    exact absurd (Nat.mul_pos nonzero positive') (Nat.not_lt.mpr ordered)
  rcases Nat.lt_or_eq_of_le (placesFor_antitone positive nonzero ordered) with fewer | same
  -- With fewer places the greater quotient has a digit more in front of the point.
  · calc digitsOf numerator denominator * 10 ^ placesFor numerator' denominator'
        ≤ 10 * leastDigits * 10 ^ placesFor numerator' denominator' :=
          Nat.mul_le_mul_right _ (digitsOf_le positive (Nat.zero_lt_of_lt fewer))
      _ = leastDigits * 10 ^ (placesFor numerator' denominator' + 1) := by ring
      _ ≤ leastDigits * 10 ^ placesFor numerator denominator :=
          Nat.mul_le_mul_left _ (Nat.pow_le_pow_right (by decide) fewer)
      _ ≤ digitsOf numerator' denominator' * 10 ^ placesFor numerator denominator :=
          Nat.mul_le_mul_right _ (le_digitsOf positive' nonzero')
  · rw [same]
    refine Nat.mul_le_mul_right _ (roundDiv_mono _ positive positive' ?_)
    rw [same]
    calc numerator * 10 ^ placesFor numerator denominator * denominator'
        = numerator * denominator' * 10 ^ placesFor numerator denominator := by ring
      _ ≤ numerator' * denominator * 10 ^ placesFor numerator denominator :=
          Nat.mul_le_mul_right _ ordered
      _ = numerator' * 10 ^ placesFor numerator denominator * denominator := by ring

/-- **A greater quotient has no fewer hundredths.** -/
theorem hundredthsOf_mono (positive : 0 < denominator) (positive' : 0 < denominator')
    (ordered : numerator * denominator' ≤ numerator' * denominator) :
    hundredthsOf numerator denominator ≤ hundredthsOf numerator' denominator' := by
  have power (places : Nat) : 0 < 10 ^ places := Nat.pow_pos (by decide)
  rw [hundredthsOf_eq, hundredthsOf_eq]
  refine roundDiv_mono _ (power _) (power _) ?_
  rw [Nat.mul_assoc, Nat.mul_assoc]
  exact Nat.mul_le_mul_left _ (digitsOf_mono positive positive' ordered)

/-- A whole number is kept by both roundings. -/
theorem hundredthsOf_one (whole : Nat) : hundredthsOf whole 1 = 100 * whole := by
  have power : 0 < 10 ^ placesFor whole 1 := Nat.pow_pos (by decide)
  have digits : digitsOf whole 1 = whole * 10 ^ placesFor whole 1 := by
    have kept : roundDiv .toEven (whole * 10 ^ placesFor whole 1 * 1) 1 = whole * 10 ^ placesFor whole 1 :=
      roundDiv_mul_self _ Nat.one_pos
    rwa [Nat.mul_one] at kept
  rw [hundredthsOf_eq, digits, ← Nat.mul_assoc, roundDiv_mul_self _ power]

/-- A part of at most some times the total is as many hundreds of hundredths at most. -/
theorem hundredthsOf_le {part total times : Nat} (positive : 0 < total) (few : part ≤ times * total) :
    hundredthsOf (100 * part) total ≤ 100 * (100 * times) := by
  have ordered : 100 * part * 1 ≤ 100 * times * total := by
    rw [Nat.mul_one, Nat.mul_assoc]
    exact Nat.mul_le_mul_left 100 few
  exact (hundredthsOf_mono positive Nat.one_pos ordered).trans_eq (hundredthsOf_one _)

/-! ### Small parts -/

variable {part total : Nat}

/-- A small part of a total needs so many places that the total has fewer digits than those after the second. -/
theorem exists_places (nonzero : 0 < part) (positive : 0 < total) (small : part < 10 ^ 23) :
    ∃ power, 10 ^ placesFor (100 * part) total = 1000 * power ∧ total < 10 * power := by
  have reached : total * leastDigits ≤ 100 * part * 10 ^ placesFor (100 * part) total :=
    placesFor_reaches (by omega)
  generalize placesFor (100 * part) total = places at reached
  have many : 100 * total < 10 ^ places := by
    have most : 100 * part * 10 ^ places < 10 ^ 25 * 10 ^ places :=
      Nat.mul_lt_mul_of_pos_right (by omega) (Nat.pow_pos (by decide))
    have above : total * leastDigits < 10 ^ 25 * 10 ^ places := reached.trans_lt most
    have split : total * leastDigits = 10 ^ 25 * (100 * total) := by
      unfold leastDigits
      ring
    rw [split] at above
    exact Nat.lt_of_mul_lt_mul_left above
  have three : 3 ≤ places := by
    by_contra few
    have most : 10 ^ places ≤ 10 ^ 2 := Nat.pow_le_pow_right (by decide) (by omega)
    omega
  have split : 10 ^ places = 1000 * 10 ^ (places - 3) := by
    rw [show 1000 = 10 ^ 3 from rfl, ← Nat.pow_add, Nat.add_sub_cancel' three]
  exact ⟨10 ^ (places - 3), split, by omega⟩

/-- **Rounding twice is rounding once**, if the first rounding is to units of which there are more in a place
of the second than the denominator counts. A quotient below a tie is then more than half a unit below it. -/
theorem roundDiv_roundDiv {power : Nat} (positive : 0 < total) (fine : total < 10 * power) :
    roundDiv .away (100 * roundDiv .toEven (100 * part * (1000 * power)) total) (1000 * power)
      = (20000 * part + total) / (2 * total) := by
  have low := le_two_mul_roundDiv .toEven (100 * part * (1000 * power)) total positive
  have high := two_mul_roundDiv_le .toEven (100 * part * (1000 * power)) total
  generalize roundDiv .toEven (100 * part * (1000 * power)) total = digits at low high
  have once : (20000 * part + total) / (2 * total) * (2 * total) ≤ 20000 * part + total :=
    Nat.div_mul_le_self _ _
  have next : 20000 * part + total < ((20000 * part + total) / (2 * total) + 1) * (2 * total) :=
    Nat.lt_mul_of_div_lt (Nat.lt_succ_self _) (by omega)
  generalize (20000 * part + total) / (2 * total) = rounded at once next
  rw [roundDiv_away_eq (by omega)]
  refine Nat.div_eq_of_lt_le ?_ ?_
  · have doubled : total * (20 * (rounded * power)) ≤ total * (2 * digits + 10 * power + 1) :=
      calc total * (20 * (rounded * power)) = rounded * (2 * total) * (10 * power) := by ring
        _ ≤ (20000 * part + total) * (10 * power) := Nat.mul_le_mul_right _ once
        _ = 2 * (100 * part * (1000 * power)) + 10 * power * total := by ring
        _ ≤ 2 * total * digits + total + 10 * power * total := Nat.add_le_add_right low _
        _ = total * (2 * digits + 10 * power + 1) := by ring
    have halves := Nat.le_of_mul_le_mul_left doubled positive
    have parts : rounded * (2 * (1000 * power)) = 2000 * (rounded * power) := by ring
    omega
  · have doubled : total * (2 * digits + 10 * power) < total * (20 * ((rounded + 1) * power)) :=
      calc total * (2 * digits + 10 * power) = 2 * total * digits + 10 * power * total := by ring
        _ ≤ 2 * (100 * part * (1000 * power)) + total + 10 * power * total := Nat.add_le_add_right high _
        _ < 2 * (100 * part * (1000 * power)) + 10 * power + 10 * power * total := by omega
        _ = (20000 * part + total + 1) * (10 * power) := by ring
        _ ≤ (rounded + 1) * (2 * total) * (10 * power) := Nat.mul_le_mul_right _ next
        _ = total * (20 * ((rounded + 1) * power)) := by ring
    have halves := Nat.lt_of_mul_lt_mul_left doubled
    have parts : (rounded + 1) * (2 * (1000 * power)) = 2000 * ((rounded + 1) * power) := by ring
    omega

/-- **The hundredths of a small part are those of one rounding.** -/
theorem hundredthsOf_eq_div (positive : 0 < total) (small : part < 10 ^ 23) :
    hundredthsOf (100 * part) total = (20000 * part + total) / (2 * total) := by
  rcases Nat.eq_zero_or_pos part with rfl | nonzero
  · have none : (20000 * 0 + total) / (2 * total) = 0 := Nat.div_eq_of_lt (by omega)
    rw [none, hundredthsOf_eq, Nat.mul_zero, digitsOf_zero positive]
    exact Nat.le_zero.mp (roundDiv_le _ (Nat.pow_pos (by decide)) (by omega))
  · obtain ⟨power, known, fine⟩ := exists_places nonzero positive small
    rw [hundredthsOf_eq, digitsOf, known]
    exact roundDiv_roundDiv positive fine

/-! ### Percentages -/

namespace Percentage

/-- A percentage is defined exactly when it has no more than the significant digits. -/
theorem of_natCast (part : Nat) (positive : 0 < total) :
    Percentage.of part (some (total : Int))
      = if 10 ^ 28 ≤ hundredthsOf (100 * part) total then .error .percentageOverflow
        else .ok (some ⟨false, hundredthsOf (100 * part) total⟩) := by
  have nonzero : (total : Int) ≠ 0 := by omega
  have sign : (decide ((part : Int) < 0) != decide ((total : Int) < 0)) = false := by
    rw [decide_eq_false (by omega), decide_eq_false (by omega)]
    rfl
  unfold Percentage.of
  split
  · rename_i none
    cases none
  · rename_i zero
    exact absurd (Option.some.inj zero) nonzero
  · rename_i other known
    obtain rfl := Option.some.inj known
    rw [Int.natAbs_natCast, Int.natAbs_natCast, sign]
    rfl

/-- **A lesser part of a greater total has no greater percentage**, and has one if the other has. -/
theorem of_mono {part' total' : Nat} {percentage' : Percentage} (fewer : part ≤ part') (more : total' ≤ total)
    (positive : 0 < total')
    (defined : Percentage.of part' (some (total' : Int)) = .ok (some percentage')) :
    ∃ percentage, Percentage.of part (some (total : Int)) = .ok (some percentage)
      ∧ percentage.negative = false ∧ percentage'.negative = false
      ∧ percentage.hundredths ≤ percentage'.hundredths := by
  have ordered : hundredthsOf (100 * part) total ≤ hundredthsOf (100 * part') total' :=
    hundredthsOf_mono (positive.trans_le more) positive
      (Nat.mul_le_mul (Nat.mul_le_mul_left _ fewer) more)
  rw [of_natCast part' positive] at defined
  rw [of_natCast part (positive.trans_le more)]
  split at defined
  · cases defined
  · rename_i below
    obtain rfl := Option.some.inj (Except.ok.inj defined)
    exact ⟨_, if_neg (by omega), rfl, rfl, ordered⟩

end Percentage

/-- A number of hundredths as a decimal with two places. -/
def twoPlaces (hundredths : Nat) : String :=
  toString (hundredths / 100) ++ "."
    ++ String.ofList [Nat.digitChar (hundredths / 10 % 10), Nat.digitChar (hundredths % 10)]

theorem hundredthsText_eq (hundredths : Nat) : hundredthsText hundredths = twoPlaces hundredths := by
  have places : ∀ value < 100, (if value < 10 then "0" else "") ++ toString value
      = String.ofList [Nat.digitChar (value / 10), Nat.digitChar (value % 10)] := by
    decide +kernel
  have tens : hundredths % 100 / 10 = hundredths / 10 % 10 := by omega
  have ones : hundredths % 100 % 10 = hundredths % 10 := by omega
  unfold hundredthsText twoPlaces
  dsimp only
  rw [String.append_assoc, places _ (Nat.mod_lt _ (by decide)), tens, ones]

/-- **The percentage of a part below `10 ^ 23`** is the part of a hundred rounded once, a half away from zero, and
a report tells it with two places. -/
theorem percentage_eq_rounded (part total : Nat) (positive : 1 ≤ total) (small : part < 10 ^ 23) :
    ∃ percentage, Percentage.of part (some (total : Int)) = .ok (some percentage)
      ∧ percentage.negative = false
      ∧ percentage.hundredths = (20000 * part + total) / (2 * total)
      ∧ shareText part total percentage
          = "Unsafe lines: " ++ toString part ++ "/" ++ toString total ++ " ("
            ++ twoPlaces ((20000 * part + total) / (2 * total)) ++ "%)" := by
  have rounded := hundredthsOf_eq_div positive small
  have bound : (20000 * part + total) / (2 * total) < 10 ^ 28 := by
    rw [Nat.div_lt_iff_lt_mul (by omega)]
    omega
  refine ⟨⟨false, (20000 * part + total) / (2 * total)⟩, ?_, rfl, rfl, ?_⟩
  · rw [Percentage.of_natCast part positive, rounded, if_neg (Nat.not_le.mpr bound)]
  · rw [← hundredthsText_eq]
    rfl

/-- One line in thirty-two is halfway between two hundredths. -/
theorem percentage_eq_rounded_half :
    1 ≤ 32 ∧ 1 < 10 ^ 23
      ∧ ∃ percentage, Percentage.of (1 : Nat) (some ((32 : Nat) : Int)) = .ok (some percentage)
        ∧ percentage.hundredths = 313
        ∧ shareText (1 : Nat) (32 : Nat) percentage = "Unsafe lines: 1/32 (3.13%)" := by
  obtain ⟨percentage, defined, _, hundredths, text⟩ := percentage_eq_rounded 1 32 (by decide) (by decide)
  refine ⟨by decide, by decide, percentage, defined, hundredths, text.trans ?_⟩
  decide +kernel

end UnsafeCensus.Census
