/-
**Rounding keeps the order.**

A greater quotient is rounded to no smaller number, whichever way ties go, and a whole number stays what it is.
So a quotient is not rounded past a whole number on either side of it.

* `roundDiv_mono`: quotients in order are rounded to numbers in order;
* `le_roundDiv`, `roundDiv_le`: a whole number below or above a quotient stays there;
* `roundDiv_scale`, `roundDiv_mul_self`: the quotient alone matters, and a whole one is kept;
* `roundDiv_away_eq`: ties away from zero, as one division.
-/

import Mathlib
import UnsafeCensus.Number.Rounding

namespace UnsafeCensus.Rounding

variable {numerator denominator numerator' denominator' whole : Nat} (tie : Tie)

/-- A rounded quotient is its whole part or one more. -/
theorem roundDiv_bounds (numerator denominator : Nat) :
    numerator / denominator ≤ roundDiv tie numerator denominator
      ∧ roundDiv tie numerator denominator ≤ numerator / denominator + 1 := by
  have step := tie.step_le (numerator / denominator)
  unfold roundDiv
  dsimp only
  split_ifs <;> omega

/-- **Quotients in order are rounded to numbers in order.** -/
theorem roundDiv_mono (positive : 0 < denominator) (positive' : 0 < denominator')
    (ordered : numerator * denominator' ≤ numerator' * denominator) :
    roundDiv tie numerator denominator ≤ roundDiv tie numerator' denominator' := by
  have parts := Nat.div_add_mod numerator denominator
  have parts' := Nat.div_add_mod numerator' denominator'
  obtain ⟨_, above⟩ := roundDiv_bounds tie numerator denominator
  obtain ⟨below, _⟩ := roundDiv_bounds tie numerator' denominator'
  have wholes : numerator / denominator ≤ numerator' / denominator' := by
    rw [Nat.le_div_iff_mul_le positive', Nat.mul_comm]
    refine Nat.le_of_mul_le_mul_right ?_ positive
    calc denominator' * (numerator / denominator) * denominator
        = numerator / denominator * denominator * denominator' := by ring
      _ ≤ numerator * denominator' := Nat.mul_le_mul_right _ (Nat.div_mul_le_self _ _)
      _ ≤ numerator' * denominator := ordered
  rcases Nat.lt_or_eq_of_le wholes with less | same
  · omega
  -- With the same whole part the remainders are in order, so they pass the half in order.
  have rests : numerator % denominator * denominator' ≤ numerator' % denominator' * denominator := by
    rw [← parts, ← parts', same, Nat.add_mul, Nat.add_mul] at ordered
    have common : denominator * (numerator' / denominator') * denominator'
        = denominator' * (numerator' / denominator') * denominator := by ring
    omega
  have step := tie.step_le (numerator / denominator)
  unfold roundDiv
  dsimp only
  rw [← same]
  by_cases low : 2 * (numerator % denominator) < denominator
  · rw [if_pos low]
    split_ifs <;> omega
  have doubled : 2 * (numerator % denominator) * denominator'
      ≤ 2 * (numerator' % denominator') * denominator := by
    rw [Nat.mul_assoc, Nat.mul_assoc]
    exact Nat.mul_le_mul_left 2 rests
  have half : denominator' ≤ 2 * (numerator' % denominator') := by
    refine Nat.le_of_mul_le_mul_right ?_ positive
    calc denominator' * denominator
        = denominator * denominator' := Nat.mul_comm _ _
      _ ≤ 2 * (numerator % denominator) * denominator' := Nat.mul_le_mul_right _ (Nat.not_lt.mp low)
      _ ≤ 2 * (numerator' % denominator') * denominator := doubled
  rw [if_neg low, if_neg (Nat.not_lt.mpr half)]
  by_cases high : denominator < 2 * (numerator % denominator)
  · have high' : denominator' < 2 * (numerator' % denominator') := by
      refine Nat.lt_of_mul_lt_mul_right (a := denominator) ?_
      calc denominator' * denominator
          = denominator * denominator' := Nat.mul_comm _ _
        _ < 2 * (numerator % denominator) * denominator' := Nat.mul_lt_mul_of_pos_right high positive'
        _ ≤ 2 * (numerator' % denominator') * denominator := doubled
    rw [if_pos high, if_pos high']
  · rw [if_neg high]
    split_ifs <;> omega

/-- A whole number that is not above a quotient is not above what it is rounded to. -/
theorem le_roundDiv (positive : 0 < denominator) (notAbove : whole * denominator ≤ numerator) :
    whole ≤ roundDiv tie numerator denominator := by
  obtain ⟨below, _⟩ := roundDiv_bounds tie numerator denominator
  exact ((Nat.le_div_iff_mul_le positive).mpr notAbove).trans below

/-- A quotient that is not above a whole number is rounded to none above it. -/
theorem roundDiv_le (positive : 0 < denominator) (notBelow : numerator ≤ whole * denominator) :
    roundDiv tie numerator denominator ≤ whole := by
  have near := two_mul_roundDiv_le tie numerator denominator
  by_contra more
  have step : denominator * (whole + 1) ≤ denominator * roundDiv tie numerator denominator :=
    Nat.mul_le_mul_left _ (Nat.lt_of_not_le more)
  nlinarith

/-- A whole quotient is kept. -/
theorem roundDiv_mul_self (positive : 0 < denominator) :
    roundDiv tie (whole * denominator) denominator = whole :=
  Nat.le_antisymm (roundDiv_le tie positive le_rfl) (le_roundDiv tie positive le_rfl)

/-- Only the quotient matters. -/
theorem roundDiv_scale {factor : Nat} (positive : 0 < denominator) (factorPositive : 0 < factor) :
    roundDiv tie (factor * numerator) (factor * denominator) = roundDiv tie numerator denominator := by
  have scaled : 0 < factor * denominator := Nat.mul_pos factorPositive positive
  have same : factor * numerator * denominator = numerator * (factor * denominator) := by ring
  exact Nat.le_antisymm (roundDiv_mono tie scaled positive same.le)
    (roundDiv_mono tie positive scaled same.ge)

/-- **With ties away from zero** a quotient is rounded by adding a half and dropping the fraction. -/
theorem roundDiv_away_eq (positive : 0 < denominator) :
    roundDiv .away numerator denominator = (2 * numerator + denominator) / (2 * denominator) := by
  have small := Nat.mod_lt numerator positive
  have split : 2 * numerator + denominator = 2 * denominator * (numerator / denominator)
      + (2 * (numerator % denominator) + denominator) := by
    conv_lhs => rw [← Nat.div_add_mod numerator denominator]
    ring
  rw [split, Nat.mul_add_div (by omega)]
  unfold roundDiv
  dsimp only
  by_cases low : 2 * (numerator % denominator) < denominator
  · have none : (2 * (numerator % denominator) + denominator) / (2 * denominator) = 0 :=
      Nat.div_eq_of_lt (by omega)
    rw [if_pos low, none, Nat.add_zero]
  · have half : (2 * (numerator % denominator) + denominator) / (2 * denominator) = 1 :=
      Nat.div_eq_of_lt_le (by omega) (by omega)
    rw [if_neg low, half]
    split <;> rfl

end UnsafeCensus.Rounding
