/-
**Rounding a quotient to a whole number.**

* `Tie`: what becomes of a quotient halfway between two numbers;
* `roundDiv`: the whole number nearest a quotient;
* `le_two_mul_roundDiv`, `two_mul_roundDiv_le`: it lies within half a unit.
-/

namespace UnsafeCensus.Rounding

/-- Where a quotient goes that lies halfway between two whole numbers. -/
inductive Tie where
  /-- To the even one. -/
  | toEven
  /-- To the larger one, which is the one farther from zero. -/
  | away
  deriving DecidableEq, Repr

/-- What a tie adds to the whole part. -/
def Tie.step : Tie → Nat → Nat
  | toEven, whole => whole % 2
  | away, _ => 1

/-- The whole number nearest `numerator / denominator`. -/
def roundDiv (tie : Tie) (numerator denominator : Nat) : Nat :=
  let whole := numerator / denominator
  let twice := 2 * (numerator % denominator)
  if twice < denominator then whole
  else if denominator < twice then whole + 1
  else whole + tie.step whole

/-- A tie adds at most one. -/
theorem Tie.step_le (tie : Tie) (whole : Nat) : tie.step whole ≤ 1 := by
  cases tie
  · exact Nat.lt_succ_iff.mp (Nat.mod_lt whole (by decide))
  · exact Nat.le_refl 1

/-- The rounded quotient is at most half a unit below. -/
theorem le_two_mul_roundDiv (tie : Tie) (numerator denominator : Nat)
    (positive : 0 < denominator) :
    2 * numerator ≤ 2 * denominator * roundDiv tie numerator denominator + denominator := by
  have parts := Nat.div_add_mod numerator denominator
  have small := Nat.mod_lt numerator positive
  have step := Nat.mul_le_mul_left denominator
    (Nat.le_add_right (numerator / denominator) (tie.step (numerator / denominator)))
  rw [Nat.mul_assoc]
  simp only [roundDiv]
  split
  · omega
  · split
    · rw [Nat.mul_add]
      omega
    · omega

/-- The rounded quotient is at most half a unit above. -/
theorem two_mul_roundDiv_le (tie : Tie) (numerator denominator : Nat) :
    2 * denominator * roundDiv tie numerator denominator ≤ 2 * numerator + denominator := by
  have parts := Nat.div_add_mod numerator denominator
  have step := Nat.mul_le_mul_left denominator
    (Nat.add_le_add_left (tie.step_le (numerator / denominator)) (numerator / denominator))
  rw [Nat.mul_assoc]
  simp only [roundDiv]
  rw [Nat.mul_add denominator _ 1] at step
  split
  · omega
  · split
    · rw [Nat.mul_add]
      omega
    · omega

end UnsafeCensus.Rounding
