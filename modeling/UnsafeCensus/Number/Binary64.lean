/-
**Numbers of 64 bits.**

A finite number is a whole significand times a power of two: the significand is below `2 ^ 53`, and it
is at least `2 ^ 52` unless the exponent is the least one. A quotient is rounded to the nearest such
number, a tie to the even significand, and is infinite when that number would be too large.

* `Binary64`: the numbers, with both infinities, both zeros and the number that is none;
* `ofRatio`, `ofDecimal`, `ofInt`: the nearest number to a quotient, to a decimal and to an integer;
* `Amount`: an integer of any size or a number of 64 bits, and the exact order of amounts.
-/

import UnsafeCensus.Number.Rounding

namespace UnsafeCensus

open Rounding

/-- A number of 64 bits. -/
inductive Binary64 where
  | nan
  | infinite (negative : Bool)
  /-- The number `significand * 2 ^ exponent`, or its opposite. -/
  | finite (negative : Bool) (significand : Nat) (exponent : Int)
  deriving DecidableEq, Repr

namespace Binary64

/-- The least exponent. -/
def leastExponent : Int := -1074

/-- The greatest exponent. -/
def greatestExponent : Int := 971

/-- Zero. -/
def zero (negative : Bool) : Binary64 :=
  finite negative 0 leastExponent

/-- The whole number nearest `numerator / denominator / 2 ^ exponent`. -/
def scaled (tie : Tie) (numerator denominator : Nat) (exponent : Int) : Nat :=
  if exponent < 0 then roundDiv tie (numerator * Nat.pow 2 exponent.natAbs) denominator
  else roundDiv tie numerator (denominator * Nat.pow 2 exponent.toNat)

/-- Whether a quotient is below a power of two. -/
def belowPower (numerator denominator : Nat) (exponent : Int) : Bool :=
  if exponent < 0 then numerator * Nat.pow 2 exponent.natAbs < denominator
  else numerator < denominator * Nat.pow 2 exponent.toNat

/-- The order of a quotient: the greatest power of two that is not above it. -/
def order (numerator denominator : Nat) : Int :=
  let guess : Int := (Nat.log2 numerator : Int) - Nat.log2 denominator
  if belowPower numerator denominator guess then guess - 1 else guess

/-- The number with a significand of at most `2 ^ 53`, which may need one more bit. -/
def ofSignificand (negative : Bool) (significand : Nat) (exponent : Int) : Binary64 :=
  let (significand, exponent) :=
    if significand = Nat.pow 2 53 then (Nat.pow 2 52, exponent + 1) else (significand, exponent)
  if greatestExponent < exponent then infinite negative
  else finite negative significand exponent

/-- The number nearest `numerator / denominator`. -/
def ofRatio (negative : Bool) (numerator denominator : Nat) : Binary64 :=
  if numerator = 0 then zero negative
  else
    let exponent := max (order numerator denominator - 52) leastExponent
    ofSignificand negative (scaled .toEven numerator denominator exponent) exponent

/-- How many digits a number has in base ten, nought for zero. -/
def digitCount (value : Nat) : Nat :=
  if value = 0 then 0 else (Nat.toDigits 10 value).length

/-- The number nearest `digits * 10 ^ exponent`; far beyond the range the power is not computed. -/
def ofDecimal (negative : Bool) (digits : Nat) (exponent : Int) : Binary64 :=
  let magnitude : Int := digitCount digits + exponent
  if digits = 0 then zero negative
  else if 310 < magnitude then infinite negative
  else if magnitude < -330 then zero negative
  else if exponent < 0 then ofRatio negative digits (Nat.pow 10 exponent.natAbs)
  else ofRatio negative (digits * Nat.pow 10 exponent.toNat) 1

/-- The number nearest an integer. -/
def ofInt (value : Int) : Binary64 :=
  ofRatio (value < 0) value.natAbs 1

/-- A finite number in units of the least positive one. -/
def units (negative : Bool) (significand : Nat) (exponent : Int) : Int :=
  let size : Int := significand * Nat.pow 2 (exponent - leastExponent).toNat
  if negative then -size else size

end Binary64

/-- An integer of any size or a number of 64 bits. -/
inductive Amount where
  | whole (value : Int)
  | real (value : Binary64)
  deriving DecidableEq, Repr

namespace Amount

/-- Where an amount stands in the order: a rank for the infinities around the finite amounts, and the
value of a finite one in units of the least positive number of 64 bits. -/
def place? : Amount → Option (Int × Int)
  | whole value => some (0, value * Nat.pow 2 1074)
  | real .nan => none
  | real (.infinite negative) => some (if negative then -1 else 1, 0)
  | real (.finite negative significand exponent) =>
    some (0, Binary64.units negative significand exponent)

/-- Whether one amount is below another, exactly; nothing is below or above what is no number. -/
def below (first second : Amount) : Bool :=
  match first.place?, second.place? with
  | some (rank, value), some (rank', value') =>
    rank < rank' || (rank == rank' && value < value')
  | _, _ => false

/-- No amount is below itself. -/
theorem below_self (amount : Amount) : amount.below amount = false := by
  unfold below
  cases amount.place? <;> simp

/-- The order of amounts is transitive. -/
theorem below_trans {first second third : Amount} (left : first.below second = true)
    (right : second.below third = true) : first.below third = true := by
  unfold below at *
  revert left right
  cases first.place? <;> cases second.place? <;> cases third.place? <;> simp
  omega

end Amount

end UnsafeCensus
