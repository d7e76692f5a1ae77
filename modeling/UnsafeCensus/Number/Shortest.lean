/-
**The shortest decimal of a number.**

Among the decimals with the fewest digits that are read back as the number, the one nearest to it is
taken. On the grid of decimals with a given count of digits only the two neighbours of the number can be
nearest, so they alone are tried, the nearer first.

* `Decimal`: a coefficient and a power of ten;
* `neighbours`: the two decimals around a quotient on a grid, the nearer first;
* `shortest`: the shortest decimal of a finite number;
* `text`: the number written out, positionally for exponents from -4 to 15.
-/

import UnsafeCensus.Number.Binary64

namespace UnsafeCensus

open Rounding

/-- The number `coefficient * 10 ^ exponent`. -/
structure Decimal where
  coefficient : Nat
  exponent : Int
  deriving DecidableEq, Repr

namespace Decimal

/-- The number of 64 bits nearest a decimal. -/
def read (negative : Bool) (decimal : Decimal) : Binary64 :=
  .ofDecimal negative decimal.coefficient decimal.exponent

/-- The decimal without the zeros that end its coefficient. -/
def trimmed (decimal : Decimal) : Decimal :=
  let digits := (Nat.toDigits 10 decimal.coefficient).reverse
  let zeros := (digits.takeWhile (· == '0')).length
  ⟨decimal.coefficient / Nat.pow 10 zeros, decimal.exponent + zeros⟩

/-- A quotient over a power of ten, as a quotient. -/
def overPower (numerator denominator : Nat) (exponent : Int) : Nat × Nat :=
  if exponent < 0 then (numerator * Nat.pow 10 exponent.natAbs, denominator)
  else (numerator, denominator * Nat.pow 10 exponent.toNat)

/-- The greatest power of ten that is not above a quotient. -/
def order (numerator denominator : Nat) : Int :=
  let guess : Int := (Binary64.digitCount numerator : Int) - Binary64.digitCount denominator
  let (top, bottom) := overPower numerator denominator guess
  if top < bottom then guess - 1 else guess

/-- The two decimals around a quotient that are multiples of a power of ten, the nearer first. -/
def neighbours (numerator denominator : Nat) (exponent : Int) : List Decimal :=
  let (top, bottom) := overPower numerator denominator exponent
  let lower := top / bottom
  let nearer := roundDiv .toEven top bottom
  [⟨nearer, exponent⟩, ⟨if nearer = lower then lower + 1 else lower, exponent⟩]

/-- The first decimal of at most `more` further digits that is read back, starting from a power of
ten as the unit and refining it by one digit at a time. -/
def refine (numerator denominator : Nat) (readsBack : Decimal → Bool) : Nat → Int → Option Decimal
  | 0, _ => none
  | more + 1, exponent =>
    match (neighbours numerator denominator exponent).find? readsBack with
    | some decimal => some decimal
    | none => refine numerator denominator readsBack more (exponent - 1)

/-- A refinement is one of the decimals that are read back. -/
theorem refine_readsBack {numerator denominator : Nat} {readsBack : Decimal → Bool} {more : Nat}
    {exponent : Int} {decimal : Decimal}
    (found : refine numerator denominator readsBack more exponent = some decimal) :
    readsBack decimal = true := by
  induction more generalizing exponent with
  | zero => simp [refine] at found
  | succ more hypothesis =>
    rw [refine] at found
    split at found
    · rename_i equal
      rw [Option.some.injEq] at found
      exact found ▸ List.find?_some equal
    · exact hypothesis found

end Decimal

namespace Binary64

/-- The most digits that a number of 64 bits needs. -/
def mostDigits : Nat := 17

/-- A finite magnitude as a quotient. -/
def quotient (significand : Nat) (exponent : Int) : Nat × Nat :=
  if exponent < 0 then (significand, Nat.pow 2 exponent.natAbs)
  else (significand * Nat.pow 2 exponent.toNat, 1)

/-- The shortest decimal of a finite magnitude. -/
def shortest (significand : Nat) (exponent : Int) : Decimal :=
  let (numerator, denominator) := quotient significand exponent
  if numerator = 0 then ⟨0, 0⟩
  else
    let readsBack (decimal : Decimal) := decimal.read false == finite false significand exponent
    ((Decimal.refine numerator denominator readsBack mostDigits
      (Decimal.order numerator denominator)).getD ⟨0, 0⟩).trimmed

/-- The exponent in the text of a decimal: a sign and at least two digits. -/
def exponentText (exponent : Int) : String :=
  let digits := toString exponent.natAbs
  (if exponent < 0 then "e-" else "e+") ++ (if digits.length < 2 then "0" else "") ++ digits

/-- Zeros in a row. -/
def zeros (count : Nat) : String :=
  String.ofList (List.replicate count '0')

/-- A decimal written out, with at least one digit after the point where it is positional. -/
def layOut (decimal : Decimal) : String :=
  let digits := Nat.toDigits 10 decimal.coefficient
  let count : Int := digits.length
  let point := count + decimal.exponent
  if decimal.coefficient = 0 then "0.0"
  else if -4 < point ∧ point ≤ 16 then
    if point ≤ 0 then "0." ++ zeros point.natAbs ++ String.ofList digits
    else if count ≤ point then
      String.ofList digits ++ zeros (point - count).toNat ++ ".0"
    else
      String.ofList (digits.take point.toNat) ++ "." ++ String.ofList (digits.drop point.toNat)
  else
    let fraction := digits.drop 1
    String.ofList (digits.take 1) ++ (if fraction.isEmpty then "" else ".")
      ++ String.ofList fraction ++ exponentText (point - 1)

/-- The text of a number: its shortest decimal, or a word. -/
def text : Binary64 → String
  | nan => "nan"
  | infinite negative => if negative then "-inf" else "inf"
  | finite negative significand exponent =>
    (if negative then "-" else "") ++ layOut (shortest significand exponent)

end Binary64

end UnsafeCensus
