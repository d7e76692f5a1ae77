/-
**Percentages.**

A percentage is computed twice rounded: the quotient to 28 significant digits, a tie to the even one, and
the result to two places, a tie away from zero. It is refused when it has more than 28 digits.

* `Percentage`: a sign and a number of hundredths;
* `placesFor`: how many places the significant digits of a quotient take;
* `hundredthsOf`: the hundredths of a quotient after both roundings;
* `Percentage.of`: the percentage of a part, if there is a total;
* `Percentage.text`, `Percentage.real`: the percentage written out and as a number of 64 bits.
-/

import UnsafeCensus.Failure
import UnsafeCensus.Number.Hundredths

namespace UnsafeCensus.Census

open Rounding

/-- A percentage with two places; zero may have a sign. -/
structure Percentage where
  negative : Bool
  hundredths : Nat
  deriving DecidableEq, Repr

/-- The number of significant digits that percentages are computed with. -/
def significantDigits : Nat := 28

/-- The least number of places, from `places` on, with which a quotient reaches a bound. The quotient
is `numerator / denominator` and the bound `target / denominator`; `fuel` bounds the search. -/
def placesFrom (numerator target : Nat) : Nat → Nat → Nat
  | 0, places => places
  | fuel + 1, places =>
    if target ≤ numerator then places else placesFrom (10 * numerator) target fuel (places + 1)

/-- The least number of places with which a quotient has all significant digits. -/
def placesFor (numerator denominator : Nat) : Nat :=
  let target := denominator * Nat.pow 10 (significantDigits - 1)
  placesFrom numerator target (Nat.log2 target + 1) 0

/-- The hundredths of a quotient, rounded to significant digits and then to two places. -/
def hundredthsOf (numerator denominator : Nat) : Nat :=
  let places := placesFor numerator denominator
  let digits := roundDiv .toEven (numerator * Nat.pow 10 places) denominator
  if places < 2 then digits * Nat.pow 10 (2 - places)
  else roundDiv .away digits (Nat.pow 10 (places - 2))

namespace Percentage

/-- The percentage that a part is of a total; there is none of a missing total or of zero. -/
def of (part : Int) (total : Option Int) : Except Failure (Option Percentage) :=
  match total with
  | none | some 0 => .ok none
  | some total =>
    let hundredths := hundredthsOf (100 * part.natAbs) total.natAbs
    if Nat.pow 10 significantDigits ≤ hundredths then .error .percentageOverflow
    else .ok (some ⟨(part < 0) != (total < 0), hundredths⟩)

/-- The percentage written out. -/
def text (percentage : Percentage) : String :=
  (if percentage.negative then "-" else "") ++ hundredthsText percentage.hundredths

/-- The percentage as a number of 64 bits. -/
def real (percentage : Percentage) : Binary64 :=
  .ofRatio percentage.negative percentage.hundredths 100

end Percentage

end UnsafeCensus.Census
