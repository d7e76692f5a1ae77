/-
**Numbers with two places.**

* `hundredthsText`: a count of hundredths with a point before its last two digits;
* `Binary64.fixed`: a number of 64 bits rounded to hundredths, a tie of its exact value to the even one.
-/

import UnsafeCensus.Number.Shortest

namespace UnsafeCensus

/-- A count of hundredths as a number with two places. -/
def hundredthsText (hundredths : Nat) : String :=
  let places := hundredths % 100
  toString (hundredths / 100) ++ "." ++ (if places < 10 then "0" else "") ++ toString places

/-- A number of 64 bits with two places. -/
def Binary64.fixed : Binary64 → String
  | nan => "nan"
  | infinite negative => if negative then "-inf" else "inf"
  | finite negative significand exponent =>
    let (numerator, denominator) := quotient significand exponent
    (if negative then "-" else "")
      ++ hundredthsText (Rounding.roundDiv .toEven (100 * numerator) denominator)

end UnsafeCensus
