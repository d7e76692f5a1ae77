/-
**Locations.**

A location names a file, a line counted from one and a column counted from zero.

* `Location`: the locations;
* `of`: the location of two integers;
* `text`: the location as file, line and column.
-/

import UnsafeCensus.Failure

namespace UnsafeCensus.Source

/-- An integer that is not below one is at least one as a natural number. -/
theorem one_le_toNat {value : Int} (notBelow : ¬value < 1) : 1 ≤ value.toNat := by
  omega

/-- A place in a file. -/
structure Location where
  file : String
  line : Nat
  column : Nat
  positive : 1 ≤ line
  deriving DecidableEq, Repr

namespace Location

/-- The location of a line and a column. -/
def of (file : String) (line column : Int) : Except Failure Location :=
  if below : line < 1 then .error (.broken .linePositive)
  else if column < 0 then .error (.broken .columnNonNegative)
  else .ok ⟨file, line.toNat, column.toNat, one_le_toNat below⟩

/-- The location as it is told. -/
def text (location : Location) : String :=
  location.file ++ ":" ++ toString location.line ++ ":" ++ toString location.column

end Location

end UnsafeCensus.Source
