/-
**Reports of one line.**

A report tells the number of lines in unsafe regions, and of how many lines in all that is what
percentage when the total is known.

* `Format`: what a report tells;
* `countText`, `shareText`: the two forms of a report;
* `report`: the report of some metrics.
-/

import UnsafeCensus.Attempt
import UnsafeCensus.Census.Metrics

namespace UnsafeCensus.Census

/-- What a report tells. -/
inductive Format where
  | count
  | percentage
  /-- The percentage when there is one, otherwise the count. -/
  | automatic
  deriving DecidableEq, Repr

namespace Format

/-- The formats in the order in which they are told. -/
def all : List Format :=
  [count, percentage, automatic]

/-- The name of a format. -/
def name : Format → String
  | count => "count"
  | percentage => "percentage"
  | automatic => "auto"

/-- The format of a name, whose letters may be of either case. -/
def ofName? (name : String) : Option Format :=
  all.find? fun format => format.name == String.ofList (name.toList.map Char.toLower)

/-- A format is found by its name. -/
theorem ofName?_name (format : Format) : ofName? format.name = some format := by
  cases format <;> decide

end Format

/-- The report of a count. -/
def countText (unsafeLines : Int) : String :=
  "Unsafe lines: " ++ toString unsafeLines

/-- The report of a count, a total and a percentage. -/
def shareText (unsafeLines total : Int) (percentage : Percentage) : String :=
  countText unsafeLines ++ "/" ++ toString total ++ " (" ++ percentage.text ++ "%)"

/-- The report of some metrics. -/
def report (metrics : Metrics) (format : Format) : Attempt String := do
  if format = .count then return countText metrics.unsafeLines
  else if metrics.hasTotal then
    match ← metrics.percentage with
    | some percentage =>
      return shareText metrics.unsafeLines (metrics.lineCount.getD 0) percentage
    | none => return countText metrics.unsafeLines
  else
    if format = .percentage then Attempt.warn .noTotalForReport
    return countText metrics.unsafeLines

end UnsafeCensus.Census
