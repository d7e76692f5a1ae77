/-
**The gate.**

A unit is held back when its percentage is above a limit.

* `exceeds`: whether it is, for metrics and a limit;
* `gateText`: what is told of a unit that is held back.
-/

import UnsafeCensus.Census.Report

namespace UnsafeCensus.Census

/-- Whether the percentage is above a limit; without a limit or a total it is not. -/
def exceeds (metrics : Metrics) (limit : Option Amount) : Attempt Bool :=
  match limit with
  | none => pure false
  | some limit => do
    match ← metrics.percentage with
    | some percentage => return limit.below (.real percentage.real)
    | none =>
      Attempt.warn .noTotalForGate
      return false

/-- What is told of a unit that is held back. -/
def gateText (percentage limit : Binary64) : String :=
  "Unsafe percentage " ++ percentage.fixed ++ "% is above the " ++ limit.fixed ++ "% threshold"

end UnsafeCensus.Census
