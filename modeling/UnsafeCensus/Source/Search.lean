/-
**Binary search for an upper bound.**

* `upperBound`: how many of the first keys are not above a value, for keys in order;
* `upperBound_le`: it is at most the number of keys.
-/

namespace UnsafeCensus.Source

/-- The bound between `low` and `high`: the half that holds it is kept until one place is left. -/
def boundBetween (key : Nat → Int) (value : Int) (low high : Nat) : Nat :=
  if low < high then
    let middle := (low + high) / 2
    if value < key middle then boundBetween key value low middle
    else boundBetween key value (middle + 1) high
  else low
termination_by high - low

/-- The first index whose key is above a value, or the number of keys. -/
def upperBound (key : Nat → Int) (count : Nat) (value : Int) : Nat :=
  boundBetween key value 0 count

/-- The bound lies between its limits. -/
theorem boundBetween_le (key : Nat → Int) (value : Int) (low high : Nat) (ordered : low ≤ high) :
    boundBetween key value low high ≤ high := by
  fun_induction boundBetween key value low high with
  | case1 low high below middle above hypothesis =>
    have := hypothesis (by omega)
    omega
  | case2 low high below middle above hypothesis => exact hypothesis (by omega)
  | case3 low high above => exact ordered

/-- The bound is at most the number of keys. -/
theorem upperBound_le (key : Nat → Int) (count : Nat) (value : Int) :
    upperBound key count value ≤ count :=
  boundBetween_le key value 0 count (Nat.zero_le count)

end UnsafeCensus.Source
