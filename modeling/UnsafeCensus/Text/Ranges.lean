/-
**Classes of code points as lists of closed ranges.**

* `contain`: whether a code point lies in one of the ranges;
* `contain_iff`: it does exactly when some range encloses it.
-/

namespace UnsafeCensus.Ranges

/-- Whether a code point lies in one of the ranges. -/
def contain (ranges : List (Nat × Nat)) (point : Nat) : Bool :=
  ranges.any fun range => range.1 ≤ point && point ≤ range.2

/-- A code point is contained exactly when some range encloses it. -/
theorem contain_iff (ranges : List (Nat × Nat)) (point : Nat) :
    contain ranges point = true ↔ ∃ range ∈ ranges, range.1 ≤ point ∧ point ≤ range.2 := by
  simp [contain, List.any_eq_true]

end UnsafeCensus.Ranges
