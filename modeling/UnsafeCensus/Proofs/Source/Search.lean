/-
**What the binary search finds.**

For keys in ascending order the search splits the indices: those below its result have keys that are not
above the value, those from its result on have keys above it.

* `lt_boundBetween_iff`: the same for a search that has already put both ends aside;
* `lt_upperBound_iff`: an index is below the result exactly when its key is not above the value;
* `upperBound_mono`: a greater value gives no smaller result;
* `upperBound_eq`: the result, from the two keys around it.
-/

import Mathlib
import UnsafeCensus.Source.Search

namespace UnsafeCensus.Source

/-- The first keys are in ascending order. -/
def Ascending (key : Nat → Int) (count : Nat) : Prop :=
  ∀ first second, first ≤ second → second < count → key first ≤ key second

variable {key : Nat → Int} {count : Nat}

/-- A search between two bounds splits all indices, if those outside are split already. -/
theorem lt_boundBetween_iff (ascending : Ascending key count) (value : Int) {low high : Nat}
    (ordered : low ≤ high) (inside : high ≤ count) (below : ∀ index < low, key index ≤ value)
    (above : ∀ index, high ≤ index → index < count → value < key index) {index : Nat}
    (bound : index < count) : index < boundBetween key value low high ↔ key index ≤ value := by
  fun_induction boundBetween key value low high with
  | case1 low high less middle greater hypothesis =>
    -- The keys from the middle on are above the value as well.
    refine hypothesis (by omega) (by omega) below fun other from_middle other_bound => ?_
    have sorted := ascending middle other from_middle other_bound
    omega
  | case2 low high less middle notGreater hypothesis =>
    refine hypothesis (by omega) inside (fun other to_middle => ?_) above
    have sorted := ascending other middle (by omega) (by omega)
    omega
  | case3 low high notLess =>
    constructor
    · exact below index
    · intro notAbove
      by_contra outside
      have greater := above index (by omega) bound
      omega

/-- An index is below the bound exactly when its key is not above the value. -/
theorem lt_upperBound_iff (ascending : Ascending key count) (value : Int) {index : Nat}
    (bound : index < count) : index < upperBound key count value ↔ key index ≤ value :=
  lt_boundBetween_iff ascending value (Nat.zero_le count) le_rfl
    (fun _ negative => absurd negative (Nat.not_lt_zero _))
    (fun _ outside inside => absurd inside (Nat.not_lt.mpr outside)) bound

theorem upperBound_mono (ascending : Ascending key count) {first second : Int}
    (ordered : first ≤ second) : upperBound key count first ≤ upperBound key count second := by
  by_contra greater
  have bound := upperBound_le key count first
  have inside : upperBound key count second < count := by omega
  have low := (lt_upperBound_iff ascending first inside).mp (by omega)
  have high := (lt_upperBound_iff ascending second inside).mpr (low.trans ordered)
  exact Nat.lt_irrefl _ high

/-- The bound, from a key that is not above the value and the next one, which is. -/
theorem upperBound_eq (ascending : Ascending key count) {value : Int} {index : Nat}
    (bound : index < count) (notAbove : key index ≤ value)
    (next : index + 1 < count → value < key (index + 1)) :
    upperBound key count value = index + 1 := by
  have reached := (lt_upperBound_iff ascending value bound).mpr notAbove
  have limit := upperBound_le key count value
  by_contra different
  have inside : index + 1 < count := by omega
  have beyond := (lt_upperBound_iff ascending value inside).mp (by omega)
  have greater := next (by omega)
  omega

end UnsafeCensus.Source
