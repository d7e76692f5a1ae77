/-
**Extents.**

An extent is a run of byte offsets with a first offset and the one after its last.

* `Extent`: the extents, none of which ends before it starts;
* `of`: the extent between two integers;
* `shifted`: an extent moved by a distance.
-/

import UnsafeCensus.Failure

namespace UnsafeCensus.Source

/-- The byte offsets from `start` on that are below `stop`. -/
structure Extent where
  start : Nat
  stop : Nat
  ordered : start ≤ stop
  deriving DecidableEq, Repr

namespace Extent

/-- The extent between two integers. -/
def of (start stop : Int) : Except Failure Extent :=
  if negative : start < 0 then .error (.broken .startNonNegative)
  else if reversed : stop < start then .error (.broken .endAfterStart)
  else .ok ⟨start.toNat, stop.toNat, by omega⟩

/-- The extent moved by a distance. -/
def shifted (extent : Extent) (distance : Int) : Except Failure Extent :=
  of (extent.start + distance) (extent.stop + distance)

/-- Moving to the right always gives an extent. -/
theorem shifted_nat (extent : Extent) (distance : Nat) :
    extent.shifted distance
      = .ok ⟨extent.start + distance, extent.stop + distance,
          Nat.add_le_add_right extent.ordered distance⟩ := by
  have ordered := extent.ordered
  unfold shifted of
  rw [dif_neg (by omega), dif_neg (by omega)]
  congr 2

end Extent

end UnsafeCensus.Source
