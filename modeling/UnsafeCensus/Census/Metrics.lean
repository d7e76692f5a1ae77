/-
**Metrics.**

The metrics of a unit are a row for each of its regions and the number of its lines. A region inside
another counts again.

* `Metrics`: the rows and the total, which may be unknown;
* `Metrics.of`: metrics of rows and an integer;
* `Metrics.resolvedBy`, `Metrics.measuredBy`: the metrics of regions and of an outline, by any resolver;
* `Metrics.ofRegions`, `Metrics.ofOutline`: the same by a map of files;
* `Metrics.unsafeLines`, `Metrics.percentage`: the lines of all rows and their percentage;
* `Metrics.document`: the metrics as a JSON document.
-/

import UnsafeCensus.Census.Percentage
import UnsafeCensus.Census.Row
import UnsafeCensus.Json.Writer
import UnsafeCensus.Outline.Regions

namespace UnsafeCensus.Census

open Source

/-- The rows of a unit and the number of its lines. -/
structure Metrics where
  rows : List Row
  lineCount : Option Nat
  deriving DecidableEq, Repr

namespace Metrics

/-- The metrics of rows and a number of lines. -/
def of (rows : List Row) (lineCount : Option Int) : Except Failure Metrics :=
  match lineCount with
  | none => .ok ⟨rows, none⟩
  | some total =>
    if total < 0 then .error (.broken .totalNonNegative) else .ok ⟨rows, some total.toNat⟩

/-- A number of lines that is none below zero is kept. -/
theorem of_natCast (rows : List Row) (lineCount : Nat) :
    of rows (some lineCount) = .ok ⟨rows, some lineCount⟩ := by
  rw [of, if_neg (by omega), Int.toNat_natCast]

section Resolved

variable {m : Type → Type} [Monad m] [MonadLiftT (Except Failure) m]

/-- The metrics of regions, whose rows are resolved before the lines are asked for. -/
def resolvedBy (resolver : Resolver m) (extents : List Extent) : m Metrics := do
  let rows ← extents.mapM (Row.resolvedBy resolver)
  let total ← resolver.lineCount
  of rows (some total)

/-- The metrics of an outline. -/
def measuredBy (resolver : Resolver m) (node : Outline.Node) : m Metrics :=
  resolvedBy resolver (Outline.regions node)

end Resolved

/-- The metrics of regions of files; the first offset that no file holds ends the count. -/
def ofRegions (map : Map) (extents : List Extent) : Except Failure Metrics :=
  resolvedBy map.resolver extents

/-- The metrics of an outline of files. -/
def ofOutline (map : Map) (node : Outline.Node) : Except Failure Metrics :=
  measuredBy map.resolver node

/-- The lines of all rows. -/
def unsafeLines (metrics : Metrics) : Nat :=
  (metrics.rows.map Row.lineCount).foldr (· + ·) 0

/-- Whether there are lines to take a percentage of. -/
def hasTotal (metrics : Metrics) : Bool :=
  0 < metrics.lineCount.getD 0

/-- The percentage of the lines of all rows. -/
def percentage (metrics : Metrics) : Except Failure (Option Percentage) :=
  Percentage.of metrics.unsafeLines (metrics.lineCount.map Int.ofNat)

/-- A location as an object. -/
def locationValue (location : Location) : Json.Value :=
  .object
    [Json.member "filename" (.ofString location.file),
     Json.member "line" (.integer location.line),
     Json.member "column" (.integer location.column)]

/-- A row as an object. -/
def rowValue (row : Row) : Json.Value :=
  .object
    [Json.member "start" (locationValue row.start),
     Json.member "end" (locationValue row.stop),
     Json.member "num_lines" (.integer row.lineCount)]

/-- The metrics as an object. -/
def value (metrics : Metrics) : Except Failure Json.Value := do
  let percentage ← metrics.percentage
  return .object
    [Json.member "total_unsafe" (.integer metrics.unsafeLines),
     Json.member "total_lines" ((metrics.lineCount.map fun total => .integer total).getD .null),
     Json.member "percentage" ((percentage.map fun value => .real value.real).getD .null),
     Json.member "spans" (.list (metrics.rows.map rowValue))]

/-- The metrics as a document. -/
def document (metrics : Metrics) : Except Failure String :=
  metrics.value.map Json.Value.written

end Metrics

end UnsafeCensus.Census
