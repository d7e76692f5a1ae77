/-
**Rows.**

A row tells of one region: where it starts, where it ends and how many lines it counts for. A region within
one line counts for one line, any other for the lines between its two ends.

* `Row`: the rows;
* `Row.of`: the row of two locations and an integer;
* `Row.resolvedBy`, `Row.ofExtent`: the row of a region, by any resolver and by a map of files;
* `Row.text`: the row as it is listed.
-/

import UnsafeCensus.Source.Extent
import UnsafeCensus.Source.Map

namespace UnsafeCensus.Census

open Source

/-- A region with its two locations and its lines. -/
structure Row where
  start : Location
  stop : Location
  lineCount : Nat
  positive : 1 ≤ lineCount
  deriving Repr

/-- Rows are equal when their locations and their lines are. -/
instance : DecidableEq Row := fun
  | ⟨start, stop, lineCount, _⟩, ⟨start', stop', lineCount', _⟩ =>
    decidable_of_iff (start = start' ∧ stop = stop' ∧ lineCount = lineCount') (by simp)

namespace Row

/-- The row of two locations and a number of lines. -/
def of (start stop : Location) (lineCount : Int) : Except Failure Row :=
  if below : lineCount < 1 then .error (.broken .lineCountPositive)
  else .ok ⟨start, stop, lineCount.toNat, one_le_toNat below⟩

/-- The row of two locations, with the lines between them. -/
def between (start stop : Location) : Row :=
  ⟨start, stop, max 1 (stop.line - start.line), Nat.le_max_left 1 _⟩

/-- The row of a region, whose start is resolved before its end. -/
def resolvedBy {m : Type → Type} [Monad m] (resolver : Resolver m) (extent : Extent) : m Row := do
  let start ← resolver.resolve extent.start
  let stop ← resolver.resolve extent.stop
  return between start stop

/-- The row of a region in a map of files. -/
def ofExtent (map : Map) (extent : Extent) : Except Failure Row :=
  resolvedBy map.resolver extent

/-- A region has a row exactly when its two ends have locations. -/
theorem ofExtent_eq_ok_iff {map : Map} {extent : Extent} {row : Row} :
    ofExtent map extent = .ok row ↔
      ∃ start stop, map.resolve extent.start = .ok start ∧ map.resolve extent.stop = .ok stop
        ∧ row = between start stop := by
  simp only [ofExtent, resolvedBy, Map.resolver]
  cases map.resolve extent.start with
  | error failure => exact ⟨nofun, nofun⟩
  | ok start =>
    cases map.resolve extent.stop with
    | error failure => exact ⟨nofun, nofun⟩
    | ok stop => simp [bind, Except.bind, pure, Except.pure, eq_comm]

/-- The row as it is listed. -/
def text (row : Row) : String :=
  row.start.text ++ "-" ++ toString row.stop.line ++ ":" ++ toString row.stop.column ++ "  "
    ++ toString row.lineCount

end Row

end UnsafeCensus.Census
