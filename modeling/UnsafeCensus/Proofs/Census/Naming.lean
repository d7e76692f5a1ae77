/-
**The name of a file is only shown.**

What bytes at hand come to depends on their name in one way: each location shows it. The numbers of lines are
the same under every name, and so is whether there is a survey at all.

* `Location.named`, `Row.named`, `Metrics.named`: the same under another name;
* `resolve_named`, `ofOutline_named`: renamed files resolve to renamed locations;
* `ofSource_named`: the metrics of bytes under another name.
-/

import Mathlib
import UnsafeCensus.Census.Survey
import UnsafeCensus.Proofs.Attempt
import UnsafeCensus.Proofs.Crate.Following

namespace UnsafeCensus

/-! ### Other names -/

namespace Source

/-- The location with another name of its file. -/
def Location.named (name : String) (location : Location) : Location :=
  { location with file := name }

/-- The file under another name. -/
def File.named (name : String) (file : File) : File :=
  { file with name := name }

/-- The map with all its files under one name. -/
def Map.named (name : String) (map : Map) : Map :=
  { map with files := map.files.map (File.named name) }

variable {name : String}

theorem Location.of_named (file : String) (line column : Int) :
    Changes (Location.named name) (Location.of file line column) (Location.of name line column) := by
  rw [Location.of, Location.of]
  by_cases low : line < 1
  · rw [dif_pos low, dif_pos low]
    rfl
  · rw [dif_neg low, dif_neg low]
    by_cases negative : column < 0
    · rw [if_pos negative, if_pos negative]
      rfl
    · rw [if_neg negative, if_neg negative]
      rfl

theorem File.locate_named (file : File) (offset : Int) :
    Changes (Location.named name) (file.locate offset) ((file.named name).locate offset) :=
  Location.of_named file.name _ _

theorem Map.lookup_named (map : Map) (offset : Int) :
    Changes (File.named name) (map.lookup offset) ((map.named name).lookup offset) := by
  have files (index : Nat) : (map.named name).files[index]? = map.files[index]?.map (File.named name) :=
    Array.getElem?_map
  have bound : upperBound (map.named name).startOf (map.named name).starts.size offset
      = upperBound map.startOf map.starts.size offset := rfl
  simp only [lookup, bound, files]
  generalize upperBound map.startOf map.starts.size offset = bound
  by_cases first : bound = 0
  · simp only [if_pos first]
    rfl
  · simp only [if_neg first]
    cases map.files[bound - 1]? with
    | none => rfl
    | some file =>
      have inside : (file.named name).contains offset = file.contains offset := rfl
      simp only [Option.map_some, inside]
      cases file.contains offset <;> rfl

/-- A renamed map resolves an offset to the renamed location. -/
theorem Map.resolve_named (map : Map) (offset : Int) :
    Changes (Location.named name) (map.resolve offset) ((map.named name).resolve offset) :=
  (map.lookup_named offset).bind fun file => file.locate_named offset

theorem Map.lineCount_named (map : Map) : (map.named name).lineCount = map.lineCount := by
  rw [lineCount, lineCount, named, Array.toList_map, List.map_map]
  rfl

end Source

namespace Census

open Crate Outline Source

/-- The row with another name of its file. -/
def Row.named (name : String) (row : Row) : Row :=
  { row with start := row.start.named name, stop := row.stop.named name }

/-- The metrics with another name of their file. -/
def Metrics.named (name : String) (metrics : Metrics) : Metrics :=
  { metrics with rows := metrics.rows.map (Row.named name) }

variable {name : String}

theorem Row.ofExtent_named (map : Map) (extent : Extent) :
    Changes (Row.named name) (Row.ofExtent map extent) (Row.ofExtent (map.named name) extent) :=
  (map.resolve_named extent.start).bind fun _ => (map.resolve_named extent.stop).bind fun _ => rfl

/-- The metrics of renamed files are the renamed metrics. -/
theorem Metrics.ofOutline_named (map : Map) (node : Node) :
    Changes (Metrics.named name) (Metrics.ofOutline map node)
      (Metrics.ofOutline (map.named name) node) := by
  refine (Changes.mapM (Row.ofExtent_named map)).bind fun rows => ?_
  show Changes _ (Metrics.of rows (some map.lineCount)) (Metrics.of _ (some (map.named name).lineCount))
  rw [map.lineCount_named, Metrics.of_natCast, Metrics.of_natCast]
  rfl

/-! ### Bytes at hand -/

variable {parser : Parser}

theorem checkTree_named (file : File) (tree : Syntax.Tree) :
    Changes id (checkTree file tree) (checkTree (file.named name) tree) := by
  rw [checkTree, checkTree]
  by_cases faulty : tree.hasError = true
  · rw [if_pos faulty, if_pos faulty]
    cases syntaxError file tree <;> cases syntaxError (file.named name) tree <;> rfl
  · rw [if_neg faulty, if_neg faulty]
    rfl

/-- The crate of bytes under another name has the renamed files and the same outline. -/
theorem assembleSource_named (first : String) (data : ByteArray) :
    Changes (fun assembly => Assembly.mk (assembly.map.named name) assembly.outline)
      (assembleSource parser first data) (assembleSource parser name data) := by
  obtain ⟨lowered, same⟩ := Lowering.exists_run_bare data 0 {} (parser data)
  have crate (name : String) : assembleSource parser name data =
      checkTree (Map.empty.nextFile name data) (parser data) >>= fun _ =>
        lowered.map fun node => ⟨Map.empty.add name data, node⟩ := by
    rw [assembleSource_bytes, run_addSource_eq]
    show Except.map _ (checkTree (Map.empty.nextFile name data) (parser data) >>= fun _ =>
      StateT.run (Lowering.run (fun _ => Pure.pure []) data 0 { directory := none } (parser data)) _) = _
    rw [same { directory := none } rfl]
    cases checkTree (Map.empty.nextFile name data) (parser data) with
    | error failure => rfl
    | ok passed => cases lowered <;> rfl
  have renamed : (Map.empty.add first data).named name = Map.empty.add name data := by
    simp only [Map.named, Map.add, Array.map_push, Map.empty, Array.map_empty]
    rfl
  rw [crate, crate]
  refine (checkTree_named (Map.empty.nextFile first data) (parser data)).bind fun _ => ?_
  cases lowered with
  | error failure => rfl
  | ok node =>
    rw [← renamed]
    rfl

/-- **The metrics of bytes under another name** are those under the first, renamed. -/
theorem ofSource_named (parser : Parser) (first name : String) (data : ByteArray) :
    Changes (Metrics.named name) ((Survey.ofSource parser first data).map Survey.metrics)
      ((Survey.ofSource parser name data).map Survey.metrics) := by
  have metrics (name : String) : (Survey.ofSource parser name data).map Survey.metrics =
      assembleSource parser name data >>= fun assembly =>
        Metrics.ofOutline assembly.map assembly.outline := by
    rw [Survey.ofSource]
    cases assembleSource parser name data with
    | error failure => rfl
    | ok assembly =>
      show Except.map Survey.metrics (Metrics.ofOutline assembly.map assembly.outline >>= _)
        = Metrics.ofOutline assembly.map assembly.outline
      cases Metrics.ofOutline assembly.map assembly.outline <;> rfl
  rw [metrics, metrics]
  exact (assembleSource_named first data).bind fun assembly =>
    Metrics.ofOutline_named assembly.map assembly.outline

end Census

end UnsafeCensus
