/-
**Following modules adds rows to a root file and changes none.**

A row starts in the root file exactly when its region does, since no other file has the name of the root. The
regions of the root come in the same order whether its modules hold something or not. So the rows that start
in the root are those that it has when its modules are not followed, and these are the rows of its bytes at
hand.

* `start_file_iff`: the rows that start in the first file;
* `rows_filter_weave`: the rows of the first file among those of its outline with parts for its modules;
* `ofFile_unfollowed`: the survey of a root file whose modules are not followed;
* `rows_followed`: the rows and the lines of a root file whose modules are followed;
* `ofFile_follows`: both together.
-/

import Mathlib
import UnsafeCensus.Proofs.Census.Rows
import UnsafeCensus.Proofs.Crate.Following
import UnsafeCensus.Proofs.Source.Partition

namespace UnsafeCensus.Census

open Crate Outline Source
open scoped Relator

/-! ### Rows of the first file -/

/-- The rows of a unit that start in a file of a name. -/
def Metrics.rowsIn (metrics : Metrics) (name : String) : List Row :=
  metrics.rows.filter fun row => row.start.file == name

theorem resolve_start {files : Contents} {extent : Extent} {row : Row}
    (resolved : HasRow files extent row) :
    (Map.ofFiles files).resolve extent.start = .ok row.start := by
  obtain ⟨start, stop, first, _, rfl⟩ := Row.ofExtent_eq_ok_iff.mp resolved
  exact first

variable {name : String} {data : ByteArray} {others : Contents}

/-- A row starts in the first file exactly when its region does, if no other file has its name. -/
theorem start_file_iff (apart : ∀ file ∈ others, file.1 ≠ name) {extent : Extent} {row : Row}
    (resolved : HasRow ((name, data) :: others) extent row) :
    row.start.file = name ↔ extent.start ≤ data.size := by
  obtain ⟨before, name', data', after, distance, split, inside, offset, location⟩ :=
    Map.exists_part_of_resolve (resolve_start resolved)
  rw [location, offset]
  show name' = name ↔ _
  cases before with
  | nil =>
    cases split
    simpa using inside
  | cons first rest =>
    obtain ⟨rfl, rfl⟩ := List.cons.inj split
    have other : name' ≠ name := apart (name', data') (by simp)
    simp only [other, span_cons, false_iff]
    omega

/-- Among the rows of an outline with parts for the modules of a file, those that start in the file are the
rows of the file, if the parts have their regions after its end. -/
theorem rows_filter_weave {concrete : Syntax.Tree} (inRange : concrete.InRange data.size)
    (apart : ∀ file ∈ others, file.1 ≠ name) {parts : List (List Node)}
    (after : ∀ part ∈ parts, StartsAfter data (Node.regionsOfAll part)) {rows : List Row}
    (resolved : List.Forall₂ (HasRow ((name, data) :: others))
      (weave data 0 {} parts concrete).regionsBelow rows) :
    rows.filter (fun row => row.start.file == name) = rowsShown name data concrete := by
  -- The regions are filtered by where they start, and the rows with them.
  have own : (weave data 0 (.ofAbove []) parts concrete).regionsBelow.filter
      (fun extent => extent.start ≤ data.size) = regionExtents 0 concrete.shown := by
    refine filter_regionsBelow_weave data 0 [] [] parts concrete (fun head member => ?_)
      fun part member extent below => ?_
    · obtain ⟨nonnegative, ordered, bounded⟩ := inRange head member
      rw [decide_eq_true_iff, extentFrom]
      show 0 + head.start.toNat ≤ data.size
      omega
    · have beyond := after part member extent below
      simpa using beyond
  have starts : (HasRow ((name, data) :: others) ⇒ (· ↔ ·))
      (fun extent => decide (extent.start ≤ data.size) = true)
      (fun row => (row.start.file == name) = true) := by
    intro extent row has
    show decide (extent.start ≤ data.size) = true ↔ (row.start.file == name) = true
    rw [decide_eq_true_iff, beq_iff_eq]
    exact (start_file_iff apart has).symm
  have filtered := List.rel_filter starts resolved
  have unique : Relator.RightUnique (HasRow ((name, data) :: others)) :=
    fun _ _ _ first second => Except.ok.inj (first.symm.trans second)
  rw [Surroundings.ofAbove_nil] at own
  rw [own] at filtered
  exact List.right_unique_forall₂' unique filtered (rel_rowsShown [] others name inRange)

/-! ### Surveys of a root file -/

variable {parser : Parser} {tree : Files.Tree} {root : Files.Path}

/-- A root file whose modules are not followed comes to what its bytes come to at hand. -/
theorem ofFile_unfollowed (plain : '\x00' ∉ root.text.toList) (read : readSource tree root = .ok data) :
    Survey.ofFile parser tree false root = Survey.ofSource parser root.text data := by
  rw [Survey.ofFile, Survey.ofSource, assemble_unfollowed plain read]

theorem lineCount_le_cons (file : String × ByteArray) (others : Contents) :
    (Map.ofFiles [file]).lineCount ≤ (Map.ofFiles (file :: others)).lineCount := by
  rw [Map.lineCount_ofFiles (file :: others), List.map_cons, List.sum_cons]
  exact Nat.le_add_right _ _

/-- **The rows of a root file whose modules are followed** that start in it are those of the same file whose
modules are not followed, and it has no fewer lines. -/
theorem rows_followed (ranged : ∀ data, (parser data).InRange data.size) (regular : root.Regular)
    {followed : Survey} (done : Survey.ofFile parser tree true root = .ok followed) :
    ∃ alone, Survey.ofFile parser tree false root = .ok alone
      ∧ followed.metrics.rowsIn root.text = alone.metrics.rows
      ∧ ∃ fewer more, alone.metrics.lineCount = some fewer
        ∧ followed.metrics.lineCount = some more ∧ fewer ≤ more := by
  obtain ⟨assembly, metrics⟩ := followed
  obtain ⟨assembled, measured⟩ := ofFile_eq_ok_iff.mp done
  obtain ⟨data, others, parts, measurable, apart, after, rfl⟩ :=
    assemble_followed ranged regular assembled
  obtain ⟨resolved, lines⟩ := ofOutline_eq_ok_iff.mp measured
  have alone : Survey.ofFile parser tree false root = _ :=
    ofFile_unfollowed measurable.plain (readSource_eq_ok_iff.mpr ⟨measurable.read, measurable.small⟩)
  rw [ofSource_eq_ok root.text ranged measurable.sound] at alone
  refine ⟨_, alone, ?_, _, _, rfl, lines, lineCount_le_cons _ others⟩
  exact rows_filter_weave (ranged data) apart after resolved

/-- **Following modules changes no row of the root file.** The survey of a root file whose modules are not
followed is that of its bytes at hand. When its modules are followed and there is a survey, then there is one
without, with just the rows that start in the root, in the same order, and no more lines. -/
theorem ofFile_follows (parser : Parser) (tree : Files.Tree) {text : String} {data : ByteArray}
    (plain : '\x00' ∉ (Files.Path.ofText text).text.toList)
    (read : tree.read (Files.Path.ofText text).text = .ok data) (small : data.size ≤ largestSource) :
    Survey.ofFile parser tree false (.ofText text)
        = Survey.ofSource parser (Files.Path.ofText text).text data
      ∧ ((∀ data, (parser data).InRange data.size) → ∀ followed,
          Survey.ofFile parser tree true (.ofText text) = .ok followed →
          ∃ alone, Survey.ofFile parser tree false (.ofText text) = .ok alone
            ∧ followed.metrics.rowsIn (Files.Path.ofText text).text = alone.metrics.rows
            ∧ ∃ fewer more, alone.metrics.lineCount = some fewer
              ∧ followed.metrics.lineCount = some more ∧ fewer ≤ more) :=
  ⟨ofFile_unfollowed plain (readSource_of_read read small),
    fun ranged _ done => rows_followed ranged (Files.Path.regular_ofText text) done⟩

/-- The row of the module inside another is left out, and that of the function after it stays. -/
theorem ofFile_follows_nested :
    '\x00' ∉ (Files.Path.ofText "main.rs").text.toList
      ∧ nestedFiles.read (Files.Path.ofText "main.rs").text = .ok nestedText.toUTF8
      ∧ nestedText.toUTF8.size ≤ largestSource
      ∧ (∀ data, (nestedParser data).InRange data.size)
      ∧ ∃ followed alone, Survey.ofFile nestedParser nestedFiles true (.ofText "main.rs") = .ok followed
        ∧ Survey.ofSource nestedParser "main.rs" nestedText.toUTF8 = .ok alone
        ∧ followed.metrics.rows.map Row.text = ["a/b.rs:1:0-2:1  1", "main.rs:2:0-2:16  1"]
        ∧ alone.metrics.rows.map Row.text = ["main.rs:2:0-2:16  1"]
        ∧ followed.metrics.rowsIn "main.rs" = alone.metrics.rows
        ∧ alone.metrics.lineCount = some 3 ∧ followed.metrics.lineCount = some 5 := by
  have plain : '\x00' ∉ (Files.Path.ofText "main.rs").text.toList := by decide
  have read : nestedFiles.read (Files.Path.ofText "main.rs").text = .ok nestedText.toUTF8 := rfl
  have small : nestedText.toUTF8.size ≤ largestSource := by decide
  obtain ⟨same, onward⟩ := ofFile_follows nestedParser nestedFiles plain read small
  have computed : (Survey.ofFile nestedParser nestedFiles true (.ofText "main.rs")).toOption.map
      (fun survey => (survey.metrics.rows.map Row.text, survey.metrics.lineCount))
      = some (["a/b.rs:1:0-2:1  1", "main.rs:2:0-2:16  1"], some 5) := by
    decide +kernel
  obtain ⟨followed, done, known⟩ := exists_of_toOption_map_eq_some computed
  obtain ⟨texts, lines⟩ := Prod.mk.inj known
  have computedAlone : (Survey.ofSource nestedParser "main.rs" nestedText.toUTF8).toOption.map
      (fun survey => (survey.metrics.rows.map Row.text, survey.metrics.lineCount))
      = some (["main.rs:2:0-2:16  1"], some 3) := by
    decide +kernel
  obtain ⟨alone, doneAlone, knownAlone⟩ := exists_of_toOption_map_eq_some computedAlone
  obtain ⟨textsAlone, linesAlone⟩ := Prod.mk.inj knownAlone
  obtain ⟨alone', unfollowed, rows, _⟩ := onward inRange_nestedParser followed done
  obtain rfl : alone' = alone :=
    Except.ok.inj ((unfollowed.symm.trans same).trans doneAlone)
  exact ⟨plain, read, small, inRange_nestedParser, followed, alone', done, doneAlone, texts,
    textsAlone, rows, linesAlone, lines⟩

end UnsafeCensus.Census
