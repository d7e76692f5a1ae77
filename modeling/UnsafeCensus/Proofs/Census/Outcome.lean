/-
**How a survey can end.**

A survey gives metrics, or it ends in a diagnostic of its source or of its files. No offset of a region is
outside the files, and no rule of a value is broken on the way. Each row stands in one file of the unit and
does not end before it starts. Only a text that holds half of a surrogate pair ends a survey by something else,
before it begins.

* `Row.Sound`: a row in one file, in order;
* `exists_row`: an extent inside a file has a sound row;
* `settles_ofFile`, `settles_ofSource`: what the survey of a root file and that of bytes at hand come to;
* `survey_settles`: what the survey of a root file and that of any source at hand come to;
* `survey_of_surrogate`: a text that is half of a surrogate pair.
-/

import Mathlib
import UnsafeCensus.Proofs.Census.Rows
import UnsafeCensus.Proofs.Crate.Outcome
import UnsafeCensus.Proofs.Text.Utf8

namespace UnsafeCensus.Census

open Crate Outline Source Syntax

/-! ### Sound rows -/

/-- A row whose two ends are in one of some files, the start not after the end. -/
structure Row.Sound (names : List String) (row : Row) : Prop where
  same : row.start.file = row.stop.file
  known : row.start.file ∈ names
  ordered : row.start.NotAfter row.stop

/-- Every row of a survey is in one of its files. -/
def Survey.Sound (survey : Survey) : Prop :=
  ∀ row ∈ survey.metrics.rows, row.Sound survey.assembly.map.names

/-- An extent inside a file has a row there. -/
theorem exists_row {files : Contents} {extent : Extent} (inside : Inside files extent) :
    ∃ row, HasRow files extent row ∧ row.Sound (Map.ofFiles files).names := by
  cases inside with
  | @within before after name data first last ordered bounded =>
    refine ⟨_, hasRow_between before after name ordered bounded, rfl, ?_,
      located_mono name ordered bounded⟩
    rw [Map.names_ofFiles, List.map_append, List.map_cons]
    exact List.mem_append_right _ List.mem_cons_self

theorem exists_rows {files : Contents} {extents : List Extent}
    (inside : ∀ extent ∈ extents, Inside files extent) :
    ∃ rows, List.Forall₂ (HasRow files) extents rows
      ∧ ∀ row ∈ rows, row.Sound (Map.ofFiles files).names := by
  obtain ⟨rows, found⟩ := exists_forall₂ fun extent member => exists_row (inside extent member)
  have apart : List.Forall₂ (fun row extent => row.Sound (Map.ofFiles files).names ∧ HasRow files extent row)
      rows extents := (found.imp fun _ _ both => both.symm).flip
  obtain ⟨sound, same⟩ := (List.forall₂_and_left _ _).mp apart
  exact ⟨rows, same.flip, sound⟩

/-- An outline whose regions are inside files has a sound survey. -/
theorem exists_survey {files : Contents} {assembly : Assembly} (map : assembly.map = Map.ofFiles files)
    (inside : RegionsInside files assembly.outline) :
    ∃ survey, Survey.ofAssembly assembly = .ok survey ∧ survey.Sound := by
  obtain ⟨rows, same, sound⟩ := exists_rows inside
  rw [Survey.ofAssembly, map, ofOutline_eq_ok same]
  refine ⟨_, rfl, ?_⟩
  rw [Survey.Sound, map]
  exact sound

/-! ### Surveys -/

variable {parser : Parser} {tree : Files.Tree}

theorem settles_ofFile (ranged : ∀ data, (parser data).InRange data.size) (follows : Bool)
    {root : Files.Path} (plain : '\x00' ∉ root.text.toList) :
    Settles Survey.Sound (Survey.ofFile parser tree follows root) := by
  refine (settles_assemble ranged follows plain).bind ?_
  rintro assembly ⟨files, map, inside⟩
  obtain ⟨survey, done, sound⟩ := exists_survey map inside
  rw [done]
  exact sound

/-- Bytes at hand are refused only for a fault. -/
theorem settles_ofSource (ranged : ∀ data, (parser data).InRange data.size) (name : String)
    (data : ByteArray) :
    (∃ survey, Survey.ofSource parser name data = .ok survey ∧ survey.Sound)
      ∨ ∃ diagnostic, Survey.ofSource parser name data = .error (.diagnosed diagnostic)
        ∧ diagnostic.family = .source := by
  by_cases sound : (parser data).hasError = false
  · refine Or.inl ⟨_, ofSource_eq_ok name ranged sound, ?_⟩
    intro row member
    obtain ⟨site, shown, rfl⟩ := List.mem_map.mp member
    have head := mem_heads_of_mem_sitesFrom [] [] (parser data) (List.mem_of_mem_filter shown)
    obtain ⟨nonnegative, ordered, bounded⟩ := ranged data _ head
    refine ⟨rfl, ?_, located_mono name (by omega) (by omega)⟩
    rw [Map.names_ofFiles]
    exact List.mem_singleton_self name
  · obtain ⟨diagnostic, told, family⟩ := syntaxError_eq_ok name (span []) (ranged data)
    have refused : checkTree (File.ofData name (span []) data) (parser data)
        = .error (.diagnosed diagnostic) := by
      rw [checkTree, if_pos (by simpa using sound), told]
      rfl
    have added : StateT.run (addSource parser (fun _ => pure []) name data none) (.ofFiles [] []) = _ :=
      run_addSource ranged (fun _ => pure []) name data none
    rw [refused] at added
    refine Or.inr ⟨diagnostic, ?_, family⟩
    show (Except.map Assembly.ofLoaded (StateT.run (addSource parser (fun _ => pure []) name data none)
      (.ofFiles [] [])) >>= _) = _
    rw [added]
    rfl

/-- The survey of a source at hand is that of its bytes. -/
theorem ofSource_of_encoded {source : Source.Input} {data : ByteArray} (encoded : source.encoded = .ok data)
    (name : String) : Survey.ofSource parser name source = Survey.ofSource parser name data := by
  rw [Survey.ofSource, assembleSource, encoded]
  rfl

theorem ofSource_of_unencodable {source : Source.Input} {failure : Failure}
    (encoded : source.encoded = .error failure) (name : String) :
    Survey.ofSource parser name source = .error failure := by
  rw [Survey.ofSource, assembleSource, encoded]
  rfl

/-- **A survey ends well or as expected.** Of a root file it gives metrics with sound rows, or it ends in a
diagnostic of the source or of the files, except for a name that is longer than the name of any file. Of a
source at hand that holds only characters it gives such metrics, or it ends in a diagnostic of the source. Of any
other source it tells what is no character in it, and never anything else. -/
theorem survey_settles (tree : Files.Tree) (ranged : ∀ data, (parser data).InRange data.size) :
    (∀ follows root, '\x00' ∉ root.text.toList →
        Settles Survey.Sound (Survey.ofFile parser tree follows root))
      ∧ (∀ name (source : Source.Input), source.Encodable →
        (∃ survey, Survey.ofSource parser name source = .ok survey ∧ survey.Sound)
          ∨ ∃ diagnostic, Survey.ofSource parser name source = .error (.diagnosed diagnostic)
            ∧ diagnostic.family = .source)
      ∧ ∀ name (source : Source.Input), ¬ source.Encodable →
        ∃ fault, Survey.ofSource parser name source = .error (.unencodable fault) := by
  refine ⟨fun follows _ plain => settles_ofFile ranged follows plain, fun name source encodable => ?_,
    fun name source spoilt => ?_⟩
  · rcases source.encoded_cases with ⟨_, data, encoded⟩ | ⟨spoilt, _⟩
    · rw [ofSource_of_encoded encoded]
      exact settles_ofSource ranged name data
    · exact absurd encodable spoilt
  · rcases source.encoded_cases with ⟨encodable, _⟩ | ⟨_, fault, encoded⟩
    · exact absurd encodable spoilt
    · exact ⟨fault, ofSource_of_unencodable encoded name⟩

/-- Each row of the crate with a module inside another is in one of its files. -/
theorem survey_settles_nested :
    (∀ data, (nestedParser data).InRange data.size)
      ∧ '\x00' ∉ (Files.Path.ofText "main.rs").text.toList
      ∧ ∃ survey, Survey.ofFile nestedParser nestedFiles true (.ofText "main.rs") = .ok survey
        ∧ survey.metrics.rows.map (fun row => row.start.file) = ["a/b.rs", "main.rs"]
        ∧ survey.Sound := by
  have plain : '\x00' ∉ (Files.Path.ofText "main.rs").text.toList := by decide
  have settles := (survey_settles nestedFiles inRange_nestedParser).1 true _ plain
  have computed : (Survey.ofFile nestedParser nestedFiles true (.ofText "main.rs")).toOption.map
      (fun survey => survey.metrics.rows.map fun row => row.start.file)
      = some ["a/b.rs", "main.rs"] := by
    decide +kernel
  obtain ⟨survey, done, rows⟩ := exists_of_toOption_map_eq_some computed
  rw [done] at settles
  exact ⟨inRange_nestedParser, plain, survey, done, rows, settles⟩

/-- The first half of a surrogate pair is a text without bytes. Its survey gives no metrics and no diagnostic. -/
theorem survey_of_surrogate :
    (∀ data, (nestedParser data).InRange data.size)
      ∧ Survey.ofSource nestedParser "<input>" (.text [0xD800]) = .error (.unencodable ⟨0, 1, 0xD800⟩)
      ∧ ¬ ((∃ survey, Survey.ofSource nestedParser "<input>" (.text [0xD800]) = .ok survey)
        ∨ ∃ diagnostic, Survey.ofSource nestedParser "<input>" (.text [0xD800]) = .error (.diagnosed diagnostic)) := by
  have told : Survey.ofSource nestedParser "<input>" (.text [0xD800]) = .error (.unencodable ⟨0, 1, 0xD800⟩) :=
    ofSource_of_unencodable rfl "<input>"
  refine ⟨inRange_nestedParser, told, ?_⟩
  rw [told]
  rintro (⟨_, ⟨⟩⟩ | ⟨_, ⟨⟩⟩)

end UnsafeCensus.Census
