/-
**A text at hand and the same text in a file.**

The standard input is read as text: each carriage return, alone or before a line feed, becomes a line feed. A
source file is read as bytes. So what a text on the standard input comes to is what the text with these line
feeds comes to in a file whose modules are not followed, up to the name that is shown for the file.

* `AlikeBut`: two runs that end in the same way and print the same but for the name of the file;
* `alikeBut_run`, `run_input`: a text on the standard input and in a file;
* `run_input_return`: a text with a carriage return.
-/

import Mathlib
import UnsafeCensus.Grammar.Grammar
import UnsafeCensus.Proofs.Census.Following
import UnsafeCensus.Proofs.Census.Outcome
import UnsafeCensus.Proofs.Console.Effective
import UnsafeCensus.Proofs.Console.Presenting
import UnsafeCensus.Proofs.Files.Spelling

namespace UnsafeCensus.Console

open Census Crate

/-! ### Two runs -/

/-- The settings but for whether modules are followed. -/
def unfollowed (settings : Settings) : Settings :=
  { settings with followModules := false }

/-- Two runs end with the same number and print the same, but that the second one shows another name of the
file. -/
structure AlikeBut (name : String) (first second : Behaviour) : Prop where
  status : first.ending.status = second.ending.status
  output : first.output = second.output
    ∨ ∃ settings metrics listsRows, first.output = printed settings metrics listsRows
      ∧ second.output = printed settings (metrics.named name) listsRows

theorem AlikeBut.refl (name : String) (behaviour : Behaviour) : AlikeBut name behaviour behaviour :=
  ⟨rfl, .inl rfl⟩

variable {parser : Parser} {host : Host} {first second : Inquiry} {listsRows : Bool} {name : String}

theorem alikeBut_of_error {failure failure' : Failure}
    (failed : (first.measure parser host).result = .error failure)
    (failed' : (second.measure parser host).result = .error failure') :
    AlikeBut name (first.run parser host listsRows) (second.run parser host listsRows) := by
  obtain ⟨output, status⟩ := run_eq_error failed
  obtain ⟨output', status'⟩ := run_eq_error failed'
  exact ⟨status.trans status'.symm, .inl (output.trans output'.symm)⟩

theorem alikeBut_of_ok {settings settings' : Settings} {metrics : Metrics}
    (done : (first.measure parser host).result = .ok (settings, metrics))
    (done' : (second.measure parser host).result = .ok (settings', metrics.named name))
    (same : unfollowed settings = unfollowed settings')
    (shows : host.Shows (listedNames settings metrics listsRows))
    (shows' : host.Shows (listedNames settings (metrics.named name) listsRows)) :
    AlikeBut name (first.run parser host listsRows) (second.run parser host listsRows) := by
  obtain ⟨format, follow, limit, document⟩ := settings
  obtain ⟨format', follow', limit', document'⟩ := settings'
  cases same
  rw [run_eq_present done, run_eq_present done']
  refine ⟨?_, .inr ⟨⟨format, follow, limit, document⟩, metrics, listsRows, ?_, ?_⟩⟩
  · exact congrArg Ending.status (ending_present_named shows shows').symm
  · exact output_present.trans (taken_of_shows shows)
  · exact output_present.trans (taken_of_shows shows')

/-- Under the same settings, runs whose metrics differ by a name are alike. -/
theorem alikeBut_of_changes {settings settings' : Settings}
    (set : (first.settings host).result = .ok settings)
    (set' : (second.settings host).result = .ok settings')
    (same : unfollowed settings = unfollowed settings')
    (named : Changes (Metrics.named name)
      ((first.survey parser host settings).map Survey.metrics)
      ((second.survey parser host settings').map Survey.metrics))
    (shows : ∀ metrics, (first.survey parser host settings).map Survey.metrics = .ok metrics →
      host.Shows (listedNames settings metrics listsRows)
        ∧ host.Shows (listedNames settings (metrics.named name) listsRows)) :
    AlikeBut name (first.run parser host listsRows) (second.run parser host listsRows) := by
  have measured : (first.measure parser host).result
      = ((first.survey parser host settings).map Survey.metrics).map fun metrics =>
          (settings, metrics) := by
    rw [result_measure, set]
    rfl
  have measured' : (second.measure parser host).result
      = ((second.survey parser host settings').map Survey.metrics).map fun metrics =>
          (settings', metrics) := by
    rw [result_measure, set']
    rfl
  cases found : (first.survey parser host settings).map Survey.metrics with
  | error failure =>
    cases found' : (second.survey parser host settings').map Survey.metrics with
    | error failure' =>
      rw [found] at measured
      rw [found'] at measured'
      exact alikeBut_of_error measured measured'
    | ok metrics' =>
      rw [found, found'] at named
      cases named
  | ok metrics =>
    cases found' : (second.survey parser host settings').map Survey.metrics with
    | error failure' =>
      rw [found, found'] at named
      cases named
    | ok metrics' =>
      rw [found, found'] at named
      cases named
      rw [found] at measured
      rw [found'] at measured'
      obtain ⟨shown, shown'⟩ := shows metrics found
      exact alikeBut_of_ok measured measured' same shown shown'

/-- Where modules are left out, they are not followed. -/
theorem followModules_of_alone {inquiry : Inquiry} {settings : Settings} (alone : inquiry.alone = true)
    (done : (inquiry.settings host).result = .ok settings) : settings.followModules = false := by
  obtain ⟨_, _, _, _, _, _, _, layered⟩ := settings_eq_ok_iff.mp done
  rw [layered.followModules, if_pos alone]

/-! ### The text at hand and in a file -/

/-- The rows of a source at hand are under its name. -/
theorem named_ofSource (parser : Parser) (name : String) (data : ByteArray) {metrics : Metrics}
    (found : (Survey.ofSource parser name data).map Survey.metrics = .ok metrics) :
    metrics.named name = metrics := by
  have same := ofSource_named parser name name data
  rw [found] at same
  exact (Option.some.inj same).symm

/-- An output that shows a name as it is where rows are listed shows the names in rows under it so. -/
theorem shows_named {settings : Settings} {metrics : Metrics}
    (shows : host.Shows (if listsRows && !settings.document then [name] else [])) :
    host.Shows (listedNames settings (metrics.named name) listsRows) := by
  refine shows.mono fun other member letter inside => .inr ⟨name, ?_⟩
  rw [listedNames] at member
  split at member
  · next lists =>
    obtain ⟨row, listed, rfl⟩ := List.mem_map.mp member
    obtain ⟨row, _, rfl⟩ := List.mem_map.mp listed
    rw [if_pos lists]
    exact ⟨List.mem_singleton_self name, inside⟩
  · cases member

namespace Inquiry

/-- The inquiry about the standard input. -/
def onInput (inquiry : Inquiry) : Inquiry :=
  { inquiry with path := standardInput }

/-- The inquiry about a file whose modules are left out. -/
def onFile (path : String) (inquiry : Inquiry) : Inquiry :=
  { inquiry.withAlone true with path }

end Inquiry

section Text

variable {path : String} {letters : List Char} {data : ByteArray}

/-- The survey of a text on the standard input. -/
theorem survey_input (parser : Parser) (inquiry : Inquiry) (settings : Settings)
    (input : host.input = (String.ofList letters).toUTF8) :
    inquiry.onInput.survey parser host settings
      = Survey.ofSource parser Inquiry.inputName
          (String.ofList (Settings.lineFeeds letters)).toUTF8 := by
  rw [Inquiry.survey, Inquiry.onInput, if_pos rfl, input, Settings.characters_toUTF8]
  exact ofSource_of_encoded (Source.Input.encoded_ofLetters _) Inquiry.inputName

/-- The survey of a file whose modules are not followed. -/
theorem survey_file (parser : Parser) (inquiry : Inquiry) {settings : Settings}
    (proper : path ≠ standardInput) (plain : '\x00' ∉ path.toList)
    (file : host.tree.read path = .ok data) (small : data.size ≤ largestSource)
    (alone : settings.followModules = false) :
    (inquiry.onFile path).survey parser host settings
      = Survey.ofSource parser (Files.Path.ofText path).text data := by
  rw [Inquiry.survey, Inquiry.onFile, if_neg proper, alone]
  exact ofFile_unfollowed (Files.Path.not_mem_ofText (by decide) (by decide) plain)
    (readSource_of_read (Files.Tree.read_ofText file) small)

/-- Under the same settings, a text on the standard input comes to what it comes to in a file whose modules are
left out. -/
theorem alikeBut_run (parser : Parser) (inquiry : Inquiry) (listsRows : Bool) (proper : path ≠ standardInput)
    (plain : '\x00' ∉ path.toList) (input : host.input = (String.ofList letters).toUTF8)
    (file : host.tree.read path = .ok (String.ofList (Settings.lineFeeds letters)).toUTF8)
    (small : (String.ofList (Settings.lineFeeds letters)).toUTF8.size ≤ largestSource)
    (shows : ∀ settings, (inquiry.onInput.settings host).result = .ok settings →
      host.Shows (if listsRows && !settings.document then [(Files.Path.ofText path).text] else []))
    (same : (inquiry.onInput.settings host).result.toOption.map unfollowed
      = ((inquiry.onFile path).settings host).result.toOption.map unfollowed) :
    AlikeBut (Files.Path.ofText path).text (inquiry.onInput.run parser host listsRows)
      ((inquiry.onFile path).run parser host listsRows) := by
  cases set : (inquiry.onInput.settings host).result with
  | error failure =>
    cases set' : ((inquiry.onFile path).settings host).result with
    | ok settings' =>
      rw [set, set'] at same
      cases same
    | error failure' =>
      exact alikeBut_of_error (measured_of_settings set) (measured_of_settings set')
  | ok settings =>
    cases set' : ((inquiry.onFile path).settings host).result with
    | error failure' =>
      rw [set, set'] at same
      cases same
    | ok settings' =>
      rw [set, set'] at same
      have alone : settings'.followModules = false := followModules_of_alone rfl set'
      have survey := survey_input parser inquiry settings input
      have survey' := survey_file parser inquiry proper plain file small alone
      have named := ofSource_named parser Inquiry.inputName (Files.Path.ofText path).text
        (String.ofList (Settings.lineFeeds letters)).toUTF8
      rw [← survey, ← survey'] at named
      have taken := shows settings set
      refine alikeBut_of_changes set set' (Option.some.inj same) named fun metrics found =>
        ⟨?_, shows_named taken⟩
      -- The name of the standard input is in plain letters.
      rw [survey] at found
      rw [← named_ofSource parser Inquiry.inputName _ found]
      refine shows_named (taken.mono fun other member letter inside => .inl ?_)
      split at member
      · obtain rfl := List.mem_singleton.mp member
        exact (by decide : Json.ArePlain Inquiry.inputName.toList) letter inside
      · cases member

/-- **A text on the standard input and in a file.** Whatever else is asked, a text on the standard input comes to
what the text with its line feeds comes to in a file whose modules are left out, under the same settings, but for
the name that is shown, if the output shows this name as it is where rows are listed. A text without a carriage
return is the text with its line feeds. -/
theorem run_input (parser : Parser) (inquiry : Inquiry) (listsRows : Bool) (proper : path ≠ standardInput)
    (plain : '\x00' ∉ path.toList) (input : host.input = (String.ofList letters).toUTF8)
    (file : host.tree.read path = .ok (String.ofList (Settings.lineFeeds letters)).toUTF8)
    (small : (String.ofList (Settings.lineFeeds letters)).toUTF8.size ≤ largestSource)
    (shows : ∀ settings, (inquiry.onInput.settings host).result = .ok settings →
      host.Shows (if listsRows && !settings.document then [(Files.Path.ofText path).text] else []))
    (same : (inquiry.onInput.settings host).result.toOption.map unfollowed
      = ((inquiry.onFile path).settings host).result.toOption.map unfollowed) :
    AlikeBut (Files.Path.ofText path).text (inquiry.onInput.run parser host listsRows)
        ((inquiry.onFile path).run parser host listsRows)
      ∧ ('\r' ∉ letters → Settings.lineFeeds letters = letters) :=
  ⟨alikeBut_run parser inquiry listsRows proper plain input file small shows same, Settings.lineFeeds_eq_self⟩

/-- Two functions, the first of them unsafe, with a carriage return between them. -/
def returnText : String :=
  "unsafe fn a() \x7b\x7d\rfn b() \x7b\x7d\n"

/-- The text on the standard input, and in a file of which the line feeds are given. -/
def returnHost (fed : List Char) : Host where
  tree := ⟨[(["w"], .directory), (["w", "a.rs"], .file (String.ofList fed).toUTF8)], ["w"]⟩
  input := returnText.toUTF8

/-- With its line feeds in a file, the text has two lines there as well. -/
theorem run_input_fed :
    let host := returnHost (Settings.lineFeeds returnText.toList)
    let inquiry : Inquiry := { format := some .count }
    "a.rs" ≠ standardInput ∧ '\x00' ∉ "a.rs".toList
      ∧ host.input = (String.ofList returnText.toList).toUTF8
      ∧ host.tree.read "a.rs" = .ok (String.ofList (Settings.lineFeeds returnText.toList)).toUTF8
      ∧ (String.ofList (Settings.lineFeeds returnText.toList)).toUTF8.size ≤ largestSource
      ∧ (∀ settings, (inquiry.onInput.settings host).result = .ok settings →
        host.Shows (if true && !settings.document then [(Files.Path.ofText "a.rs").text] else []))
      ∧ (inquiry.onInput.settings host).result.toOption.map unfollowed
        = ((inquiry.onFile "a.rs").settings host).result.toOption.map unfollowed
      ∧ (inquiry.onInput.run Grammar.parse host true).output = ["<stdin>:1:0-1:16  1", "Unsafe lines: 1"]
      ∧ AlikeBut "a.rs" (inquiry.onInput.run Grammar.parse host true)
          ((inquiry.onFile "a.rs").run Grammar.parse host true) := by
  intro host inquiry
  have input : host.input = (String.ofList returnText.toList).toUTF8 := rfl
  have file : host.tree.read "a.rs"
      = .ok (String.ofList (Settings.lineFeeds returnText.toList)).toUTF8 := rfl
  have small : (String.ofList (Settings.lineFeeds returnText.toList)).toUTF8.size ≤ largestSource := by
    decide +kernel
  have shows (settings : Settings) (_ : (inquiry.onInput.settings host).result = .ok settings) :
      host.Shows (if true && !settings.document then [(Files.Path.ofText "a.rs").text] else []) := by
    refine shows_of_without rfl fun name member => ?_
    split at member
    · rw [List.mem_singleton.mp member]
      decide
    · cases member
  have same : (inquiry.onInput.settings host).result.toOption.map unfollowed
      = ((inquiry.onFile "a.rs").settings host).result.toOption.map unfollowed := by
    decide +kernel
  have output : (inquiry.onInput.run Grammar.parse host true).output
      = ["<stdin>:1:0-1:16  1", "Unsafe lines: 1"] := by
    decide +kernel
  exact ⟨by decide, by decide, input, file, small, shows, same, output,
    (run_input Grammar.parse inquiry true (by decide) (by decide) input file small shows same).1⟩

/-- With its carriage return in a file, the text has one line there but two on the standard input, so that a
limit holds back the one and not the other. -/
theorem run_input_return :
    let host := returnHost returnText.toList
    let inquiry : Inquiry := { limit := Literal.read? "60" }
    host.input = returnText.toUTF8 ∧ host.tree.read "a.rs" = .ok returnText.toUTF8
      ∧ returnText.toUTF8.size ≤ largestSource
      ∧ (inquiry.onInput.settings host).result.toOption.map unfollowed
        = ((inquiry.onFile "a.rs").settings host).result.toOption.map unfollowed
      ∧ (inquiry.onInput.run Grammar.parse host false).output = ["Unsafe lines: 1/2 (50.00%)"]
      ∧ ((inquiry.onFile "a.rs").run Grammar.parse host false).output = ["Unsafe lines: 1/1 (100.00%)"]
      ∧ ¬ AlikeBut "a.rs" (inquiry.onInput.run Grammar.parse host false)
          ((inquiry.onFile "a.rs").run Grammar.parse host false) := by
  intro host inquiry
  have differ : (inquiry.onInput.run Grammar.parse host false).ending.status
      ≠ ((inquiry.onFile "a.rs").run Grammar.parse host false).ending.status := by
    decide +kernel
  refine ⟨rfl, rfl, ?_, ?_, ?_, ?_, fun alike => differ alike.status⟩
  all_goals decide +kernel

end Text

end UnsafeCensus.Console
