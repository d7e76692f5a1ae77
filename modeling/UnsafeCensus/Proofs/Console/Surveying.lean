/-
**What the program surveys.**

The reader of the program gives well nested trees that hide no module. So with its settings loaded, the program
finds a survey with sound rows or tells why not, and the rows of a crate whose modules are followed are those of
its files, each of them read by itself.

* `settles_survey`: what the survey of a run comes to;
* `run_surveys`: what a run with settings comes to;
* `exists_branch_of_finds`: the files of a crate that is surveyed, and its rows.
-/

import Mathlib
import UnsafeCensus.Proofs.Census.Outcome
import UnsafeCensus.Proofs.Console.Outcome
import UnsafeCensus.Proofs.Console.Refusal
import UnsafeCensus.Proofs.Files.Spelling
import UnsafeCensus.Proofs.Grammar.Hiding
import UnsafeCensus.Proofs.Grammar.Nesting

namespace UnsafeCensus.Console

open Census Crate Grammar

variable {parser : Parser} {host : Host} {inquiry : Inquiry} {settings : Settings} {survey : Survey}
  {listsRows : Bool}

/-- What stands on the standard input is no text. -/
structure Undecodable (host : Host) (inquiry : Inquiry) (fault : Utf8.Fault) : Prop where
  input : inquiry.path = standardInput
  malformed : Utf8.decode? host.input.toList = .error fault

/-- The survey of a run settles, unless what is to be surveyed is no text. -/
theorem settles_survey (host : Host) (ranged : ∀ data, (parser data).InRange data.size)
    (settings : Settings) (plain : inquiry.path ≠ standardInput → '\x00' ∉ inquiry.path.toList) :
    Settles Survey.Sound (inquiry.survey parser host settings)
      ∨ ∃ fault, Undecodable host inquiry fault
        ∧ inquiry.survey parser host settings = .error (.undecodable fault) := by
  rw [Inquiry.survey]
  by_cases input : inquiry.path = standardInput
  · rw [if_pos input]
    cases decoded : Utf8.decode? host.input.toList with
    | error fault =>
      refine .inr ⟨fault, ⟨input, decoded⟩, ?_⟩
      rw [Settings.characters, decoded]
      rfl
    | ok letters =>
      rw [Settings.characters, decoded]
      let data := (String.ofList (Settings.lineFeeds letters)).toUTF8
      have same : Survey.ofSource parser Inquiry.inputName (.ofLetters (Settings.lineFeeds letters))
          = Survey.ofSource parser Inquiry.inputName data :=
        ofSource_of_encoded (Source.Input.encoded_ofLetters _) Inquiry.inputName
      show Settles Survey.Sound (Survey.ofSource parser Inquiry.inputName (.ofLetters _)) ∨ _
      rw [same]
      rcases settles_ofSource ranged Inquiry.inputName data with
        ⟨survey, done, sound⟩ | ⟨diagnostic, refused, family⟩
      · rw [done]
        exact .inl sound
      · rw [refused]
        exact .inl (.source family)
  · rw [if_neg input]
    exact .inl (settles_ofFile ranged settings.followModules
      (Files.Path.not_mem_ofText (by decide) (by decide) (plain input)))

/-- **What a run with settings comes to.** It finds a survey with sound rows, or it tells a diagnostic of the
source or of the files; only a name that is too long for any file, and an input that is no text, end it by
another failure. -/
theorem run_surveys (plain : inquiry.path ≠ standardInput → '\x00' ∉ inquiry.path.toList)
    (loaded : (inquiry.settings host).result = .ok settings) :
    (∃ survey, Finds parse host inquiry settings survey ∧ survey.Sound)
      ∨ (∃ diagnostic, diagnostic.family ∈ [.source, .resource]
          ∧ Tells host (inquiry.run parse host listsRows) diagnostic)
      ∨ (∃ text, ∃ name ∈ Files.Tree.namesOf text, Files.Tree.longestName < name.utf8ByteSize
          ∧ (inquiry.run parse host listsRows).ending = .failure (.file .nameTooLong text))
      ∨ ∃ fault, Undecodable host inquiry fault
          ∧ (inquiry.run parse host listsRows).ending = .failure (.undecodable fault) := by
  have settles := settles_survey host parse_inRange settings plain
  cases surveyed : inquiry.survey parse host settings with
  | ok survey =>
    rw [surveyed] at settles
    rcases settles with sound | ⟨_, _, ⟨⟩⟩
    exact .inl ⟨survey, ⟨loaded, surveyed⟩, sound⟩
  | error failure =>
    have fails : FailsBy parse host inquiry failure := .survey loaded surveyed
    have ending (other : ∀ diagnostic, failure ≠ .diagnosed diagnostic) :
        (inquiry.run parse host listsRows).ending = .failure failure := by
      rw [run_eq_failing fails.measured]
      exact ending_failing other
    rw [surveyed] at settles
    refine .inr ?_
    rcases settles with expected | ⟨fault, input, same⟩
    · cases expected with
      | source family => exact .inl ⟨_, by simp [family], tells_of_failsBy fails⟩
      | resource family => exact .inl ⟨_, by simp [family], tells_of_failsBy fails⟩
      | tooLong member long => exact .inr (.inl ⟨_, _, member, long, ending (by simp)⟩)
    · cases same
      exact .inr (.inr ⟨fault, input, ending (by simp)⟩)

/-- **The rows of a crate whose modules are followed** are those of the files of a branch that stands at its
root, each of them read by itself. -/
theorem exists_branch_of_finds (finds : Finds parse host inquiry settings survey)
    (file : inquiry.path ≠ standardInput) (follows : settings.followModules = true) :
    ∃ branch : Branch, branch.path = .ofText inquiry.path
      ∧ branch.Stands parse host.tree (Files.Path.ofText inquiry.path).parent
      ∧ survey.assembly.map = Source.Map.ofFiles branch.contents
      ∧ survey.metrics.rows.Perm
          (branch.contents.flatMap fun file => (metricsAlone parse file).rows) := by
  have surveyed := finds.surveys
  rw [Inquiry.survey, if_neg file, follows] at surveyed
  obtain ⟨assembly, metrics⟩ := survey
  obtain ⟨found, measured⟩ := ofFile_eq_ok_iff.mp surveyed
  obtain ⟨branch, rooted, standing, _, _, rfl⟩ :=
    (assemble_eq_ok_iff parse_inRange fun data => (parse_hidesNoModule data).flat).mp found
  have rows := rel_rows parse_inRange parse_hidesNoModule [] [] _ branch standing
  rw [List.nil_append, List.append_nil, Source.span_nil] at rows
  obtain rfl := Except.ok.inj ((ofOutline_eq_ok rows).symm.trans measured)
  exact ⟨branch, rooted, standing, rfl, rows_perm parse_inRange parse_hidesNoModule _ branch standing⟩

end UnsafeCensus.Console
