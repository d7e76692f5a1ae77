/-
**What the output takes.**

The lines of a run go to the output one after another, up to the first one that it does not take. Reports and
documents are in plain letters of ASCII, and a listed row is so but for the name of its file. So where the output
shows such letters as they are, only the names in listed rows decide what it shows of the lines.

* `without_eq_self`: a text without an escape has no control sequences to leave out;
* `letters_rowText`, `arePlain_reportOf`: the letters of rows, reports and documents;
* `Host.Takes`, `Host.Refuses`: what the output shows of lines that it takes, and of lines up to one that it does
  not take;
* `takes_or_refuses`, `Host.Takes.put`, `Host.Refuses.put`: there is no third case, and what is put out in each;
* `Host.Shows`: an output that shows plain letters and those of some names as they are;
* `listedNames`, `takes_listedRows`, `echo_report`: what such an output shows of a run.
-/

import Mathlib
import UnsafeCensus.Console.Behaviour
import UnsafeCensus.Proofs.Attempt
import UnsafeCensus.Proofs.Json.Ascii

namespace UnsafeCensus

open Json

/-! ### Control sequences -/

namespace Controls

theorem sequenceLength_of_ne {first : Char} (rest : List Char) (other : first ≠ escape) :
    sequenceLength (first :: rest) = 0 := by
  unfold sequenceLength
  split
  · next letter after same =>
    cases same
    dsimp only
    split
    · exact if_neg fun both => other both.1
    · rfl
  · rfl

theorem withoutFrom_eq_self {letters : List Char} (absent : escape ∉ letters) :
    withoutFrom 0 letters = letters := by
  induction letters with
  | nil => rfl
  | cons first rest hypothesis =>
    have other : first ≠ escape := fun same => absent (same ▸ List.mem_cons_self)
    have absent : escape ∉ rest := fun member => absent (List.mem_cons_of_mem first member)
    simp only [withoutFrom, sequenceLength_of_ne rest other, hypothesis absent]

/-- A text without an escape has no control sequences to leave out. -/
theorem without_eq_self {text : String} (absent : escape ∉ text.toList) : without text = text := by
  rw [without, withoutFrom_eq_self absent, String.ofList_toList]

example : without "\x1b[1;31ma\x1b[[m.rs\x1b[0m" = "a\x1b[[m.rs" := by decide +kernel

end Controls

/-! ### The letters of a report -/

theorem arePlain_toString_nat (number : Nat) : ArePlain (toString number).toList := by
  rw [toList_toString]
  exact (areDigits_toDigits number).arePlain

theorem arePlain_hundredthsText (hundredths : Nat) : ArePlain (hundredthsText hundredths).toList := by
  simp only [hundredthsText, String.toList_append]
  refine .append (.append (.append (arePlain_toString_nat _) (by decide)) ?_) (arePlain_toString_nat _)
  split <;> decide

namespace Census

theorem arePlain_countText (unsafeLines : Int) : ArePlain (countText unsafeLines).toList := by
  rw [countText, String.toList_append]
  exact .append (by decide) (arePlain_toString_int unsafeLines)

theorem arePlain_shareText (unsafeLines total : Int) (percentage : Percentage) :
    ArePlain (shareText unsafeLines total percentage).toList := by
  have sign : ArePlain (if percentage.negative then "-" else "").toList := by split <;> decide
  have share : ArePlain percentage.text.toList := by
    rw [Percentage.text, String.toList_append]
    exact sign.append (arePlain_hundredthsText _)
  simp only [shareText, String.toList_append]
  exact ((((arePlain_countText _).append (by decide)).append (arePlain_toString_int total)).append
    (by decide)).append share |>.append (by decide)

/-- A report is in plain letters. -/
theorem arePlain_report {metrics : Metrics} {format : Format} {text : String}
    (reported : (report metrics format).result = .ok text) : ArePlain text.toList := by
  unfold report at reported
  split at reported
  · cases reported
    exact arePlain_countText _
  · split at reported
    · rw [Attempt.result_bind] at reported
      obtain ⟨percentage, _, told⟩ := bind_eq_ok_iff.mp reported
      cases percentage <;> cases told
      · exact arePlain_countText _
      · exact arePlain_shareText _ _ _
    · split at reported <;> cases reported <;> exact arePlain_countText _

/-- The letters of a listed row are plain, or stand in the name of its file. -/
theorem letters_rowText (row : Row) :
    ∀ letter ∈ row.text.toList, IsPlain letter ∨ letter ∈ row.start.file.toList := by
  have numbers : ArePlain (":" ++ toString row.start.line ++ ":" ++ toString row.start.column ++ "-"
      ++ toString row.stop.line ++ ":" ++ toString row.stop.column ++ "  " ++ toString row.lineCount).toList := by
    have each := arePlain_toString_nat
    simp only [String.toList_append]
    exact ((((((((ArePlain.append (by decide) (each _)).append (by decide)).append (each _)).append
      (by decide)).append (each _)).append (by decide)).append (each _)).append (by decide)).append (each _)
  have spelled : row.text = row.start.file ++ (":" ++ toString row.start.line ++ ":"
      ++ toString row.start.column ++ "-" ++ toString row.stop.line ++ ":" ++ toString row.stop.column ++ "  "
      ++ toString row.lineCount) := by
    simp only [Row.text, Source.Location.text, String.append_assoc]
  intro letter member
  rw [spelled, String.toList_append, List.mem_append] at member
  exact member.symm.imp_left (numbers letter)

end Census

namespace Console

open Census

variable {host : Host} {lines shown : List String} {failure : Failure} {settings : Settings}
  {metrics : Metrics} {listsRows : Bool}

/-! ### What is put out -/

/-- The output takes some lines and shows others for them. -/
def Host.Takes (host : Host) (lines shown : List String) : Prop :=
  List.Forall₂ (fun line text => host.echo line = .ok text) lines shown

/-- The output takes some lines up to one, which it refuses. -/
inductive Host.Refuses (host : Host) : List String → List String → Failure → Prop
  | here {line : String} {rest : List String} {failure : Failure} (refused : host.echo line = .error failure) :
      Refuses host (line :: rest) [] failure
  | later {line text : String} {rest shown : List String} {failure : Failure} (taken : host.echo line = .ok text)
      (refuses : Refuses host rest shown failure) : Refuses host (line :: rest) (text :: shown) failure

/-- Lines are taken, or refused from one on. -/
theorem takes_or_refuses (host : Host) (lines : List String) :
    (∃ shown, host.Takes lines shown) ∨ ∃ shown failure, host.Refuses lines shown failure := by
  induction lines with
  | nil => exact .inl ⟨[], .nil⟩
  | cons line rest hypothesis =>
    cases echo : host.echo line with
    | error failure => exact .inr ⟨[], failure, .here echo⟩
    | ok text =>
      rcases hypothesis with ⟨shown, takes⟩ | ⟨shown, failure, refuses⟩
      · exact .inl ⟨text :: shown, .cons echo takes⟩
      · exact .inr ⟨text :: shown, failure, .later echo refuses⟩

theorem Host.Takes.put (takes : host.Takes lines shown) : host.put lines = (shown, none) := by
  induction takes with
  | nil => rfl
  | cons taken _ hypothesis => rw [Host.put, taken, hypothesis]

theorem Host.Refuses.put (refuses : host.Refuses lines shown failure) :
    host.put lines = (shown, some failure) := by
  induction refuses with
  | here refused => rw [Host.put, refused]
  | later taken _ hypothesis => rw [Host.put, taken, hypothesis]

/-- Lines that are shown as they are. -/
theorem takes_self (taken : ∀ line ∈ lines, host.echo line = .ok line) : host.Takes lines lines :=
  List.forall₂_same.mpr taken

/-- A line after some others is taken with them. -/
theorem takes_concat {text : String} (takes : host.Takes (lines ++ [text]) shown) :
    ∃ rows last, host.Takes lines rows ∧ host.echo text = .ok last ∧ shown = rows ++ [last] := by
  induction lines generalizing shown with
  | nil =>
    cases takes with
    | cons taken others =>
      cases others
      exact ⟨[], _, .nil, taken, rfl⟩
  | cons line rest hypothesis =>
    cases takes with
    | cons taken others =>
      obtain ⟨rows, last, takes, echo, rfl⟩ := hypothesis others
      exact ⟨_ :: rows, last, .cons taken takes, echo, rfl⟩

/-- Where a line after some others is refused, one of these is, or they are taken and the last one is not. -/
theorem refuses_concat {text : String} (refuses : host.Refuses (lines ++ [text]) shown failure) :
    host.Refuses lines shown failure ∨ (host.Takes lines shown ∧ host.echo text = .error failure) := by
  induction lines generalizing shown with
  | nil =>
    cases refuses with
    | here refused => exact .inr ⟨.nil, refused⟩
    | later _ refuses => cases refuses
  | cons line rest hypothesis =>
    cases refuses with
    | here refused => exact .inl (.here refused)
    | later taken refuses =>
      rcases hypothesis refuses with earlier | ⟨takes, refused⟩
      · exact .inl (.later taken earlier)
      · exact .inr ⟨.cons taken takes, refused⟩

/-! ### Lines that are shown as they are -/

/-- The output shows each line whose letters are plain or stand in some names as it is. -/
def Host.Shows (host : Host) (names : List String) : Prop :=
  ∀ line : String, (∀ letter ∈ line.toList, IsPlain letter ∨ ∃ name ∈ names, letter ∈ name.toList) →
    host.echo line = .ok line

/-- An output that shows some names shows others with no more letters. -/
theorem Host.Shows.mono {names others : List String} (shows : host.Shows names)
    (fewer : ∀ other ∈ others, ∀ letter ∈ other.toList, IsPlain letter ∨ ∃ name ∈ names, letter ∈ name.toList) :
    host.Shows others := by
  refine fun line letters => shows line fun letter member => ?_
  rcases letters letter member with plain | ⟨other, known, inside⟩
  · exact .inl plain
  · exact fewer other known letter inside

/-- An output that is no terminal shows names without an escape. -/
theorem shows_of_without {names : List String} (echoes : host.echo = fun line => .ok (Controls.without line))
    (absent : ∀ name ∈ names, Controls.escape ∉ name.toList) : host.Shows names := by
  intro line letters
  rw [echoes]
  refine congrArg Except.ok (Controls.without_eq_self fun member => ?_)
  rcases letters _ member with plain | ⟨name, known, inside⟩
  · exact absurd plain (by decide)
  · exact absent name known inside

/-- The names of files in the rows that are listed before a report. -/
def listedNames (settings : Settings) (metrics : Metrics) (listsRows : Bool) : List String :=
  if listsRows && !settings.document then metrics.rows.map fun row => row.start.file else []

/-- What is reported is in plain letters. -/
theorem arePlain_reportOf {text : String} (reported : (reportOf settings metrics).result = .ok text) :
    ArePlain text.toList := by
  unfold reportOf at reported
  split at reported
  · obtain ⟨value, _, written⟩ := bind_eq_ok_iff.mp reported
    cases written
    exact arePlain_written value
  · exact arePlain_report reported

variable (shows : host.Shows (listedNames settings metrics listsRows))

include shows

theorem takes_listedRows :
    host.Takes (listedRows settings metrics listsRows) (listedRows settings metrics listsRows) := by
  refine takes_self fun line member => shows line fun letter inside => ?_
  rw [listedRows] at member
  split at member
  · next lists =>
    obtain ⟨row, known, rfl⟩ := List.mem_map.mp member
    refine (letters_rowText row letter inside).imp_right fun named => ⟨row.start.file, ?_, named⟩
    rw [listedNames, if_pos lists]
    exact List.mem_map_of_mem known
  · cases member

/-- The output shows what is reported. -/
theorem echo_report {text : String} (reported : (reportOf settings metrics).result = .ok text) :
    host.echo text = .ok text :=
  shows text fun letter member => .inl (arePlain_reportOf reported letter member)

end Console

end UnsafeCensus
