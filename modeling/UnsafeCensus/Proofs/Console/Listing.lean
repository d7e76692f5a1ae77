/-
**The two commands that measure.**

To list the regions of a crate is to count them, with one line for each of them before the report. A document
has the regions in it, so it is the same under both commands. Where the output takes these lines, both commands
end in the same way; where it refuses one of them, only the list stops there.

* `lastNumber_text`, `firstNumber_of_reports`: the numbers that are read from a listed row and from a report;
* `Lists`: what the two commands print of the same metrics;
* `listed_of_takes`, `stops_of_listedRows`, `lists_of_finds`: how they end and what they print;
* `spans_lists`: the two commands with the same inquiry;
* `spans_lists_regions`, `spans_lists_unseen`: a crate of two regions, and names that are not shown as they are.
-/

import Mathlib
import UnsafeCensus.Proofs.Census.Rows
import UnsafeCensus.Proofs.Console.Outcome
import UnsafeCensus.Proofs.Text.Numerals

namespace UnsafeCensus

/-! ### Numbers that are read back -/

namespace Census

/-- The number at the end of a listed row. -/
theorem lastNumber_text (row : Row) : lastNumber row.text = row.lineCount := by
  unfold Row.text
  generalize row.start.text ++ "-" ++ toString row.stop.line ++ ":" ++ toString row.stop.column = front
  apply lastNumber_toString
  intro letter last
  have blank : (front ++ "  ").toList.getLast? = some ' ' := by simp
  rw [blank] at last
  cases last
  rfl

/-- The number of a report that tells a count, and maybe more after it. -/
theorem firstNumber_countText (count : Nat) (rest : String)
    (after : ∀ letter ∈ rest.toList.head?, letter.isDigit = false) :
    firstNumber (countText count ++ rest) = count := by
  unfold countText
  show firstNumber (_ ++ toString count ++ rest) = count
  exact firstNumber_toString count (by simp) after

/-- What an object has under a name. -/
def memberAt (name : String) : Json.Value → Option Json.Value
  | .object members => Json.get? members name
  | _ => none

/-- The integer that an object has under a name. -/
def integerAt (name : String) (value : Json.Value) : Option Int :=
  match memberAt name value with
  | some (.integer found) => some found
  | _ => none

/-- The lines of the regions of a document are those of the rows. -/
theorem sum_integerAt_rowValue (rows : List Row) :
    ((rows.map Metrics.rowValue).map fun region => (integerAt "num_lines" region).getD 0).sum
      = ((rows.map Row.lineCount).sum : Nat) := by
  induction rows with
  | nil => rfl
  | cons row rest hypothesis =>
    have lines : (integerAt "num_lines" (Metrics.rowValue row)).getD 0 = row.lineCount := rfl
    simp only [List.map_cons, List.sum_cons, lines, hypothesis, Nat.cast_add]

/-- The rows of a survey are those of the regions of its outline, in their order. -/
theorem rows_of_ofAssembly {assembly : Crate.Assembly} {survey : Survey}
    (done : Survey.ofAssembly assembly = .ok survey) :
    List.Forall₂ (fun extent row => Row.ofExtent survey.assembly.map extent = .ok row)
      (Outline.regions survey.assembly.outline) survey.metrics.rows := by
  obtain ⟨metrics, measured, same⟩ := bind_eq_ok_iff.mp done
  cases same
  exact (ofRegions_eq_ok_iff.mp measured).1

end Census

namespace Console

open Census Crate Files

variable {parser : Parser} {host : Host} {inquiry : Inquiry} {settings : Settings}
  {survey : Survey} {metrics : Metrics} {percentage : Option Percentage}

theorem firstNumber_of_reports {text : String} (plain : settings.document = false)
    (reports : Reports settings metrics percentage text) : firstNumber text = metrics.unsafeLines := by
  cases reports with
  | document asked =>
    rw [plain] at asked
    cases asked
  | count plain alone =>
    have whole := firstNumber_countText metrics.unsafeLines "" (by simp)
    rwa [String.append_empty] at whole
  | share plain both known there =>
    unfold shareText
    simp only [String.append_assoc]
    exact firstNumber_countText _ _ (by simp)

/-! ### What the two commands print -/

/-- An output that shows the names in listed rows as they are shows those that are counted so, which are none. -/
theorem shows_counted (shows : host.Shows (listedNames settings metrics true)) :
    host.Shows (listedNames settings metrics false) :=
  shows.mono fun _ none => nomatch none

/-- To list rows that the output takes changes nothing after them. -/
theorem listed_of_takes (finds : Finds parser host inquiry settings survey) {shown : List String}
    (takes : host.Takes (listedRows settings survey.metrics true) shown) :
    (inquiry.run parser host true).output = shown ++ (inquiry.run parser host false).output
      ∧ (inquiry.run parser host true).ending = (inquiry.run parser host false).ending := by
  rw [run_eq_present finds.measured, run_eq_present finds.measured]
  exact present_listed takes

/-- To list rows changes nothing of how a run ends, if the output takes them. -/
theorem ending_run (parser : Parser) (host : Host) (inquiry : Inquiry)
    (takes : ∀ settings survey, Finds parser host inquiry settings survey →
      ∃ shown, host.Takes (listedRows settings survey.metrics true) shown) :
    (inquiry.run parser host true).ending = (inquiry.run parser host false).ending := by
  rcases failsBy_or_finds parser host inquiry with ⟨failure, fails⟩ | ⟨settings, survey, finds⟩
  · rw [run_eq_failing fails.measured, run_eq_failing fails.measured]
  · obtain ⟨shown, taken⟩ := takes settings survey finds
    exact (listed_of_takes finds taken).2

/-- A list stops at the first of its rows that the output refuses. -/
theorem stops_of_listedRows (finds : Finds parser host inquiry settings survey) {shown : List String}
    {failure : Failure} (refuses : host.Refuses (listedRows settings survey.metrics true) shown failure) :
    (inquiry.run parser host true).output = shown
      ∧ (inquiry.run parser host true).ending = .failure failure := by
  rw [run_eq_present finds.measured]
  exact present_of_listedRows refuses

/-- What is counted and what is listed of some metrics: both times the same document with the rows in it, or a
report that stands alone and then after a line for each row. The lines at the end of the rows add up to the
total that is reported. -/
inductive Lists (settings : Settings) (metrics : Metrics) (percentage : Option Percentage)
    (counted listed : List String) : Prop
  | document {document : Json.Value} {regions : List Json.Value} (asked : settings.document = true)
      (whole : document = .object (documentMembers metrics percentage))
      (report : counted = [document.written]) (same : listed = counted)
      (within : memberAt "spans" document = some (.list regions))
      (rows : regions = metrics.rows.map Metrics.rowValue)
      (total : integerAt "total_unsafe" document
        = some (regions.map fun region => (integerAt "num_lines" region).getD 0).sum) :
      Lists settings metrics percentage counted listed
  | text {text : String} (plain : settings.document = false)
      (told : Reports settings metrics percentage text) (report : counted = [text])
      (rows : listed = metrics.rows.map Row.text ++ counted)
      (total : firstNumber text = ((metrics.rows.map Row.text).map lastNumber).sum) :
      Lists settings metrics percentage counted listed

/-- Metrics with a percentage are counted and listed, if the output shows the names in the rows as they are. -/
theorem lists_of_finds (finds : Finds parser host inquiry settings survey)
    (computed : survey.metrics.percentage = .ok percentage)
    (shows : host.Shows (listedNames settings survey.metrics true)) :
    Lists settings survey.metrics percentage (inquiry.run parser host false).output
      (inquiry.run parser host true).output := by
  obtain ⟨text, _, told⟩ := reports settings computed
  have alone : (inquiry.run parser host false).output = [text] :=
    (concludes_of_takes finds computed told (takes_of_shows computed told (shows_counted shows))).output
  obtain ⟨listed, _⟩ := listed_of_takes finds (takes_listedRows shows)
  cases asked : settings.document with
  | true =>
    rw [told.unique (.document asked)] at alone
    refine .document asked rfl alone ?_ rfl rfl ?_
    · rw [listed, listedRows, asked]
      rfl
    · rw [sum_integerAt_rowValue, ← unsafeLines_eq_sum]
      rfl
  | false =>
    refine .text asked told alone ?_ ?_
    · rw [listed, listedRows, asked]
      rfl
    · have numbers : lastNumber ∘ Row.text = Row.lineCount := by
        funext row
        rw [Function.comp_apply, lastNumber_text]
      rw [firstNumber_of_reports asked told, unsafeLines_eq_sum, List.map_map, numbers]

theorem rows_of_survey (surveyed : inquiry.survey parser host settings = .ok survey) :
    List.Forall₂ (fun extent row => Row.ofExtent survey.assembly.map extent = .ok row)
      (Outline.regions survey.assembly.outline) survey.metrics.rows := by
  unfold Inquiry.survey at surveyed
  split at surveyed
  · obtain ⟨letters, _, surveyed⟩ := bind_eq_ok_iff.mp surveyed
    obtain ⟨assembly, _, done⟩ := bind_eq_ok_iff.mp surveyed
    exact rows_of_ofAssembly done
  · obtain ⟨assembly, _, done⟩ := bind_eq_ok_iff.mp surveyed
    exact rows_of_ofAssembly done

/-- **The two commands with the same inquiry.** A run that fails prints nothing under either and ends in the same
way. Of a run that finds its metrics, there is a row for each region, in the order of the outline. If the output
takes these rows, the list is the count after what is shown of them and ends in the same way; else it stops at the
row that is refused. An output that shows the names in the rows as they are shows the rows so; a document is the
same under both. -/
theorem spans_lists (parser : Parser) (host : Host) (inquiry : Inquiry) :
    (∀ failure, FailsBy parser host inquiry failure →
        (inquiry.run parser host false).output = [] ∧ (inquiry.run parser host true).output = []
          ∧ (inquiry.run parser host true).ending = (inquiry.run parser host false).ending)
      ∧ ∀ settings survey, Finds parser host inquiry settings survey →
          List.Forall₂ (fun extent row => Row.ofExtent survey.assembly.map extent = .ok row)
              (Outline.regions survey.assembly.outline) survey.metrics.rows
            ∧ ((∃ shown, host.Takes (listedRows settings survey.metrics true) shown
                  ∧ (inquiry.run parser host true).output = shown ++ (inquiry.run parser host false).output
                  ∧ (inquiry.run parser host true).ending = (inquiry.run parser host false).ending)
                ∨ ∃ shown failure, host.Refuses (listedRows settings survey.metrics true) shown failure
                  ∧ (inquiry.run parser host true).output = shown
                  ∧ (inquiry.run parser host true).ending = .failure failure)
            ∧ (host.Shows (listedNames settings survey.metrics true) →
                (inquiry.run parser host true).ending = (inquiry.run parser host false).ending
                  ∧ ∀ percentage, survey.metrics.percentage = .ok percentage →
                    Lists settings survey.metrics percentage (inquiry.run parser host false).output
                      (inquiry.run parser host true).output) := by
  refine ⟨fun failure fails => ?_, fun settings survey finds => ⟨?_, ?_, fun shows => ⟨?_, ?_⟩⟩⟩
  · have output (listsRows : Bool) : (inquiry.run parser host listsRows).output = [] :=
      (run_eq_error fails.measured).1
    refine ⟨output false, output true, ?_⟩
    rw [run_eq_failing fails.measured, run_eq_failing fails.measured]
  · exact rows_of_survey finds.surveys
  · rcases takes_or_refuses host (listedRows settings survey.metrics true) with
      ⟨shown, takes⟩ | ⟨shown, failure, refuses⟩
    · exact .inl ⟨shown, takes, listed_of_takes finds takes⟩
    · exact .inr ⟨shown, failure, refuses, stops_of_listedRows finds refuses⟩
  · exact (listed_of_takes finds (takes_listedRows shows)).2
  · exact fun percentage computed => lists_of_finds finds computed shows

/-- A crate of two lines with a region in each, under three names: the second one has a control sequence in it,
and the output lacks a letter of the third. -/
def regionsHost : Host where
  tree := ⟨[(["w"], .directory),
    (["w", "a.rs"], .file "unsafe fn a() \x7b\x7d\nfn b() \x7b unsafe \x7b\x7d \x7d\n".toUTF8),
    (["w", "\x1b[31ma.rs"], .file "unsafe fn a() \x7b\x7d\nfn b() \x7b unsafe \x7b\x7d \x7d\n".toUTF8),
    (["w", "ж.rs"], .file "unsafe fn a() \x7b\x7d\nfn b() \x7b unsafe \x7b\x7d \x7d\n".toUTF8)],
    ["w"]⟩
  echo := echoBelow 256

/-- The list is the count after two lines. -/
theorem spans_lists_regions :
    let counted := Inquiry.run Grammar.parse regionsHost { path := "a.rs" } false
    let listed := Inquiry.run Grammar.parse regionsHost { path := "a.rs" } true
    counted.output = ["Unsafe lines: 2/2 (100.00%)"]
      ∧ listed.output = ["a.rs:1:0-1:16  1", "a.rs:2:9-2:18  1", "Unsafe lines: 2/2 (100.00%)"]
      ∧ listed.ending = counted.ending
      ∧ ∃ settings survey percentage,
          Finds Grammar.parse regionsHost { path := "a.rs" } settings survey
            ∧ survey.metrics.percentage = .ok percentage
            ∧ regionsHost.Shows (listedNames settings survey.metrics true)
            ∧ Lists settings survey.metrics percentage counted.output listed.output := by
  intro counted listed
  have computed : (Inquiry.measure Grammar.parse regionsHost { path := "a.rs" }).result.toOption.map
      (fun found => (found.2.percentage.toOption, listedNames found.1 found.2 true))
        = some (some (some ⟨false, 10000⟩), ["a.rs", "a.rs"]) := by
    decide +kernel
  obtain ⟨settings, survey, finds, known⟩ := exists_finds computed
  obtain ⟨percentage, names⟩ := Prod.mk.inj known
  have percentage := toOption_eq_some_iff.mp percentage
  have shows : regionsHost.Shows (listedNames settings survey.metrics true) := by
    rw [names]
    exact shows_echoBelow 256 (by decide) (by decide) (by simp only [regionsHost])
  obtain ⟨_, found⟩ := spans_lists Grammar.parse regionsHost { path := "a.rs" }
  obtain ⟨_, _, shown⟩ := found settings survey finds
  obtain ⟨ends, lists⟩ := shown shows
  exact ⟨by decide +kernel, by decide +kernel, ends, settings, survey, _, finds, percentage, shows,
    lists _ percentage⟩

/-- Under the second name the list has two other lines than the rows before the count. Under the third name its
first row is refused, and the count ends with nought and the list with one. -/
theorem spans_lists_unseen :
    let counted (name : String) := Inquiry.run Grammar.parse regionsHost { path := name } false
    let listed (name : String) := Inquiry.run Grammar.parse regionsHost { path := name } true
    (∃ settings survey percentage,
        Finds Grammar.parse regionsHost { path := "\x1b[31ma.rs" } settings survey
          ∧ survey.metrics.percentage = .ok percentage ∧ settings.document = false
          ∧ (listed "\x1b[31ma.rs").output
            ≠ survey.metrics.rows.map Row.text ++ (counted "\x1b[31ma.rs").output)
      ∧ (∃ settings survey percentage failure, Finds Grammar.parse regionsHost { path := "ж.rs" } settings survey
        ∧ survey.metrics.percentage = .ok percentage
        ∧ regionsHost.Refuses (listedRows settings survey.metrics true) [] failure)
      ∧ (counted "ж.rs").ending.status = 0 ∧ (listed "ж.rs").ending.status = 1 := by
  intro counted listed
  have computed : (Inquiry.measure Grammar.parse regionsHost { path := "\x1b[31ma.rs" }).result.toOption.map
      (fun found => (found.2.percentage.toOption, found.1.document, found.2.rows.map Row.text))
        = some (some (some ⟨false, 10000⟩), false,
          ["\x1b[31ma.rs:1:0-1:16  1", "\x1b[31ma.rs:2:9-2:18  1"]) := by
    decide +kernel
  have output : (listed "\x1b[31ma.rs").output
      = ["a.rs:1:0-1:16  1", "a.rs:2:9-2:18  1", "Unsafe lines: 2/2 (100.00%)"] := by
    decide +kernel
  have computed' : (Inquiry.measure Grammar.parse regionsHost { path := "ж.rs" }).result.toOption.map
      (fun found => (found.2.percentage.toOption, listedRows found.1 found.2 true))
        = some (some (some ⟨false, 10000⟩), ["ж.rs:1:0-1:16  1", "ж.rs:2:9-2:18  1"]) := by
    decide +kernel
  obtain ⟨settings, survey, finds, known⟩ := exists_finds computed
  obtain ⟨percentage, document, rows⟩ : _ ∧ _ ∧ _ := by simpa only [Prod.mk.injEq] using known
  obtain ⟨settings', survey', finds', known'⟩ := exists_finds computed'
  obtain ⟨percentage', rows'⟩ := Prod.mk.inj known'
  refine ⟨⟨settings, survey, _, finds, toOption_eq_some_iff.mp percentage, document, ?_⟩,
    ⟨settings', survey', _, .unencodable { offset := 0, count := 1, first := 1078 }, finds',
      toOption_eq_some_iff.mp percentage', ?_⟩, by decide +kernel, by decide +kernel⟩
  · rw [rows, output]
    exact fun same => absurd (List.cons.inj same).1 (by decide)
  · rw [rows']
    exact .here rfl

end Console

end UnsafeCensus
