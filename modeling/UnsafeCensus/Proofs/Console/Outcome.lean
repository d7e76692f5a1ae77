/-
**How a run that measures ends.**

A run fails by its settings or by its survey, or it puts out its rows and its report and is held back or not. Only
a line that the output refuses stops it before. A limit has a part in the question whether a crate is held back
alone, so runs that differ in a limit print the same.

* `FailsBy`, `Finds`: a run that fails, and one that has its settings and its survey;
* `Tells`: a run that ends by a diagnostic;
* `Reports`, `HeldBack`: what is reported of some metrics, and when a crate is held back;
* `Concludes`: a run whose lines are taken and that ends by its limit;
* `tells_of_failsBy`, `concludes_of_takes`, `stops_of_refuses`: how such runs end;
* `LimitApart`: two runs that print the same and end alike but for their limits;
* `run_outcome`: all of this for a run;
* `run_outcome_held`, `run_outcome_unseen`: a crate that is held back, and names that are not shown as they are.
-/

import Mathlib
import UnsafeCensus.Grammar.Grammar
import UnsafeCensus.Proofs.Census.Gate
import UnsafeCensus.Proofs.Console.Effective
import UnsafeCensus.Proofs.Console.Presenting

namespace UnsafeCensus.Console

open Census Crate

variable {parser : Parser} {host : Host} {inquiry inquiry' : Inquiry} {settings settings' : Settings}
  {survey : Survey} {metrics : Metrics} {percentage : Option Percentage} {failure : Failure}
  {listsRows : Bool}

/-! ### What a run comes to -/

/-- The settings of a run or its survey fails. -/
inductive FailsBy (parser : Parser) (host : Host) (inquiry : Inquiry) (failure : Failure) : Prop
  | settings (failed : (inquiry.settings host).result = .error failure) :
      FailsBy parser host inquiry failure
  | survey {settings : Settings} (done : (inquiry.settings host).result = .ok settings)
      (failed : inquiry.survey parser host settings = .error failure) :
      FailsBy parser host inquiry failure

/-- A run has its settings and its survey. -/
structure Finds (parser : Parser) (host : Host) (inquiry : Inquiry) (settings : Settings)
    (survey : Survey) : Prop where
  loads : (inquiry.settings host).result = .ok settings
  surveys : inquiry.survey parser host settings = .ok survey

theorem FailsBy.measured (fails : FailsBy parser host inquiry failure) :
    (inquiry.measure parser host).result = .error failure := by
  cases fails with
  | settings failed => exact measured_of_settings failed
  | survey done failed =>
    rw [result_measure, done]
    show Except.map _ (Except.map _ (inquiry.survey parser host _)) = _
    rw [failed]
    rfl

theorem Finds.measured (finds : Finds parser host inquiry settings survey) :
    (inquiry.measure parser host).result = .ok (settings, survey.metrics) := by
  rw [result_measure, finds.loads]
  show Except.map _ (Except.map _ (inquiry.survey parser host settings)) = _
  rw [finds.surveys]
  rfl

/-- There is no third case. -/
theorem failsBy_or_finds (parser : Parser) (host : Host) (inquiry : Inquiry) :
    (∃ failure, FailsBy parser host inquiry failure)
      ∨ ∃ settings survey, Finds parser host inquiry settings survey := by
  cases done : (inquiry.settings host).result with
  | error failure => exact .inl ⟨failure, .settings done⟩
  | ok settings =>
    cases found : inquiry.survey parser host settings with
    | error failure => exact .inl ⟨failure, .survey done found⟩
    | ok survey => exact .inr ⟨settings, survey, done, found⟩

/-- A run of whose settings and metrics something is known has its settings and its survey. -/
theorem exists_finds {α : Type} {known : Settings × Metrics → α} {value : α}
    (computed : (inquiry.measure parser host).result.toOption.map known = some value) :
    ∃ settings survey, Finds parser host inquiry settings survey
      ∧ known (settings, survey.metrics) = value := by
  rcases failsBy_or_finds parser host inquiry with ⟨failure, fails⟩ | ⟨settings, survey, finds⟩
  · rw [fails.measured] at computed
    cases computed
  · rw [finds.measured] at computed
    exact ⟨settings, survey, finds, Option.some.inj computed⟩

/-! ### Diagnostics -/

/-- A run prints nothing, tells a diagnostic after some warnings, and ends with one. -/
structure Tells (host : Host) (behaviour : Behaviour) (diagnostic : Diagnostic) : Prop where
  output : behaviour.output = []
  messages : ∃ warnings : List Warning, behaviour.messages.map host.told
    = warnings.map (fun warning => "WARNING: " ++ warning.message) ++ [host.tell diagnostic.formatted]
  ending : behaviour.ending = .exit 1

/-- A run that fails by a diagnostic tells it. -/
theorem tells_of_failsBy {diagnostic : Diagnostic}
    (fails : FailsBy parser host inquiry (.diagnosed diagnostic)) :
    Tells host (inquiry.run parser host listsRows) diagnostic := by
  rw [run_eq_failing fails.measured]
  refine ⟨rfl, ⟨(inquiry.measure parser host).warnings, ?_⟩, rfl⟩
  show List.map host.told (_ ++ [_]) = _
  rw [List.map_append, List.map_map]
  rfl

/-! ### Reports -/

/-- The members of the document of some metrics. -/
def documentMembers (metrics : Metrics) (percentage : Option Percentage) :
    List (Json.Text × Json.Value) :=
  [Json.member "total_unsafe" (.integer metrics.unsafeLines),
   Json.member "total_lines" ((metrics.lineCount.map fun total => .integer total).getD .null),
   Json.member "percentage" ((percentage.map fun found => .real found.real).getD .null),
   Json.member "spans" (.list (metrics.rows.map Metrics.rowValue))]

/-- What is reported of some metrics: a document, or else the count alone where it is asked for or there is no
percentage, or else the count with its share of all lines. -/
inductive Reports (settings : Settings) (metrics : Metrics) (percentage : Option Percentage) :
    String → Prop
  | document (asked : settings.document = true) :
      Reports settings metrics percentage
        (Json.Value.object (documentMembers metrics percentage)).written
  | count (plain : settings.document = false) (alone : settings.format = .count ∨ percentage = none) :
      Reports settings metrics percentage (countText metrics.unsafeLines)
  | share {total : Nat} {found : Percentage} (plain : settings.document = false)
      (both : settings.format ≠ .count) (known : metrics.lineCount = some total)
      (there : percentage = some found) :
      Reports settings metrics percentage (shareText metrics.unsafeLines total found)

/-- Only one thing is reported of some metrics. -/
theorem Reports.unique {text text' : String} (told : Reports settings metrics percentage text)
    (told' : Reports settings metrics percentage text') : text = text' := by
  cases told with
  | document asked =>
    cases told' with
    | document => rfl
    | count plain | share plain => exact absurd (plain.symm.trans asked) Bool.false_ne_true
  | count plain alone =>
    cases told' with
    | document asked => exact absurd (plain.symm.trans asked) Bool.false_ne_true
    | count => rfl
    | share _ both _ there => exact absurd (alone.resolve_left both) (by rw [there]; exact Option.some_ne_none _)
  | share plain both known there =>
    cases told' with
    | document asked => exact absurd (plain.symm.trans asked) Bool.false_ne_true
    | count _ alone => exact absurd (alone.resolve_left both) (by rw [there]; exact Option.some_ne_none _)
    | share _ _ known' there' =>
      cases known.symm.trans known'
      cases there.symm.trans there'
      rfl

/-- The limit that is set is below the percentage that there is. -/
def HeldBack (settings : Settings) (percentage : Option Percentage) : Prop :=
  ∃ limit found, settings.failAbove = some limit ∧ percentage = some found
    ∧ (Amount.real limit).below (.real found.real) = true

/-- There is a percentage exactly when there are lines to take it of. -/
theorem isSome_percentage (computed : metrics.percentage = .ok percentage) :
    percentage.isSome = metrics.hasTotal := by
  unfold Metrics.percentage Percentage.of at computed
  unfold Metrics.hasTotal
  obtain ⟨rows, lineCount⟩ := metrics
  cases lineCount with
  | none =>
    cases computed
    rfl
  | some total =>
    cases total with
    | zero =>
      cases computed
      rfl
    | succ total =>
      simp only [Option.map_some] at computed
      split at computed
      · cases computed
      · cases computed
        simp

/-- **The report of metrics with a percentage.** -/
theorem reports (settings : Settings) (computed : metrics.percentage = .ok percentage) :
    ∃ text, (reportOf settings metrics).result = .ok text ∧ Reports settings metrics percentage text := by
  unfold reportOf
  cases asked : settings.document with
  | true =>
    rw [if_pos rfl]
    refine ⟨_, ?_, .document asked⟩
    show metrics.document = _
    unfold Metrics.document Metrics.value
    rw [computed]
    rfl
  | false =>
    rw [if_neg Bool.false_ne_true]
    unfold Census.report
    by_cases count : settings.format = .count
    · rw [if_pos count]
      exact ⟨_, rfl, .count asked (.inl count)⟩
    · have total := isSome_percentage computed
      rw [if_neg count]
      cases percentage with
      | none =>
        rw [← total, if_neg (by simp)]
        refine ⟨_, ?_, .count asked (.inr rfl)⟩
        split <;> rfl
      | some found =>
        obtain ⟨lines, known⟩ : ∃ lines, metrics.lineCount = some lines := by
          cases lineCount : metrics.lineCount with
          | none => simp [Metrics.hasTotal, lineCount] at total
          | some lines => exact ⟨lines, rfl⟩
        rw [← total, if_pos (by simp), Attempt.result_bind]
        show ∃ text, (metrics.percentage >>= _) = _ ∧ _
        rw [computed]
        refine ⟨_, rfl, ?_⟩
        rw [known]
        exact .share asked count known rfl

/-- **The gate of metrics with a percentage.** -/
theorem gate_of_percentage (settings : Settings) (computed : metrics.percentage = .ok percentage) :
    ∃ told, (gateMessage? settings metrics).result = .ok told
      ∧ (told.isSome = true ↔ HeldBack settings percentage) := by
  unfold gateMessage? HeldBack
  cases limited : settings.failAbove with
  | none => exact ⟨none, rfl, by simp⟩
  | some limit =>
    rw [Option.map_some, Attempt.result_bind, result_exceeds, computed]
    cases percentage with
    | none => exact ⟨none, rfl, by simp⟩
    | some found =>
      cases above : (Amount.real limit).below (.real found.real) with
      | false =>
        refine ⟨none, ?_, by simp [above]⟩
        show Attempt.result (if (Amount.real limit).below (.real found.real) = true then _ else _) = _
        rw [above]
        rfl
      | true =>
        refine ⟨some (gateText found.real limit), ?_, by simp [above]⟩
        show Attempt.result (if (Amount.real limit).below (.real found.real) = true then _ else _) = _
        rw [if_pos above]
        rfl

/-! ### Runs that find their metrics -/

/-- What is reported of metrics with a percentage is their report. -/
theorem Reports.result {text : String} (told : Reports settings metrics percentage text)
    (computed : metrics.percentage = .ok percentage) : (reportOf settings metrics).result = .ok text := by
  obtain ⟨text', reported, told'⟩ := reports settings computed
  rw [reported, told.unique told']

/-- A run has put out some lines and ends by whether its crate is held back. -/
structure Concludes (behaviour : Behaviour) (settings : Settings) (percentage : Option Percentage)
    (shown : List String) : Prop where
  output : behaviour.output = shown
  heldBack : behaviour.ending = .exit 3 ↔ HeldBack settings percentage
  passed : behaviour.ending = .exit 0 ↔ ¬ HeldBack settings percentage

section Found

variable {text : String} {shown : List String}

/-- A run that finds metrics with a percentage comes to its end, if the output takes its lines. -/
theorem concludes_of_takes (finds : Finds parser host inquiry settings survey)
    (computed : survey.metrics.percentage = .ok percentage)
    (told : Reports settings survey.metrics percentage text)
    (takes : host.Takes (listedRows settings survey.metrics listsRows ++ [text]) shown) :
    Concludes (inquiry.run parser host listsRows) settings percentage shown := by
  obtain ⟨message, gate, held⟩ := gate_of_percentage settings computed
  rw [run_eq_present finds.measured]
  obtain ⟨output, ends⟩ := present_of_takes (told.result computed) takes
  refine ⟨output, ?_, ?_⟩
  · rw [ends, gate, ← held]
    cases message <;> simp [endingOf]
  · rw [ends, gate, ← held]
    cases message <;> simp [endingOf]

/-- A run that finds metrics with a percentage stops at the first line that the output refuses. -/
theorem stops_of_refuses (finds : Finds parser host inquiry settings survey)
    (computed : survey.metrics.percentage = .ok percentage)
    (told : Reports settings survey.metrics percentage text)
    (refuses : host.Refuses (listedRows settings survey.metrics listsRows ++ [text]) shown failure) :
    (inquiry.run parser host listsRows).output = shown
      ∧ (inquiry.run parser host listsRows).ending = .failure failure := by
  rw [run_eq_present finds.measured]
  exact present_of_refuses (told.result computed) refuses

/-- An output that shows the names in the rows as they are shows all lines so. -/
theorem takes_of_shows (computed : metrics.percentage = .ok percentage)
    (told : Reports settings metrics percentage text)
    (shows : host.Shows (listedNames settings metrics listsRows)) :
    host.Takes (listedRows settings metrics listsRows ++ [text])
      (listedRows settings metrics listsRows ++ [text]) :=
  List.rel_append (takes_listedRows shows) (.cons (echo_report shows (told.result computed)) .nil)

end Found

/-! ### Runs that differ in a limit -/

/-- Settings without their limit. -/
def unlimited (settings : Settings) : Settings :=
  { settings with failAbove := none }

/-- The settings of a run whose limit is allowed are what its options say over what was loaded before. -/
theorem result_settings (host : Host) (allowed : inquiry.LimitAllowed) :
    (inquiry.settings host).result
      = (Settings.load host.nesting host.tree inquiry.start (inquiry.settingsFile.map Files.Path.ofText)
          host.format).result.map fun loaded => inquiry.layer.over loaded := by
  unfold Inquiry.settings
  rw [Attempt.result_bind]
  cases (Settings.load host.nesting host.tree inquiry.start (inquiry.settingsFile.map Files.Path.ofText)
    host.format).result with
  | error failure => rfl
  | ok loaded => exact Inquiry.withOverrides_members_eq_ok_iff.mpr ⟨allowed, rfl⟩

/-- Two runs print the same, and unless one of them meets what is no diagnostic, both end with one or neither
does. -/
structure LimitApart (first second : Behaviour) : Prop where
  output : first.output = second.output
  ending : ∀ status status', first.ending = .exit status → second.ending = .exit status' →
    (status = 1 ∧ status' = 1) ∨ (status ∈ [0, 3] ∧ status' ∈ [0, 3])

theorem taken_unlimited (same : unlimited settings = unlimited settings') :
    taken host settings metrics listsRows = taken host settings' metrics listsRows := by
  obtain ⟨format, follow, limit, document⟩ := settings
  obtain ⟨format', follow', limit', document'⟩ := settings'
  cases same
  rfl

/-- A run that has found its metrics ends with nought or three, if with a number. -/
theorem exit_present {warnings : List Warning} {status : Nat}
    (ends : (present host warnings settings metrics listsRows).ending = .exit status) :
    status ∈ [0, 3] := by
  rw [ending_present] at ends
  unfold endingOf at ends
  split at ends <;> cases ends <;> simp

theorem exit_failing {tree : Files.Tree} {warnings : List Warning} {status : Nat}
    (ends : (Behaviour.failing tree warnings failure).ending = .exit status) : status = 1 := by
  cases failure <;> cases ends
  rfl

theorem limitApart_of_error {first second : Inquiry}
    (failed : (first.measure parser host).result = .error failure)
    (failed' : (second.measure parser host).result = .error failure) :
    LimitApart (first.run parser host listsRows) (second.run parser host listsRows) := by
  refine ⟨(run_eq_error failed).1.trans (run_eq_error failed').1.symm, ?_⟩
  intro status status' ends ends'
  rw [run_eq_failing failed] at ends
  rw [run_eq_failing failed'] at ends'
  exact .inl ⟨exit_failing ends, exit_failing ends'⟩

theorem limitApart_of_ok {first second : Inquiry}
    (done : (first.measure parser host).result = .ok (settings, metrics))
    (done' : (second.measure parser host).result = .ok (settings', metrics))
    (same : unlimited settings = unlimited settings') :
    LimitApart (first.run parser host listsRows) (second.run parser host listsRows) := by
  rw [run_eq_present done, run_eq_present done']
  refine ⟨?_, fun status status' ends ends' => .inr ⟨exit_present ends, exit_present ends'⟩⟩
  rw [output_present, output_present]
  exact taken_unlimited same

/-- **Runs that differ in a limit print the same.** -/
theorem limitApart_run {limit : Option Binary64} (allowed : inquiry.LimitAllowed)
    (allowed' : (inquiry.withLimit limit).LimitAllowed) :
    LimitApart (inquiry.run parser host listsRows)
      ((inquiry.withLimit limit).run parser host listsRows) := by
  have set := result_settings host allowed
  have set' := result_settings host allowed'
  -- What is loaded before the options does not depend on the limit among them.
  change _ = (Settings.load host.nesting host.tree inquiry.start (inquiry.settingsFile.map Files.Path.ofText)
    host.format).result.map _ at set'
  cases load : (Settings.load host.nesting host.tree inquiry.start (inquiry.settingsFile.map Files.Path.ofText)
      host.format).result with
  | error failure =>
    rw [load] at set set'
    exact limitApart_of_error (measured_of_settings set) (measured_of_settings set')
  | ok loaded =>
    rw [load] at set set'
    have survey : (inquiry.withLimit limit).survey parser host ((inquiry.withLimit limit).layer.over loaded)
        = inquiry.survey parser host (inquiry.layer.over loaded) := rfl
    cases found : inquiry.survey parser host (inquiry.layer.over loaded) with
    | error failure =>
      have fails : FailsBy parser host inquiry failure := .survey set found
      have fails' : FailsBy parser host (inquiry.withLimit limit) failure :=
        .survey set' (survey.trans found)
      exact limitApart_of_error fails.measured fails'.measured
    | ok survey' =>
      have finds : Finds parser host inquiry _ survey' := ⟨set, found⟩
      have finds' : Finds parser host (inquiry.withLimit limit) _ survey' := ⟨set', survey.trans found⟩
      exact limitApart_of_ok finds.measured finds'.measured rfl

/-! ### Runs -/

/-- **How a run that measures ends.** A run whose settings or survey fails by a diagnostic prints nothing, tells
it and ends with one. A run that finds metrics with a percentage puts out its rows and its whole report. If the
output takes them, it ends with three when the limit that is set is below the percentage, else with nought; else
it stops at the line that the output refuses. An output that shows the names in the rows as they are shows all
lines so. A run fails or finds metrics. A run that differs in a limit prints the same, and unless one of the two
meets what is no diagnostic, both end with one or neither does. -/
theorem run_outcome (parser : Parser) (host : Host) (inquiry : Inquiry) (listsRows : Bool) :
    (∀ diagnostic, FailsBy parser host inquiry (.diagnosed diagnostic) →
        Tells host (inquiry.run parser host listsRows) diagnostic)
      ∧ (∀ settings survey percentage, Finds parser host inquiry settings survey →
          survey.metrics.percentage = .ok percentage →
          ∃ text lines, Reports settings survey.metrics percentage text
            ∧ lines = listedRows settings survey.metrics listsRows ++ [text]
            ∧ ((∃ shown, host.Takes lines shown
                  ∧ Concludes (inquiry.run parser host listsRows) settings percentage shown)
                ∨ ∃ shown failure, host.Refuses lines shown failure
                  ∧ (inquiry.run parser host listsRows).output = shown
                  ∧ (inquiry.run parser host listsRows).ending = .failure failure)
            ∧ (host.Shows (listedNames settings survey.metrics listsRows) →
                Concludes (inquiry.run parser host listsRows) settings percentage lines))
      ∧ ((∃ failure, FailsBy parser host inquiry failure)
          ∨ ∃ settings survey, Finds parser host inquiry settings survey)
      ∧ ∀ limit, inquiry.LimitAllowed → (inquiry.withLimit limit).LimitAllowed →
          LimitApart (inquiry.run parser host listsRows)
            ((inquiry.withLimit limit).run parser host listsRows) := by
  refine ⟨fun _ => tells_of_failsBy, fun settings survey percentage finds computed => ?_,
    failsBy_or_finds parser host inquiry, fun _ => limitApart_run⟩
  obtain ⟨text, _, told⟩ := reports settings computed
  refine ⟨text, _, told, rfl, ?_, fun shows => ?_⟩
  · rcases takes_or_refuses host (listedRows settings survey.metrics listsRows ++ [text]) with
      ⟨shown, takes⟩ | ⟨shown, failure, refuses⟩
    · exact .inl ⟨shown, takes, concludes_of_takes finds computed told takes⟩
    · exact .inr ⟨shown, failure, refuses, stops_of_refuses finds computed told refuses⟩
  · exact concludes_of_takes finds computed told (takes_of_shows computed told shows)

/-- What an output does that is no terminal and takes the letters below a number. -/
def echoBelow (bound : Nat) (line : String) : Except Failure String :=
  let shown := Controls.without line
  match shown.toList.dropWhile fun letter => letter.toNat < bound with
  | [] => .ok shown
  | first :: rest =>
    .error (.unencodable
      { offset := shown.length - (rest.length + 1)
        count := (rest.takeWhile fun letter => bound ≤ letter.toNat).length + 1
        first := first.toNat })

theorem echoBelow_of_lt {bound : Nat} {line : String} (low : ∀ letter ∈ line.toList, letter.toNat < bound)
    (absent : Controls.escape ∉ line.toList) : echoBelow bound line = .ok line := by
  have none : (line.toList.dropWhile fun letter => letter.toNat < bound) = [] :=
    List.dropWhile_eq_nil_iff.mpr fun letter member => decide_eq_true (low letter member)
  simp only [echoBelow, Controls.without_eq_self absent, none]

/-- Such an output shows names as they are whose letters are below the number and no escapes. -/
theorem shows_echoBelow (bound : Nat) {names : List String} (least : 128 ≤ bound)
    (low : (names.all fun name => name.toList.all fun letter =>
      letter.toNat < bound && letter != Controls.escape) = true)
    {host : Host} (echoes : host.echo = echoBelow bound) : host.Shows names := by
  intro line letters
  rw [echoes]
  simp only [List.all_eq_true, Bool.and_eq_true, decide_eq_true_eq, bne_iff_ne] at low
  refine echoBelow_of_lt (fun letter member => ?_) fun member => ?_
  · rcases letters letter member with plain | ⟨name, known, inside⟩
    · exact plain.lt.trans_le least
    · exact (low name known letter inside).1
  · rcases letters _ member with plain | ⟨name, known, inside⟩
    · exact absurd plain (by decide)
    · exact (low name known _ inside).2 rfl

/-- Two crates of one line, which is unsafe; the output lacks a letter in the name of the second file. -/
def unsafeHost : Host where
  tree := ⟨[(["w"], .directory), (["w", "a.rs"], .file "unsafe fn a() \x7b\x7d\n".toUTF8),
    (["w", "ж.rs"], .file "unsafe fn a() \x7b\x7d\n".toUTF8)], ["w"]⟩
  echo := echoBelow 256

/-- The crate is to be held back above ten percent. -/
def limitedInquiry : Inquiry where
  path := "a.rs"
  limit := Literal.read? "10"

/-- The limit holds the crate back, and prints what is printed without it. -/
theorem run_outcome_held :
    let limited := limitedInquiry.run Grammar.parse unsafeHost true
    let free := (limitedInquiry.withLimit none).run Grammar.parse unsafeHost true
    (∃ settings survey percentage, Finds Grammar.parse unsafeHost limitedInquiry settings survey
        ∧ survey.metrics.percentage = .ok percentage
        ∧ unsafeHost.Shows (listedNames settings survey.metrics true)
        ∧ Concludes limited settings percentage ["a.rs:1:0-1:16  1", "Unsafe lines: 1/1 (100.00%)"])
      ∧ limitedInquiry.LimitAllowed ∧ (limitedInquiry.withLimit none).LimitAllowed
      ∧ LimitApart limited free ∧ limited.ending.status = 3 ∧ free.ending.status = 0 := by
  intro limited free
  have allowed : limitedInquiry.LimitAllowed := by
    have within : limitedInquiry.limit.all (fun limit => !(Amount.real limit).below (.whole 0)) = true := by
      decide +kernel
    exact fun limit same => by simpa using (Option.all_eq_true _ _).mp within limit same
  have allowed' : (limitedInquiry.withLimit none).LimitAllowed := fun _ none => nomatch none
  have computed : (limitedInquiry.measure Grammar.parse unsafeHost).result.toOption.map
      (fun found => (found.2.percentage.toOption, listedNames found.1 found.2 true))
        = some (some (some ⟨false, 10000⟩), ["a.rs"]) := by
    decide +kernel
  obtain ⟨_, concludes, _, apart⟩ := run_outcome Grammar.parse unsafeHost limitedInquiry true
  refine ⟨?_, allowed, allowed', apart none allowed allowed', by decide +kernel, by decide +kernel⟩
  obtain ⟨settings, survey, finds, known⟩ := exists_finds computed
  obtain ⟨percentage, names⟩ := Prod.mk.inj known
  have percentage := toOption_eq_some_iff.mp percentage
  have shows : unsafeHost.Shows (listedNames settings survey.metrics true) := by
    rw [names]
    exact shows_echoBelow 256 (by decide) (by decide) (by simp only [unsafeHost])
  obtain ⟨text, lines, _, _, _, concluded⟩ := concludes _ _ _ finds percentage
  have concluded := concluded shows
  have output : limited.output = ["a.rs:1:0-1:16  1", "Unsafe lines: 1/1 (100.00%)"] := by decide +kernel
  rw [← concluded.output, output] at concluded
  exact ⟨settings, survey, _, finds, percentage, shows, concluded⟩

/-- The text of a diagnostic that something fails by. -/
def diagnosis? {α : Type} : Except Failure α → Option String
  | .error (.diagnosed diagnostic) => some diagnostic.formatted
  | _ => none

theorem exists_failsBy {text : String} (told : diagnosis? (inquiry.measure parser host).result = some text) :
    ∃ diagnostic, FailsBy parser host inquiry (.diagnosed diagnostic) ∧ diagnostic.formatted = text := by
  rcases failsBy_or_finds parser host inquiry with ⟨failure, fails⟩ | ⟨settings, survey, finds⟩
  · rw [fails.measured] at told
    cases failure with
    | diagnosed diagnostic => exact ⟨diagnostic, fails, Option.some.inj told⟩
    | _ => cases told
  · rw [finds.measured] at told
    cases told

/-- A run that fails by a diagnostic with a control sequence in it does not tell it as it is formatted, and a run
that finds its metrics, with a letter in the name of its file that the output lacks, ends with one and prints and
tells nothing. -/
theorem run_outcome_unseen :
    let absent := Inquiry.run Grammar.parse unsafeHost { path := "\x1b[31mgone.rs" } false
    let refused := Inquiry.run Grammar.parse unsafeHost { path := "ж.rs" } true
    (∃ diagnostic, FailsBy Grammar.parse unsafeHost { path := "\x1b[31mgone.rs" } (.diagnosed diagnostic)
        ∧ diagnostic.formatted ∉ absent.messages.map unsafeHost.told)
      ∧ (∃ settings survey percentage failure, Finds Grammar.parse unsafeHost { path := "ж.rs" } settings survey
        ∧ survey.metrics.percentage = .ok percentage
        ∧ unsafeHost.Refuses (listedRows settings survey.metrics true) [] failure)
      ∧ refused.output = [] ∧ refused.messages.map unsafeHost.told = [] ∧ refused.ending.status = 1 := by
  intro absent refused
  have computed : diagnosis? (Inquiry.measure Grammar.parse unsafeHost { path := "\x1b[31mgone.rs" }).result
      = some ("[Error] Source file could not be read.\n   Code: 2001\n   Detail: No such file: \x1b[31mgone.rs\n"
        ++ "   Operation: read_source\n   File: \x1b[31mgone.rs") := by
    decide +kernel
  have messages : absent.messages.map unsafeHost.told
      = ["[Error] Source file could not be read.\n   Code: 2001\n   Detail: No such file: gone.rs\n"
        ++ "   Operation: read_source\n   File: gone.rs"] := by
    decide +kernel
  have computed' : (Inquiry.measure Grammar.parse unsafeHost { path := "ж.rs" }).result.toOption.map
      (fun found => (found.2.percentage.toOption, listedRows found.1 found.2 true))
        = some (some (some ⟨false, 10000⟩), ["ж.rs:1:0-1:16  1"]) := by
    decide +kernel
  obtain ⟨diagnostic, fails, formatted⟩ := exists_failsBy computed
  obtain ⟨settings, survey, finds, known⟩ := exists_finds computed'
  obtain ⟨percentage, rows⟩ := Prod.mk.inj known
  refine ⟨⟨diagnostic, fails, ?_⟩, ⟨settings, survey, _, .unencodable { offset := 0, count := 1, first := 1078 },
    finds, toOption_eq_some_iff.mp percentage, ?_⟩, ?_, ?_, ?_⟩
  · rw [formatted, messages]
    decide +kernel
  · rw [rows]
    exact .here rfl
  all_goals decide +kernel

end UnsafeCensus.Console
