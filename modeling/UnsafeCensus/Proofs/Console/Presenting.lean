/-
**What a run shows of its metrics.**

The lines of the output come from the metrics and the settings, and the number that a run ends with from the
numbers among them. The name of a file is shown in rows and in documents and decides nothing.

* `result_measure`: the settings and the metrics of a run;
* `run_eq_failing`, `run_eq_present`: a run without metrics, and a run with them;
* `printed`, `taken`, `endingOf`: the lines, the output and the end of a run that has found its metrics;
* `present_of_takes`, `present_of_refuses`: lines that the output takes, and lines of which it refuses one;
* `present_listed`: to list rows that the output takes changes nothing after them;
* `taken_of_shows`, `ending_of_shows`: an output that shows the names in the rows as they are;
* `ending_present_named`: the end is the same under another name.
-/

import Mathlib
import UnsafeCensus.Proofs.Census.Naming
import UnsafeCensus.Proofs.Console.Showing

namespace UnsafeCensus.Console

open Census Crate

variable {host host' : Host} {warnings warnings' : List Warning} {settings : Settings}
  {metrics : Metrics} {listsRows : Bool} {name : String}

/-! ### Runs that measure -/

section Measuring

variable {parser : Parser} {inquiry : Inquiry} {failure : Failure}

theorem result_measure (parser : Parser) (host : Host) (inquiry : Inquiry) :
    (inquiry.measure parser host).result = (inquiry.settings host).result >>= fun settings =>
      ((inquiry.survey parser host settings).map Survey.metrics).map fun metrics =>
        (settings, metrics) := by
  rw [Inquiry.measure, Attempt.result_bind]
  refine bind_congr fun settings => ?_
  rw [Attempt.result_bind]
  show (inquiry.survey parser host settings >>= fun survey => Except.ok (settings, survey.metrics)) = _
  cases inquiry.survey parser host settings <;> rfl

theorem measured_of_settings (failed : (inquiry.settings host).result = .error failure) :
    (inquiry.measure parser host).result = .error failure := by
  rw [result_measure, failed]
  rfl

/-- A run without metrics fails. -/
theorem run_eq_failing (failed : (inquiry.measure parser host).result = .error failure) :
    inquiry.run parser host listsRows
      = .failing host.tree (inquiry.measure parser host).warnings failure := by
  simp only [Inquiry.run, failed]

/-- A run without metrics prints nothing. -/
theorem run_eq_error (failed : (inquiry.measure parser host).result = .error failure) :
    (inquiry.run parser host listsRows).output = []
      ∧ (inquiry.run parser host listsRows).ending.status = 1 := by
  rw [run_eq_failing failed]
  cases failure <;> exact ⟨rfl, rfl⟩

theorem run_eq_present (done : (inquiry.measure parser host).result = .ok (settings, metrics)) :
    inquiry.run parser host listsRows
      = present host (inquiry.measure parser host).warnings settings metrics listsRows := by
  simp only [Inquiry.run, done]

end Measuring

/-! ### What is printed and how a run ends -/

/-- The lines of a run: the rows that are listed, and the report when there is one. -/
def printed (settings : Settings) (metrics : Metrics) (listsRows : Bool) : List String :=
  listedRows settings metrics listsRows ++ (reportOf settings metrics).result.toOption.toList

/-- The lines of the output: those of a run, as far as they are taken. -/
def taken (host : Host) (settings : Settings) (metrics : Metrics) (listsRows : Bool) : List String :=
  match host.put (listedRows settings metrics listsRows) with
  | (rows, some _) => rows
  | (rows, none) => rows ++ ((reportOf settings metrics).result >>= host.echo).toOption.toList

theorem output_present :
    (present host warnings settings metrics listsRows).output = taken host settings metrics listsRows := by
  rw [present, taken]
  obtain ⟨rows, refused⟩ := host.put (listedRows settings metrics listsRows)
  cases refused with
  | some failure => rfl
  | none =>
    cases reported : (reportOf settings metrics).result >>= host.echo with
    | error failure => simp [reported, Except.toOption]
    | ok text =>
      cases gate : (gateMessage? settings metrics).result with
      | error failure => simp [reported, gate, Except.toOption]
      | ok told => cases told <;> simp [reported, gate, Except.toOption]

/-- How a run ends by what its rows, its report and its gate come to. -/
def endingOf (refused : Option Failure) (reported : Except Failure Unit)
    (gate : Except Failure (Option String)) : Ending :=
  match refused, reported, gate with
  | some failure, _, _ => .failure failure
  | none, .error failure, _ => .failure failure
  | none, .ok _, .error failure => .failure failure
  | none, .ok _, .ok none => .exit 0
  | none, .ok _, .ok (some _) => .exit 3

theorem ending_present :
    (present host warnings settings metrics listsRows).ending
      = endingOf (host.put (listedRows settings metrics listsRows)).2
          (((reportOf settings metrics).result >>= host.echo).map fun _ => ())
          (gateMessage? settings metrics).result := by
  rw [present]
  obtain ⟨rows, refused⟩ := host.put (listedRows settings metrics listsRows)
  cases refused with
  | some failure => rfl
  | none =>
    cases reported : (reportOf settings metrics).result >>= host.echo with
    | error failure => simp [endingOf, reported, Except.map]
    | ok text =>
      cases gate : (gateMessage? settings metrics).result with
      | error failure => simp [endingOf, reported, gate, Except.map]
      | ok told => cases told <;> simp [endingOf, reported, gate, Except.map]

/-- A run that has found its metrics puts out its lines, if the output takes them, and ends by its gate. -/
theorem present_of_takes {text : String} {shown : List String}
    (reported : (reportOf settings metrics).result = .ok text)
    (takes : host.Takes (listedRows settings metrics listsRows ++ [text]) shown) :
    (present host warnings settings metrics listsRows).output = shown
      ∧ (present host warnings settings metrics listsRows).ending
        = endingOf none (.ok ()) (gateMessage? settings metrics).result := by
  obtain ⟨rows, last, taken', echo, rfl⟩ := takes_concat takes
  have put : (reportOf settings metrics).result >>= host.echo = .ok last := by
    rw [reported]
    exact echo
  rw [output_present, ending_present, taken, taken'.put, put]
  exact ⟨rfl, rfl⟩

/-- A run that has found its metrics puts out its lines up to one that the output refuses, and ends by that. -/
theorem present_of_refuses {text : String} {shown : List String} {failure : Failure}
    (reported : (reportOf settings metrics).result = .ok text)
    (refuses : host.Refuses (listedRows settings metrics listsRows ++ [text]) shown failure) :
    (present host warnings settings metrics listsRows).output = shown
      ∧ (present host warnings settings metrics listsRows).ending = .failure failure := by
  rw [output_present, ending_present, taken]
  rcases refuses_concat refuses with rows | ⟨rows, last⟩
  · rw [rows.put]
    exact ⟨rfl, rfl⟩
  · have put : (reportOf settings metrics).result >>= host.echo = .error failure := by
      rw [reported]
      exact last
    rw [rows.put, put]
    exact ⟨List.append_nil shown, rfl⟩

/-- A run that lists rows, all of which the output takes, goes on as if it had listed none. -/
theorem present_listed {shown : List String} (takes : host.Takes (listedRows settings metrics true) shown) :
    (present host warnings settings metrics true).output
        = shown ++ (present host warnings settings metrics false).output
      ∧ (present host warnings settings metrics true).ending
        = (present host warnings settings metrics false).ending := by
  simp only [output_present, ending_present, taken]
  rw [takes.put]
  exact ⟨rfl, rfl⟩

/-- A run that lists rows stops at the first one that the output refuses. -/
theorem present_of_listedRows {shown : List String} {failure : Failure}
    (refuses : host.Refuses (listedRows settings metrics listsRows) shown failure) :
    (present host warnings settings metrics listsRows).output = shown
      ∧ (present host warnings settings metrics listsRows).ending = .failure failure := by
  rw [output_present, ending_present, taken, refuses.put]
  exact ⟨rfl, rfl⟩

section Shown

variable (shows : host.Shows (listedNames settings metrics listsRows))

include shows

/-- The output takes what is reported, if there is a report. -/
theorem bind_echo : (reportOf settings metrics).result >>= host.echo = (reportOf settings metrics).result := by
  cases reported : (reportOf settings metrics).result with
  | error failure => rfl
  | ok text => exact echo_report shows reported

/-- Where the output shows the names in the rows as they are, it shows all lines so. -/
theorem taken_of_shows : taken host settings metrics listsRows = printed settings metrics listsRows := by
  rw [taken, (takes_listedRows shows).put, bind_echo shows, printed]

theorem ending_of_shows :
    (present host warnings settings metrics listsRows).ending
      = endingOf none ((reportOf settings metrics).result.map fun _ => ())
          (gateMessage? settings metrics).result := by
  rw [ending_present, (takes_listedRows shows).put, bind_echo shows]

end Shown

theorem unsafeLines_named : (metrics.named name).unsafeLines = metrics.unsafeLines := by
  rw [Metrics.unsafeLines, Metrics.unsafeLines, Metrics.named, List.map_map]
  rfl

theorem percentage_named : (metrics.named name).percentage = metrics.percentage := by
  rw [Metrics.percentage, unsafeLines_named]
  rfl

theorem report_named (format : Format) :
    Census.report (metrics.named name) format = Census.report metrics format := by
  have total : (metrics.named name).hasTotal = metrics.hasTotal := rfl
  have count : (metrics.named name).lineCount = metrics.lineCount := rfl
  simp only [Census.report, unsafeLines_named, percentage_named, total, count]

/-- A document under another name is refused when the first one is. -/
theorem reportOf_named :
    (reportOf settings (metrics.named name)).result.map (fun _ => ())
      = (reportOf settings metrics).result.map fun _ => () := by
  rw [reportOf, reportOf, report_named]
  by_cases document : settings.document = true
  · rw [if_pos document, if_pos document, Metrics.document, Metrics.document, Metrics.value,
      Metrics.value, percentage_named]
    cases metrics.percentage with
    | error => rfl
    | ok => simp only [Attempt.ofExcept, bind, Except.bind, pure, Except.pure, Except.map]
  · rw [if_neg document, if_neg document]

theorem gateMessage?_named :
    gateMessage? settings (metrics.named name) = gateMessage? settings metrics := by
  have exceeds (limit : Option Amount) :
      Census.exceeds (metrics.named name) limit = Census.exceeds metrics limit := by
    cases limit <;> simp only [Census.exceeds, percentage_named]
  simp only [gateMessage?, exceeds, percentage_named]

/-- A run ends in the same way under another name of the file, where the output shows both names as they are. -/
theorem ending_present_named (shows : host.Shows (listedNames settings metrics listsRows))
    (shows' : host'.Shows (listedNames settings (metrics.named name) listsRows)) :
    (present host' warnings' settings (metrics.named name) listsRows).ending
      = (present host warnings settings metrics listsRows).ending := by
  rw [ending_of_shows shows', ending_of_shows shows, reportOf_named, gateMessage?_named]

end UnsafeCensus.Console
