/-
**The arguments of the commands that measure.**

The arguments of a command are read into an inquiry, so what holds of runs with an inquiry holds of runs with
arguments. The same arguments under the two commands that measure are the same inquiry, or are refused for the
same reason.

* `run_eq_run`, `settles_ofArguments`: the run of arguments is that of their inquiry;
* `alikeBut_ofArguments`: a text on the standard input and in a file, for the same options;
* `limitApart_ofArguments`, `limitApart_limit`: arguments that differ in a limit;
* `Stop.under`: a stop of one command as that of another;
* `Counterparts`, `counterparts`: what the same arguments ask of the two commands;
* `ending_of_counterparts`, `lists_of_counterparts`: how both commands end, and what they print.
-/

import Mathlib
import UnsafeCensus.Proofs.Console.Input
import UnsafeCensus.Proofs.Console.Listing
import UnsafeCensus.Proofs.Console.Options
import UnsafeCensus.Proofs.Console.Surveying

namespace UnsafeCensus.Console

open Census Crate Files

variable {parser : Parser} {host : Host} {inquiry : Inquiry} {listsRows : Bool}

/-- The behaviour for arguments that ask to measure. -/
theorem run_eq_run {arguments : List String}
    (asked : Request.ofArguments host.tree arguments = .ok (.measure inquiry listsRows)) :
    run parser host arguments = inquiry.run parser host listsRows := by
  rw [run, asked]

/-- The survey of what arguments ask about settles, unless it is no text. -/
theorem settles_ofArguments {arguments : List String} (ranged : ∀ data, (parser data).InRange data.size)
    (asked : Request.ofArguments host.tree arguments = .ok (.measure inquiry listsRows))
    (settings : Settings) :
    Settles Survey.Sound (inquiry.survey parser host settings)
      ∨ ∃ fault, Undecodable host inquiry fault
        ∧ inquiry.survey parser host settings = .error (.undecodable fault) :=
  settles_survey host ranged settings (plain_of_ofArguments asked)

/-! ### The same options with a text and with a file -/

/-- The settings of a run that measures, if there are any. -/
def settingsOf (host : Host) (arguments : List String) : Option Settings :=
  match Request.ofArguments host.tree arguments with
  | .ok (.measure inquiry _) => (inquiry.settings host).result.toOption
  | _ => none


/-- Whatever options are given, a text on the standard input comes to what the text with its line feeds comes to
in a file whose modules are left out. -/
theorem alikeBut_ofArguments {name path : String} {letters : List Char} {command : Command}
    {options : List String} {given : Arguments} (measures : Measures name command)
    (read : Arguments.read command.switches true options = .ok given) (bare : given.rest = [])
    (argument : Arguments.isOption path = false) (proper : path ≠ standardInput)
    (plain : '\x00' ∉ path.toList) (input : host.input = (String.ofList letters).toUTF8)
    (file : host.tree.read path = .ok (String.ofList (Settings.lineFeeds letters)).toUTF8)
    (small : (String.ofList (Settings.lineFeeds letters)).toUTF8.size ≤ largestSource)
    (shows : host.Shows [(Files.Path.ofText path).text])
    (same : (settingsOf host (name :: (options ++ [standardInput]))).map unfollowed
      = (settingsOf host (name :: "--no-follow-modules" :: (options ++ [path]))).map unfollowed) :
    AlikeBut (Files.Path.ofText path).text (run parser host (name :: (options ++ [standardInput])))
      (run parser host (name :: "--no-follow-modules" :: (options ++ [path]))) := by
  -- Both runs read the same options; the second one leaves modules out besides.
  have request : Request.ofArguments host.tree (name :: (options ++ [standardInput]))
      = requestOf host.tree command given standardInput :=
    ofArguments_concat measures read bare (by decide) fun other => absurd rfl other
  have request' : Request.ofArguments host.tree (name :: "--no-follow-modules" :: (options ++ [path]))
      = requestOf host.tree command (given.withGiven [(.alone, "")]) path :=
    ofArguments_alone measures read bare argument fun _ => checkFile_of_read plain file
  have early : Request.early? command (given.withGiven [(.alone, "")])
      = Request.early? command given := rfl
  rw [requestOf, optionsOf_alone, early] at request'
  rw [requestOf] at request
  rw [settingsOf, settingsOf, request, request'] at same
  rw [run, run, request, request']
  cases asked : Request.early? command given with
  | some request => exact AlikeBut.refl _ _
  | none =>
    rw [asked] at same
    cases made : optionsOf host.tree command given with
    | error stop => exact AlikeBut.refl _ _
    | ok inquiry =>
      rw [made] at same
      refine alikeBut_run parser inquiry _ proper plain input file small (fun settings _ => ?_) same
      refine shows.mono fun other member letter inside => .inr ⟨_, List.mem_singleton_self _, ?_⟩
      split at member
      · rwa [← List.mem_singleton.mp member]
      · cases member

/-! ### Arguments that differ in a limit -/

/-- **Arguments that differ in a limit** print the same, and unless one run meets what is no diagnostic, both
end with one or neither does. -/
theorem limitApart_ofArguments {first second : List String} {inquiry' : Inquiry} {listsRows' : Bool}
    (same : SameButLimit first second)
    (asked : Request.ofArguments host.tree first = .ok (.measure inquiry listsRows))
    (asked' : Request.ofArguments host.tree second = .ok (.measure inquiry' listsRows')) :
    LimitApart (run parser host first) (run parser host second) := by
  obtain ⟨changed, rfl⟩ := inquiry_eq_of_sameButLimit same asked asked'
  rw [run_eq_run asked, run_eq_run asked']
  have allowed' := limitAllowed_of_ofArguments asked'
  rw [changed] at allowed' ⊢
  exact limitApart_run (limitAllowed_of_ofArguments asked) allowed'

/-- A limit before all other options changes nothing of what is printed. -/
theorem limitApart_limit {name value : String} {command : Command} {options : List String}
    {given : Arguments} {inquiry' : Inquiry} {listsRows' : Bool} (measures : Measures name command)
    (read : Arguments.read command.switches true options = .ok given)
    (asked : Request.ofArguments host.tree (name :: options) = .ok (.measure inquiry listsRows))
    (asked' : Request.ofArguments host.tree (name :: "--fail-above" :: value :: options)
      = .ok (.measure inquiry' listsRows')) :
    LimitApart (run parser host (name :: options))
      (run parser host (name :: "--fail-above" :: value :: options)) :=
  limitApart_ofArguments (sameButLimit_limit measures read) asked asked'

/-! ### The same arguments under two commands -/

/-- A stop as that of another command. -/
def Stop.under (command : Command) : Stop → Stop
  | .misuse _ reason => .misuse command reason
  | .failure reason => .failure reason

variable {tree : Tree} {command : Command} (other : Command)

theorem formatOf_under (value : String) :
    (Inquiry.formatOf command value).mapError (Stop.under other) = Inquiry.formatOf other value := by
  unfold Inquiry.formatOf
  cases Format.ofName? value <;> rfl

theorem limitOf_under (value : String) :
    (Inquiry.limitOf command value).mapError (Stop.under other) = Inquiry.limitOf other value := by
  unfold Inquiry.limitOf
  cases Literal.read? value with
  | none => rfl
  | some number =>
    simp only
    split <;> rfl

theorem checkFile_under (argument path : String) (required : Bool) :
    (checkFile tree command argument path required).mapError (Stop.under other)
      = checkFile tree other argument path required := by
  unfold checkFile entryAt
  by_cases null : path.toList.contains '\x00' = true
  · rw [if_pos null]
    rfl
  · rw [if_neg null]
    cases (tree.stat path).toOption.map Prod.snd with
    | none => cases required <;> rfl
    | some entry => cases entry <;> rfl

theorem checkRest_under (rest : List String) :
    (checkRest command rest).mapError (Stop.under other) = checkRest other rest := by
  cases rest <;> rfl

/-- An option is put into an inquiry under any command. -/
theorem withGiven_under (inquiry : Inquiry) (entry : Given) :
    (Inquiry.withGiven tree command inquiry entry).mapError (Stop.under other)
      = Inquiry.withGiven tree other inquiry entry := by
  obtain ⟨switch, value⟩ := entry
  cases switch with
  | format =>
    show (Inquiry.formatOf command value >>= _).mapError _ = (Inquiry.formatOf other value >>= _)
    rw [mapError_bind, formatOf_under]
    rfl
  | limit =>
    show (Inquiry.limitOf command value >>= _).mapError _ = (Inquiry.limitOf other value >>= _)
    rw [mapError_bind, limitOf_under]
    rfl
  | settings =>
    show (checkFile tree command _ value true >>= _).mapError _
      = (checkFile tree other _ value true >>= _)
    rw [mapError_bind, checkFile_under]
    rfl
  | _ => rfl

theorem foldlM_under (entries : List Given) (inquiry : Inquiry) :
    (entries.foldlM (Inquiry.withGiven tree command) inquiry).mapError (Stop.under other)
      = entries.foldlM (Inquiry.withGiven tree other) inquiry := by
  induction entries generalizing inquiry with
  | nil => rfl
  | cons entry rest hypothesis =>
    rw [List.foldlM_cons, List.foldlM_cons, mapError_bind, withGiven_under]
    simp only [hypothesis]

/-- Arguments are an inquiry under any command, or are refused for the same reason. -/
theorem inquiryOf_under (given : Arguments) :
    (inquiryOf tree command given).mapError (Stop.under other) = inquiryOf tree other given := by
  unfold inquiryOf
  rw [mapError_bind, foldlM_under]
  refine bind_congr fun inquiry => ?_
  cases given.rest with
  | nil => rfl
  | cons path rest =>
    have ends : (checkRest command rest >>= fun _ => Except.ok { inquiry with path }).mapError
        (Stop.under other) = checkRest other rest >>= fun _ => Except.ok { inquiry with path } := by
      rw [mapError_bind, checkRest_under]
      rfl
    by_cases file : (path != standardInput) = true
    · simp only [if_pos file]
      show (checkFile tree command "PATH" path false >>= fun _ => _).mapError _ = _
      rw [mapError_bind, checkFile_under]
      exact bind_congr fun _ => ends
    · simp only [if_neg file]
      exact ends

/-- What the same arguments ask of the command that counts and of the one that lists. -/
inductive Counterparts : Except Stop Request → Except Stop Request → Prop
  | misuse (command command' : Command) (misuse : Misuse) :
      Counterparts (.error (.misuse command misuse)) (.error (.misuse command' misuse))
  | failure (failure : Failure) :
      Counterparts (.error (.failure failure)) (.error (.failure failure))
  | help (command command' : Command) : Counterparts (.ok (.help command)) (.ok (.help command'))
  | version : Counterparts (.ok .version) (.ok .version)
  | measure (inquiry : Inquiry) :
      Counterparts (.ok (.measure inquiry false)) (.ok (.measure inquiry true))

theorem counterparts_stop (stop : Stop) : Counterparts (.error stop) (.error (stop.under other)) := by
  cases stop with
  | misuse command misuse => exact .misuse command other misuse
  | failure failure => exact .failure failure

/-- Both commands show the same when help or the version is asked for. -/
theorem counterparts_early (given : Arguments) (command command' : Command) :
    (Request.early? command given = none ∧ Request.early? command' given = none)
      ∨ ∃ request request', Request.early? command given = some request
          ∧ Request.early? command' given = some request' ∧ Counterparts (.ok request) (.ok request') := by
  unfold Request.early?
  induction given.given with
  | nil => exact .inl ⟨rfl, rfl⟩
  | cons entry rest hypothesis =>
    obtain ⟨switch, value⟩ := entry
    cases switch with
    | help => exact .inr ⟨_, _, rfl, rfl, .help command command'⟩
    | version => exact .inr ⟨_, _, rfl, rfl, .version⟩
    | _ => exact hypothesis

/-- The two commands read the same options. -/
theorem counterparts_ofCommand (tree : Tree) (options : List String) :
    Counterparts (Request.ofCommand tree .count options) (Request.ofCommand tree .spans options) := by
  cases reads : Arguments.read Command.count.switches true options with
  | error misuse =>
    have reads' : Arguments.read Command.spans.switches true options = .error misuse := reads
    rw [Request.ofCommand, Request.ofCommand, Request.argumentsOf, Request.argumentsOf, reads, reads']
    exact .misuse .count .spans misuse
  | ok given =>
    have reads' : Arguments.read Command.spans.switches true options = .ok given := reads
    rw [ofCommand_eq_elim (by decide) reads, ofCommand_eq_elim (by decide) reads']
    rcases counterparts_early given .count .spans with
      ⟨none, none'⟩ | ⟨request, request', early, early', same⟩
    · have lists : (inquiryOf tree .count given).mapError (Stop.under .spans)
          = inquiryOf tree .spans given := inquiryOf_under .spans given
      rw [none, none', ← lists]
      cases inquiryOf tree .count given with
      | error stop => exact counterparts_stop .spans stop
      | ok inquiry => exact .measure inquiry
    · rw [early, early']
      exact same

/-- The same arguments, with the name of the one command or of the other among them. -/
theorem counterparts {given : Arguments} {leading : List String} (tree : Tree) (options : List String)
    (leads : Arguments.read Command.program.switches false leading = .ok given)
    (bare : given.rest = []) :
    Counterparts (Request.ofArguments tree (leading ++ "count" :: options))
      (Request.ofArguments tree (leading ++ "spans" :: options)) := by
  have counts : Arguments.read Command.program.switches false (leading ++ "count" :: options)
      = .ok { given with rest := "count" :: options } := Arguments.read_unmixed (by decide) leads bare
  have lists : Arguments.read Command.program.switches false (leading ++ "spans" :: options)
      = .ok { given with rest := "spans" :: options } := Arguments.read_unmixed (by decide) leads bare
  have early : Request.early? .program { given with rest := "spans" :: options }
      = Request.early? .program { given with rest := "count" :: options } := rfl
  rw [ofArguments_eq_elim counts rfl (by rfl : Command.ofName? "count" = some .count),
    ofArguments_eq_elim lists rfl (by rfl : Command.ofName? "spans" = some .spans), early]
  rcases counterparts_early { given with rest := "count" :: options } .program .program with
    ⟨none, _⟩ | ⟨request, request', early, early', same⟩
  · rw [none]
    exact counterparts_ofCommand tree options
  · cases early.symm.trans early'
    rw [early]
    exact same

/-! ### What both commands do -/

/-- **The same arguments** end in the same way under both commands, if the output takes help and the rows that are
listed. -/
theorem ending_of_counterparts {first second : List String}
    (helps : ∀ command : Command, ∃ shown, host.Takes command.help shown)
    (same : Counterparts (Request.ofArguments host.tree first) (Request.ofArguments host.tree second))
    (takes : ∀ inquiry settings survey,
      Request.ofArguments host.tree second = .ok (.measure inquiry true) →
      Finds parser host inquiry settings survey →
      ∃ shown, host.Takes (listedRows settings survey.metrics true) shown) :
    (run parser host second).ending = (run parser host first).ending := by
  unfold run
  generalize Request.ofArguments host.tree first = asked at same
  generalize Request.ofArguments host.tree second = asked' at same takes
  cases same with
  | measure inquiry =>
    exact ending_run parser host inquiry fun settings survey => takes inquiry settings survey rfl
  | failure failure => cases failure <;> rfl
  | misuse => rfl
  | help command command' =>
    obtain ⟨_, taken⟩ := helps command
    obtain ⟨_, taken'⟩ := helps command'
    show ((host.put command'.help).2.elim (Ending.exit 0) .failure) = (host.put command.help).2.elim _ _
    rw [taken.put, taken'.put]
  | version => rfl

/-- **The same arguments** that ask to measure are counted and listed. -/
theorem lists_of_counterparts {first second : List String} {settings : Settings} {survey : Survey}
    {percentage : Option Percentage}
    (same : Counterparts (Request.ofArguments host.tree first) (Request.ofArguments host.tree second))
    (asked : Request.ofArguments host.tree first = .ok (.measure inquiry listsRows))
    (finds : Finds parser host inquiry settings survey)
    (computed : survey.metrics.percentage = .ok percentage)
    (shows : host.Shows (listedNames settings survey.metrics true)) :
    Lists settings survey.metrics percentage (run parser host first).output
      (run parser host second).output := by
  rw [run, run]
  rw [asked] at same ⊢
  generalize Request.ofArguments host.tree second = asked' at same
  cases same with
  | measure inquiry => exact lists_of_finds finds computed shows

end UnsafeCensus.Console
