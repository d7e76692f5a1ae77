/-
**What the program does.**

A run prints lines, tells messages beside them, and ends with a number or by a failure that is no diagnostic.

* `Host`: what a run finds: a tree of files, its standard input, the variable that names a format, how deep
  a document may be nested, and what lines come to where they are written;
* `Host.put`: the lines of the output, up to the first one that it does not take;
* `Host.told`: the messages beside it;
* `Behaviour`: what a run does;
* `Inquiry.settings`: the settings of a run: what the arguments say, or else the variable, or else the
  settings file, or else the defaults;
* `Inquiry.run`, `initialise`: measuring a crate, and writing default settings;
* `run`: the behaviour for some arguments.
-/

import UnsafeCensus.Census.Gate
import UnsafeCensus.Census.Survey
import UnsafeCensus.Console.Request
import UnsafeCensus.Settings.Store
import UnsafeCensus.Text.Controls

namespace UnsafeCensus.Console

open Census Crate

/-- What a run finds. -/
structure Host where
  tree : Files.Tree
  input : ByteArray := .empty
  /-- The value of the variable that names a format. -/
  format : Option String := none
  /-- In how many others a list or an object of a settings file may stand; in any number unless it is said. -/
  nesting : Option Nat := none
  /-- What a line comes to on the output, which is no terminal unless it is said; it fails for a line that the
  output does not take, such as one with a letter that its encoding lacks. -/
  echo : String → Except Failure String := fun line => .ok (Controls.without line)
  /-- What a line comes to beside the output, where every line is taken. -/
  tell : String → String := Controls.without

/-- The lines that are put out one after another, up to the first one that the output does not take, and the
failure of that one. -/
def Host.put (host : Host) : List String → List String × Option Failure
  | [] => ([], none)
  | line :: rest =>
    match host.echo line with
    | .error failure => ([], some failure)
    | .ok shown => ((shown :: (host.put rest).1), (host.put rest).2)

/-- What is told beside the output. -/
inductive Message where
  | warning (warning : Warning)
  | diagnostic (diagnostic : Diagnostic)
  | line (text : String)

/-- A message as it is told. Warnings have their own way and are written as they are. -/
def Host.told (host : Host) : Message → String
  | .warning met => "WARNING: " ++ met.message
  | .diagnostic found => host.tell found.formatted
  | .line text => host.tell text

/-- How a run ends. -/
inductive Ending where
  | exit (status : Nat)
  | failure (failure : Failure)

/-- The number that a run ends with. -/
def Ending.status : Ending → Nat
  | exit status => status
  | failure _ => 1

/-- What a run does. -/
structure Behaviour where
  /-- The lines of the output. -/
  output : List String := []
  messages : List Message := []
  ending : Ending := .exit 0
  /-- The tree of files afterwards. -/
  tree : Files.Tree

namespace Behaviour

/-- A run that ends by a failure; one with a diagnostic tells it. -/
def failing (tree : Files.Tree) (warnings : List Warning) : Failure → Behaviour
  | .diagnosed diagnostic =>
    { messages := warnings.map .warning ++ [.diagnostic diagnostic], ending := .exit 1, tree }
  | failure => { messages := warnings.map .warning, ending := .failure failure, tree }

/-- A run that only puts out some lines. -/
def showing (host : Host) (tree : Files.Tree) (lines : List String) : Behaviour where
  output := (host.put lines).1
  ending := (host.put lines).2.elim (.exit 0) .failure
  tree := tree

/-- A run that ends by a misuse. -/
def misused (tree : Files.Tree) (command : Command) (misuse : Misuse) : Behaviour where
  messages := (misuse.lines command).map .line
  ending := .exit 2
  tree := tree

end Behaviour

namespace Inquiry

/-- What an inquiry says of the settings, with null for what it leaves open. -/
def members (inquiry : Inquiry) : List (Json.Text × Json.Value) :=
  [Json.member "report_format"
     ((inquiry.format.map fun format => .ofString format.name).getD .null),
   Json.member "json_output" (if inquiry.document then .boolean true else .null),
   Json.member "follow_modules" (if inquiry.alone then .boolean false else .null),
   Json.member "fail_above" ((inquiry.limit.map Json.Value.real).getD .null)]

/-- Where the search for a settings file starts; there is none for the standard input. -/
def start (inquiry : Inquiry) : Option Files.Path :=
  if inquiry.path = standardInput then none else some (Files.Path.ofText inquiry.path).parent

/-- The settings of a run. -/
def settings (host : Host) (inquiry : Inquiry) : Attempt Settings := do
  let settings ←
    Settings.load host.nesting host.tree inquiry.start (inquiry.settingsFile.map Files.Path.ofText)
      host.format
  settings.withOverrides inquiry.members

/-- The name of the standard input among the files of a crate. -/
def inputName : String := "<stdin>"

/-- The survey of what an inquiry asks about. -/
def survey (parser : Parser) (host : Host) (settings : Settings) (inquiry : Inquiry) :
    Except Failure Survey := do
  if inquiry.path = standardInput then
    let letters ← Settings.characters host.input
    Survey.ofSource parser inputName (.ofLetters letters)
  else Survey.ofFile parser host.tree settings.followModules (.ofText inquiry.path)

/-- The settings of a run and the metrics it finds. -/
def measure (parser : Parser) (host : Host) (inquiry : Inquiry) : Attempt (Settings × Metrics) := do
  let settings ← inquiry.settings host
  let survey ← inquiry.survey parser host settings
  return (settings, survey.metrics)

end Inquiry

/-- The report of some metrics. -/
def reportOf (settings : Settings) (metrics : Metrics) : Attempt String :=
  if settings.document then .ofExcept metrics.document else Census.report metrics settings.format

/-- What is told of a crate that is held back. -/
def gateMessage? (settings : Settings) (metrics : Metrics) : Attempt (Option String) := do
  if ← exceeds metrics (settings.failAbove.map .real) then
    match ← metrics.percentage, settings.failAbove with
    | some percentage, some limit => return some (gateText percentage.real limit)
    | _, _ => return none
  else return none

/-- The rows that are listed before a report. -/
def listedRows (settings : Settings) (metrics : Metrics) (listsRows : Bool) : List String :=
  if listsRows && !settings.document then metrics.rows.map Row.text else []

/-- A run that has found its metrics, after some warnings. A line that the output does not take ends it. -/
def present (host : Host) (warnings : List Warning) (settings : Settings) (metrics : Metrics)
    (listsRows : Bool) : Behaviour :=
  match host.put (listedRows settings metrics listsRows) with
  | (rows, some failure) =>
    { output := rows, messages := warnings.map .warning, ending := .failure failure, tree := host.tree }
  | (rows, none) =>
    let report := reportOf settings metrics
    let warned := (warnings ++ report.warnings).map .warning
    match report.result >>= host.echo with
    | .error failure =>
      { output := rows, messages := warned, ending := .failure failure, tree := host.tree }
    | .ok text =>
      let output := rows ++ [text]
      let gate := gateMessage? settings metrics
      let warned := warned ++ gate.warnings.map .warning
      match gate.result with
      | .error failure => { output, messages := warned, ending := .failure failure, tree := host.tree }
      | .ok none => { output, messages := warned, tree := host.tree }
      | .ok (some text) =>
        { output, messages := warned ++ [.line text], ending := .exit 3, tree := host.tree }

/-- Measuring a crate. -/
def Inquiry.run (parser : Parser) (host : Host) (inquiry : Inquiry) (listsRows : Bool) : Behaviour :=
  let found := inquiry.measure parser host
  match found.result with
  | .error failure => .failing host.tree found.warnings failure
  | .ok (settings, metrics) => present host found.warnings settings metrics listsRows

/-- Writing default settings into a directory. -/
def initialise (host : Host) (directory : String) (force : Bool) : Behaviour :=
  match Settings.initialise host.tree (.ofText directory) force with
  | (made, .error failure) => .failing made [] failure
  | (written, .ok path) => .showing host written ["Configuration initialized at " ++ path.text]

/-- The behaviour for some arguments. -/
def run (parser : Parser) (host : Host) (arguments : List String) : Behaviour :=
  match Request.ofArguments host.tree arguments with
  | .error (.misuse command misuse) => .misused host.tree command misuse
  | .error (.failure failure) => .failing host.tree [] failure
  | .ok (.help command) => .showing host host.tree command.help
  | .ok .version => .showing host host.tree [Command.versionText]
  | .ok (.measure inquiry listsRows) => inquiry.run parser host listsRows
  | .ok (.initialise directory force) => initialise host directory force

end UnsafeCensus.Console
