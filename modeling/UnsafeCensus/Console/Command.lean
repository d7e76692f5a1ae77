/-
**Commands.**

The program counts the lines of a crate, lists its regions, or puts default settings into a directory.

* `Command`: the program itself and what it can be asked to do;
* `Switch`: the options, by what they ask for;
* `Command.switches`: the options that a command takes;
* `Command.usage`, `Command.help`: how a command is called, and all that is told about it.
-/

namespace UnsafeCensus.Console

/-- The program itself and what it can be asked to do. -/
inductive Command where
  | program
  | count
  | spans
  | initialise
  deriving DecidableEq, Repr

/-- What an option asks for. -/
inductive Switch where
  | help
  | version
  | verbose
  /-- What the report tells. -/
  | format
  /-- A report as a document. -/
  | document
  /-- Modules in other files are left out. -/
  | alone
  /-- The percentage above which a crate is held back. -/
  | limit
  /-- The file with the settings. -/
  | settings
  /-- A file that is there is written over. -/
  | force
  deriving DecidableEq, Repr

namespace Switch

/-- The name of an option. -/
def name : Switch → String
  | help => "--help"
  | version => "--version"
  | verbose => "--verbose"
  | format => "--format"
  | document => "--json"
  | alone => "--no-follow-modules"
  | limit => "--fail-above"
  | settings => "--config"
  | force => "--force"

/-- The name of one letter of an option that has one. -/
def letter? : Switch → Option Char
  | verbose => some 'v'
  | _ => none

/-- Whether a value follows an option. -/
def takesValue : Switch → Bool
  | format | limit | settings => true
  | _ => false

end Switch

namespace Command

/-- The commands by their names. -/
def named : List (String × Command) :=
  [("count", count), ("init", initialise), ("spans", spans)]

/-- The command of a name. -/
def ofName? (name : String) : Option Command :=
  (named.find? fun entry => entry.1 == name).map Prod.snd

/-- How a command is called without its arguments. -/
def call : Command → String
  | program => "unsafe-lines"
  | count => "unsafe-lines count"
  | spans => "unsafe-lines spans"
  | initialise => "unsafe-lines init"

/-- The options that a command takes. -/
def switches : Command → List Switch
  | program => [.version, .verbose, .help]
  | count | spans => [.format, .document, .alone, .limit, .settings, .help]
  | initialise => [.force, .help]

/-- How a command is called. -/
def usage (command : Command) : String :=
  let arguments := match command with
    | program => "[COMMAND] [ARGS]..."
    | count | spans => "PATH"
    | initialise => "[DIRECTORY]"
  "Usage: " ++ command.call ++ " [OPTIONS] " ++ arguments

/-- What a command does, in paragraphs of lines. -/
def description : Command → List (List String)
  | program =>
    [["unsafe-lines - Measure how much of a Rust crate is unsafe code."],
     ["Counts the lines covered by unsafe functions, traits, impls and blocks in one",
      "compilation unit and reports them against the unit's total."]]
  | count => [["Report unsafe lines for the crate rooted at PATH ('-' reads stdin)."]]
  | spans => [["List every unsafe region in PATH, then the report line."]]
  | initialise => [["Write a default .unsafe-lines.json into DIRECTORY."]]

/-- An option as it is shown and the lines about it. -/
def switchHelp : Switch → String × List String
  | .help => ("--help", ["Show this message and exit."])
  | .version => ("--version", ["Show the version and exit."])
  | .verbose => ("-v, --verbose", ["Enable debug logging on stderr."])
  | .format =>
    ("--format [count|percentage|auto]", ["Report shape (default: auto, from config)."])
  | .document => ("--json", ["Emit a JSON report."])
  | .alone =>
    ("--no-follow-modules", ["Do not parse out-of-line `mod foo;` files into", "the unit."])
  | .limit =>
    ("--fail-above FLOAT RANGE",
      ["Exit with status 3 when the unsafe percentage", "exceeds this value.  [x>=0]"])
  | .settings =>
    ("--config FILE", ["Configuration file (default: nearest .unsafe-", "lines.json)."])
  | .force => ("--force", ["Overwrite an existing configuration file."])

/-- The most letters of a term beside the lines about it. -/
def widestTerm : Nat := 30

/-- Some blanks. -/
def blanks (count : Nat) : String :=
  String.ofList (List.replicate count ' ')

/-- The lines of a term beside the lines about it, or above them when the term is too long. -/
def termLines (width : Nat) (entry : String × List String) : List String :=
  let (term, lines) := entry
  let indent := blanks (width + 4)
  if term.length ≤ width then
    let first := "  " ++ term ++ blanks (width - term.length) ++ "  " ++ lines.headD ""
    first :: (lines.drop 1).map (indent ++ ·)
  else ("  " ++ term) :: lines.map (indent ++ ·)

/-- The lines of a section of terms. -/
def termSection (title : String) (entries : List (String × List String)) : List String :=
  let width := min widestTerm ((entries.map fun entry => entry.1.length).foldl max 0)
  "" :: (title ++ ":") :: entries.flatMap (termLines width)

/-- All that is told about a command. -/
def help (command : Command) : List String :=
  let paragraphs := command.description.flatMap fun lines => "" :: lines.map ("  " ++ ·)
  let commands :=
    if command = program then
      termSection "Commands" (named.map fun (name, entry) => (name, entry.description.flatten))
    else []
  command.usage :: paragraphs ++ termSection "Options" (command.switches.map switchHelp) ++ commands

/-- The version of the program. -/
def versionText : String :=
  program.call ++ " v0.1.0"

end Command

end UnsafeCensus.Console
