/-
**Requests.**

The arguments of the program are read into a request, or the reading stops: by a misuse, or by a path that
the system does not take.

* `Inquiry`: a crate to be measured, and how;
* `Request`: what the program is asked for;
* `Request.ofArguments`: the request of some arguments. Help and the version come before everything else
  that is well formed; then the values are checked in the order in which their options were given, then
  the path, and last whether there are further arguments.
-/

import UnsafeCensus.Census.Report
import UnsafeCensus.Console.Arguments
import UnsafeCensus.Files.Tree
import UnsafeCensus.Number.Literal

namespace UnsafeCensus.Console

open Files

/-- A crate to be measured, and how; what is not said is left to the settings. -/
structure Inquiry where
  path : String := ""
  format : Option Census.Format := none
  document : Bool := false
  /-- Modules in other files are left out. -/
  alone : Bool := false
  limit : Option Binary64 := none
  settingsFile : Option String := none
  deriving DecidableEq, Repr

/-- What the program is asked for. -/
inductive Request where
  | help (command : Command)
  | version
  | measure (inquiry : Inquiry) (listsRows : Bool)
  | initialise (directory : String) (force : Bool)
  deriving DecidableEq, Repr

/-- Why there is no request. -/
inductive Stop where
  | misuse (command : Command) (misuse : Misuse)
  | failure (failure : Failure)

/-- The path that stands for the standard input. -/
def standardInput : String := "-"

/-- Refuses a value of an argument. -/
def refuse {α : Type} (command : Command) (argument value : String) (refusal : Refusal) :
    Except Stop α :=
  .error (.misuse command (.refusedValue argument value refusal))

/-- What stands at a path, if anything does. -/
def entryAt (tree : Tree) (path : String) : Except Stop (Option Entry) :=
  if path.toList.contains '\x00' then .error (.failure (.broken (.noNull (some "stat"))))
  else .ok ((tree.stat path).toOption.map Prod.snd)

/-- Refuses a path to a directory where a file is meant. -/
def checkFile (tree : Tree) (command : Command) (argument path : String) (required : Bool) :
    Except Stop Unit := do
  match ← entryAt tree path with
  | some .directory => refuse command argument path .directoryForFile
  | some _ => return ()
  | none => if required then refuse command argument path .absentFile

/-- Refuses a path to a file where a directory is meant. -/
def checkDirectory (tree : Tree) (command : Command) (argument path : String) :
    Except Stop Unit := do
  if let some (.file _) ← entryAt tree path then
    refuse command argument path .fileForDirectory

namespace Inquiry

/-- The format that a value names. -/
def formatOf (command : Command) (value : String) : Except Stop Census.Format :=
  match Census.Format.ofName? value with
  | some format => .ok format
  | none =>
    refuse command Switch.format.name value (.notOneOf (Census.Format.all.map Census.Format.name))

/-- The limit that a value stands for, which is not below zero. -/
def limitOf (command : Command) (value : String) : Except Stop Binary64 :=
  match Literal.read? value with
  | none => refuse command Switch.limit.name value .notNumber
  | some number =>
    if (Amount.real number).below (.whole 0) then
      refuse command Switch.limit.name value (.belowZero number)
    else .ok number

/-- The inquiry with an option. -/
def withGiven (tree : Tree) (command : Command) (inquiry : Inquiry) (entry : Given) :
    Except Stop Inquiry := do
  let (switch, value) := entry
  match switch with
  | .format => return { inquiry with format := some (← formatOf command value) }
  | .document => return { inquiry with document := true }
  | .alone => return { inquiry with alone := true }
  | .limit => return { inquiry with limit := some (← limitOf command value) }
  | .settings =>
    checkFile tree command switch.name value true
    return { inquiry with settingsFile := some value }
  | _ => return inquiry

end Inquiry

/-- Refuses arguments after all those that are asked for. -/
def checkRest (command : Command) (rest : List String) : Except Stop Unit :=
  if rest.isEmpty then .ok () else .error (.misuse command (.extraArguments rest))

/-- The inquiry of the arguments of a command. -/
def inquiryOf (tree : Tree) (command : Command) (arguments : Arguments) : Except Stop Inquiry := do
  let inquiry ← arguments.settled.foldlM (Inquiry.withGiven tree command) {}
  match arguments.rest with
  | [] => throw (.misuse command (.missingArgument "PATH"))
  | path :: rest =>
    if path != standardInput then checkFile tree command "PATH" path false
    checkRest command rest
    return { inquiry with path }

/-- The directory in the arguments of a command, or the working directory. -/
def directoryOf (tree : Tree) (command : Command) (arguments : Arguments) : Except Stop String := do
  let path := arguments.rest.headD "."
  checkDirectory tree command "[DIRECTORY]" path
  checkRest command (arguments.rest.drop 1)
  return path

namespace Request

/-- The arguments of a command. -/
def argumentsOf (command : Command) (mixed : Bool) (arguments : List String) :
    Except Stop Arguments :=
  (Arguments.read command.switches mixed arguments).mapError (.misuse command)

/-- Help or the version, whichever is asked for first. -/
def early? (command : Command) (arguments : Arguments) : Option Request :=
  arguments.given.findSome? fun (switch, _) =>
    match switch with
    | .help => some (help command)
    | .version => some version
    | _ => none

/-- The request of the arguments of a command. -/
def ofCommand (tree : Tree) (command : Command) (arguments : List String) : Except Stop Request := do
  let arguments ← argumentsOf command true arguments
  match early? command arguments with
  | some request => return request
  | none =>
    if command = .initialise then
      return .initialise (← directoryOf tree command arguments) (arguments.has .force)
    else return measure (← inquiryOf tree command arguments) (command = .spans)

/-- The request when there is no command of a name; a name that looks like an option is read as one. -/
def withoutCommand (name : String) (arguments : List String) : Except Stop Request := do
  if name.toList.head? == some '-' then
    let again ← argumentsOf .program false arguments
    if let some request := early? .program again then return request
  throw (.misuse .program
    (.unknownCommand name (Alike.closest name (Command.named.map Prod.fst))))

/-- The request of the arguments of the program. -/
def ofArguments (tree : Tree) (arguments : List String) : Except Stop Request := do
  let own ← argumentsOf .program false arguments
  match early? .program own, own.rest with
  | some request, _ => return request
  | none, [] => return help .program
  | none, name :: rest =>
    match Command.ofName? name with
    | some command => ofCommand tree command rest
    | none => withoutCommand name own.rest

end Request

end UnsafeCensus.Console
