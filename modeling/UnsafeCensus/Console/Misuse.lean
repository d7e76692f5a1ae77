/-
**Misuse of the command line.**

* `Refusal`: why the value of an argument is refused;
* `Misuse`: what can be wrong with arguments;
* `Misuse.lines`: what is told of it.
-/

import UnsafeCensus.Console.Command
import UnsafeCensus.Number.Shortest
import UnsafeCensus.Text.Quoted

namespace UnsafeCensus.Console

/-- Why a value is refused. -/
inductive Refusal where
  | notOneOf (choices : List String)
  | notNumber
  | belowZero (number : Binary64)
  | absentFile
  | directoryForFile
  | fileForDirectory
  deriving DecidableEq, Repr

/-- Why a value is refused, in words. -/
def Refusal.message (value : String) : Refusal → String
  | notOneOf choices =>
    Quoted.quoted value ++ " is not one of " ++ ", ".intercalate (choices.map Quoted.quoted) ++ "."
  | notNumber => Quoted.quoted value ++ " is not a valid float range."
  | belowZero number => number.text ++ " is not in the range x>=0."
  | absentFile => "File " ++ Quoted.quoted value ++ " does not exist."
  | directoryForFile => "File " ++ Quoted.quoted value ++ " is a directory."
  | fileForDirectory => "Directory " ++ Quoted.quoted value ++ " is a file."

/-- What can be wrong with arguments. -/
inductive Misuse where
  /-- There is no option of a name, but some of alike names. -/
  | unknownOption (name : String) (alike : List String)
  | needsValue (name : String)
  | takesNoValue (name : String)
  | unknownCommand (name : String) (alike : List String)
  | missingArgument (name : String)
  | extraArguments (arguments : List String)
  | refusedValue (argument value : String) (refusal : Refusal)
  deriving DecidableEq, Repr

namespace Misuse

/-- The question whether something of an alike name was meant. -/
def question (alike : List String) : String :=
  match alike with
  | [] => ""
  | [name] => " Did you mean " ++ Quoted.quoted name ++ "?"
  | names => " (Did you mean one of: " ++ ", ".intercalate (names.map Quoted.quoted) ++ "?)"

/-- What is wrong, in words. -/
def message : Misuse → String
  | unknownOption name alike => "No such option " ++ Quoted.quoted name ++ "." ++ question alike
  | needsValue name => "Option " ++ Quoted.quoted name ++ " requires an argument."
  | takesNoValue name => "Option " ++ Quoted.quoted name ++ " does not take a value."
  | unknownCommand name alike => "No such command " ++ Quoted.quoted name ++ "." ++ question alike
  | missingArgument name => "Missing argument '" ++ name ++ "'."
  | extraArguments arguments =>
    "Got unexpected extra argument" ++ (if arguments.length = 1 then "" else "s") ++ " ("
      ++ " ".intercalate arguments ++ ")"
  | refusedValue argument value refusal =>
    "Invalid value for '" ++ argument ++ "': " ++ refusal.message value

/-- Whether the command is recalled; it is not where the shape of an option alone is wrong. -/
def recallsUsage : Misuse → Bool
  | needsValue _ | takesNoValue _ => false
  | _ => true

/-- What is told of a misuse. -/
def lines (command : Command) (misuse : Misuse) : List String :=
  let recalled :=
    if misuse.recallsUsage then
      [command.usage, "Try '" ++ command.call ++ " --help' for help.", ""]
    else []
  recalled ++ ["Error: " ++ misuse.message]

end Misuse

end UnsafeCensus.Console
