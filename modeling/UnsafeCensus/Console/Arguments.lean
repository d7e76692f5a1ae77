/-
**Reading arguments.**

An argument that begins with a dash and goes on is an option, up to a double dash by itself. An option of
several letters is told by its name, with its value after an equals sign or in the next argument; options
of one letter may stand together after one dash.

* `Found`: what an argument holds;
* `Arguments`: the options in order with their values, and all other arguments;
* `Arguments.read`: the options among some arguments.
-/

import UnsafeCensus.Console.Misuse
import UnsafeCensus.Text.Alike

namespace UnsafeCensus.Console

/-- An option with its value; one that takes none has an empty value. -/
abbrev Given := Switch × String

/-- What an argument holds. -/
inductive Found where
  | complete (given : List Given)
  /-- The value of the last option, told by its name, is the next argument. -/
  | pending (given : List Given) (last : Switch) (name : String)

namespace Found

/-- What is found after one more option. -/
def after (entry : Given) : Found → Found
  | complete given => complete (entry :: given)
  | .pending given last name => .pending (entry :: given) last name

/-- What a name and a value after an equals sign make of an option. -/
def ofSwitch (switch : Switch) (name : String) (value : Option String) : Except Misuse Found :=
  match switch.takesValue, value with
  | true, some value => .ok (complete [(switch, value)])
  | true, none => .ok (.pending [] switch name)
  | false, some _ => .error (.takesNoValue name)
  | false, none => .ok (complete [(switch, "")])

/-- What is found in letters that stand together after a dash. -/
def ofLetters (switches : List Switch) : List Char → Except Misuse Found
  | [] => .ok (complete [])
  | letter :: rest =>
    let name := String.ofList ['-', letter]
    match switches.find? fun switch => switch.letter? == some letter with
    | none => .error (.unknownOption name [])
    | some switch =>
      if switch.takesValue then
        ofSwitch switch name (if rest.isEmpty then none else some (String.ofList rest))
      else (ofLetters switches rest).map (after (switch, ""))

/-- What is found in an argument that begins with a dash. -/
def ofArgument (switches : List Switch) (argument : String) : Except Misuse Found :=
  let letters := argument.toList
  let name := String.ofList (letters.takeWhile (· != '='))
  let value :=
    if letters.contains '=' then some (String.ofList ((letters.dropWhile (· != '=')).drop 1))
    else none
  match switches.find? fun switch => switch.name == name with
  | some switch => ofSwitch switch name value
  | none =>
    if ['-', '-'].isPrefixOf letters then
      .error (.unknownOption name (Alike.closest name (switches.map Switch.name)))
    else ofLetters switches (letters.drop 1)

end Found

/-- The options in order with their values, and all other arguments. -/
structure Arguments where
  given : List Given := []
  rest : List String := []

namespace Arguments

/-- Whether an argument is an option. -/
def isOption (argument : String) : Bool :=
  match argument.toList with
  | '-' :: _ :: _ => true
  | _ => false

/-- Arguments with some options in front. -/
def withGiven (given : List Given) (arguments : Arguments) : Arguments :=
  { arguments with given := given ++ arguments.given }

/-- The options among some arguments. They end at the first other argument, unless they may be mixed
with these. -/
def read (switches : List Switch) (mixed : Bool) : List String → Except Misuse Arguments
  | [] => .ok {}
  | argument :: rest =>
    if argument == "--" then .ok { rest }
    else if isOption argument then
      match Found.ofArgument switches argument with
      | .error misuse => .error misuse
      | .ok (.complete given) => (read switches mixed rest).map (withGiven given)
      | .ok (.pending given last name) =>
        match rest with
        | [] => .error (.needsValue name)
        | value :: rest => (read switches mixed rest).map (withGiven (given ++ [(last, value)]))
    else if mixed then
      (read switches mixed rest).map fun arguments =>
        { arguments with rest := argument :: arguments.rest }
    else .ok { rest := argument :: rest }

/-- Each option once, where it was first given and with the value it was last given. -/
def settled (arguments : Arguments) : List Given :=
  arguments.given.foldl (fun done entry =>
    if done.any fun earlier => earlier.1 == entry.1 then
      done.map fun earlier => if earlier.1 == entry.1 then entry else earlier
    else done ++ [entry]) []

/-- Whether an option is given. -/
def has (arguments : Arguments) (switch : Switch) : Bool :=
  arguments.given.any fun entry => entry.1 == switch

end Arguments

end UnsafeCensus.Console
