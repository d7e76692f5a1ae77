/-
**Diagnostics.**

A diagnostic tells a user what went wrong, how bad it is, where it happened and what can be done about it.

* `Family`: the four kinds of diagnostics and the general one, with what each says by itself;
* `Code`: the numbers of the conditions;
* `Diagnostic`: a diagnostic with its context and its suggested actions;
* `of`, `outsideMap`: a diagnostic of a family, and one of an offset that no file holds;
* `formatted`: the text shown to a user.
-/

import UnsafeCensus.Json.Value

namespace UnsafeCensus

/-- How bad a condition is. -/
structure Severity where
  label : String
  deriving DecidableEq, Repr

namespace Severity

def medium : Severity := ⟨"medium"⟩

def high : Severity := ⟨"high"⟩

def critical : Severity := ⟨"critical"⟩

end Severity

/-- The condition that a diagnostic tells of. -/
inductive Code where
  | fileNotFound
  | fileReadFailed
  | fileTooLarge
  | moduleNotFound
  | parseFailed
  | parserUnavailable
  | moduleCycle
  | positionUnresolved
  | invalidSettings
  | settingsRefused
  deriving DecidableEq, Repr

namespace Code

/-- Every condition. -/
def all : List Code :=
  [fileNotFound, fileReadFailed, fileTooLarge, moduleNotFound, parseFailed, parserUnavailable,
   moduleCycle, positionUnresolved, invalidSettings, settingsRefused]

/-- The number of a condition: 2000 for files, 3000 for sources, 4000 for settings. -/
def number : Code → Nat
  | fileNotFound => 2001
  | fileReadFailed => 2002
  | fileTooLarge => 2003
  | moduleNotFound => 2004
  | parseFailed => 3002
  | parserUnavailable => 3003
  | moduleCycle => 3004
  | positionUnresolved => 3005
  | invalidSettings => 4001
  | settingsRefused => 4003

/-- The condition of a number. -/
def ofNumber? (number : Int) : Option Code :=
  all.find? fun code => (code.number : Int) == number

/-- A condition is found by its number. -/
theorem ofNumber?_number (code : Code) : ofNumber? code.number = some code := by
  cases code <;> rfl

end Code

/-- What a diagnostic is about. -/
inductive Family where
  | general
  | source
  | resolution
  | resource
  | settings
  deriving DecidableEq, Repr

namespace Family

/-- The condition of a family unless another is given. -/
def code : Family → Code
  | general | source => .parseFailed
  | resolution => .positionUnresolved
  | resource => .fileNotFound
  | settings => .invalidSettings

/-- What a family tells a user unless other words are given. -/
def userMessage : Family → String
  | general => ""
  | source => "Source could not be parsed."
  | resolution => "Internal error: source position could not be resolved."
  | resource => "Source file could not be read."
  | settings => "Configuration error occurred."

/-- How bad the conditions of a family are. -/
def severity : Family → Severity
  | general | resource => .medium
  | source | settings => .high
  | resolution => .critical

end Family

/-- Where a condition arose. -/
structure Context where
  operation : Option String := none
  file : Option String := none
  component : Option String := none
  /-- Further facts by name, in the order in which they are told. -/
  facts : List (Json.Text × Json.Value) := []

/-- Something that a user can do. -/
structure Action where
  description : String
  command : Option String := none
  deriving DecidableEq, Repr

/-- What went wrong, for a user. -/
structure Diagnostic where
  family : Family
  code : Code
  message : String
  userMessage : String
  severity : Severity
  context : Context := {}
  actions : List Action := []
  /-- The text of the condition that led to this one. -/
  cause : Option String := none

namespace Diagnostic

/-- A diagnostic of a family, with the family's own words when none are given. -/
def of (family : Family) (message : String) (userMessage : String) (code : Code)
    (context : Context) (actions : List Action) (cause : Option String) : Diagnostic where
  family := family
  code := code
  message := message
  userMessage := if userMessage.isEmpty then family.userMessage else userMessage
  severity := family.severity
  context := context
  actions := actions
  cause := cause

/-- The context of an offset that no file holds: the offset is added to the facts unless they tell one
already. -/
def offsetContext (context : Option Context) (offset : Int) : Context :=
  let context := context.getD { component := some "source_map" }
  if (Json.get? context.facts "offset").isSome then context
  else
    { context with facts := context.facts ++ [Json.member "offset" (.integer offset)] }

/-- A diagnostic of an offset that no file holds. -/
def outsideMap (message : String) (offset : Int) (context : Option Context) : Diagnostic :=
  of .resolution message "" .positionUnresolved (offsetContext context offset) [] none

/-- A line of a label and a text, unless there is no text. -/
def labelled (label : String) : Option String → List String
  | some text => if text.isEmpty then [] else ["   " ++ label ++ ": " ++ text]
  | none => []

/-- The lines of an action with its number. -/
def actionLines (number : Nat) (action : Action) : List String :=
  ("   " ++ toString number ++ ". " ++ action.description)
    :: match action.command with
      | some command => if command.isEmpty then [] else ["      Run: " ++ command]
      | none => []

/-- The lines of actions, numbered from a number on. -/
def actionsFrom (number : Nat) : List Action → List String
  | [] => []
  | action :: rest => actionLines number action ++ actionsFrom (number + 1) rest

/-- The text shown to a user. -/
def formatted (diagnostic : Diagnostic) : String :=
  let heading :=
    ["[Error] " ++ diagnostic.userMessage,
     "   Code: " ++ toString diagnostic.code.number,
     "   Detail: " ++ diagnostic.message]
  let place :=
    labelled "Operation" diagnostic.context.operation
      ++ labelled "File" diagnostic.context.file
      ++ labelled "Component" diagnostic.context.component
  let suggestions :=
    if diagnostic.actions.isEmpty then []
    else "" :: "Suggested actions:" :: actionsFrom 1 diagnostic.actions
  "\n".intercalate (heading ++ place ++ suggestions)

end Diagnostic

end UnsafeCensus
