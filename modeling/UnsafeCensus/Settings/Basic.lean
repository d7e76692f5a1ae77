/-
**Settings.**

The settings say what a report tells, whether modules in other files are followed, above which percentage
a unit is held back and whether the report is a document. They are read from the members of an object; a
member that does not exist is told of and left out.

* `Settings`: the settings, and what they are by default;
* `formatOf`, `switchOf`, `limitOf`: the value of each kind of member;
* `Settings.checked`: settings with some members in place of theirs;
* `Settings.ofMembers`, `Settings.withOverrides`: the settings of an object, and further ones over them.
-/

import UnsafeCensus.Census.Report

namespace UnsafeCensus

open Census

/-- What can be chosen of a run. -/
structure Settings where
  format : Format := .automatic
  followModules : Bool := true
  /-- The percentage above which a unit is held back. -/
  failAbove : Option Binary64 := none
  document : Bool := false
  deriving DecidableEq, Repr

namespace Settings

/-- The names of the members. -/
def names : List String :=
  ["report_format", "follow_modules", "fail_above", "json_output"]

/-- The failure of settings from some source. -/
def refused (source : Option String) (message : String) : Failure :=
  .diagnosed (.of .settings message ("Invalid configuration: " ++ message) .settingsRefused
    { operation := some "load_config", file := source } [] none)

/-- The format that a value names. -/
def formatOf (source : Option String) (value : Json.Value) : Except Failure Format :=
  let named := match value with
    | .text points => Format.ofName? (Json.Text.toString points)
    | _ => none
  match named with
  | some format => .ok format
  | none =>
    .error (refused source ("report_format must be one of "
      ++ ", ".intercalate (Format.all.map Format.name) ++ ", got " ++ value.shown))

/-- The switch that a value stands for. -/
def switchOf (source : Option String) (name : String) : Json.Value → Except Failure Bool
  | .boolean value => .ok value
  | _ => .error (refused source (name ++ " must be true or false"))

/-- An integer as a number of 64 bits. -/
def integerLimit (value : Int) : Except Failure Binary64 :=
  match Binary64.ofInt value with
  | .infinite _ => .error .integerOverflow
  | limit => .ok limit

/-- The limit that a value stands for. -/
def limitOf (source : Option String) : Json.Value → Except Failure (Option Binary64)
  | .null => .ok none
  | .integer value =>
    if value < 0 then .error (refused source "fail_above must be non-negative")
    else (integerLimit value).map some
  | .real value =>
    if (Amount.real value).below (.whole 0) then
      .error (refused source "fail_above must be non-negative")
    else .ok (some value)
  | _ => .error (refused source "fail_above must be a number")

/-- What is read from the member of a name, or what was there before. -/
def memberOr {α : Type} (members : List (Json.Text × Json.Value)) (name : String)
    (read : Json.Value → Except Failure α) (present : α) : Except Failure α :=
  match Json.get? members name with
  | some value => read value
  | none => .ok present

/-- The settings with some members in place of theirs. -/
def checked (settings : Settings) (source : Option String)
    (members : List (Json.Text × Json.Value)) : Except Failure Settings := do
  let format ← memberOr members "report_format" (formatOf source) settings.format
  let follow ←
    memberOr members "follow_modules" (switchOf source "follow_modules") settings.followModules
  let document ←
    memberOr members "json_output" (switchOf source "json_output") settings.document
  let limit ← memberOr members "fail_above" (limitOf source) settings.failAbove
  return ⟨format, follow, limit, document⟩

/-- The names of members that do not exist. -/
def unknownNames (members : List (Json.Text × Json.Value)) : List Json.Text :=
  (members.map Prod.fst).filter fun name => !(names.map Json.Text.ofString).contains name

/-- The settings of the members of an object. -/
def ofMembers (members : List (Json.Text × Json.Value)) (source : Option String) :
    Attempt Settings := do
  let unknown := (unknownNames members).mergeSort Json.Text.notAfter
  if !unknown.isEmpty then
    Attempt.warn (.unknownSettings source (unknown.map Json.Text.toString))
  ({} : Settings).checked source members

/-- Whether a value is given. -/
def isGiven : Json.Value → Bool
  | .null => false
  | _ => true

/-- The settings with further ones over them, if any is given. -/
def withOverrides? (settings : Settings) (members : List (Json.Text × Json.Value)) :
    Except Failure (Option Settings) :=
  let given := members.filter fun entry => isGiven entry.2
  if given.isEmpty then .ok none
  else match unknownNames given with
    | name :: _ => .error (.unknownSetting (Json.Text.toString name))
    | [] => (settings.checked (some "command line") given).map some

/-- The settings with further ones over them. -/
def withOverrides (settings : Settings) (members : List (Json.Text × Json.Value)) :
    Except Failure Settings :=
  (settings.withOverrides? members).map fun changed => changed.getD settings

/-- The settings as an object. -/
def value (settings : Settings) : Json.Value :=
  .object
    [Json.member "report_format" (.ofString settings.format.name),
     Json.member "follow_modules" (.boolean settings.followModules),
     Json.member "fail_above" ((settings.failAbove.map Json.Value.real).getD .null),
     Json.member "json_output" (.boolean settings.document)]

end Settings

end UnsafeCensus
