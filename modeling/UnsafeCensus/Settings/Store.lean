/-
**Settings in files.**

Settings are kept in a file of a fixed name. The nearest one counts: that of the directory where a search
starts, or of the deepest directory above it. A variable of the environment may name another format.

A document in a settings file may be nested without a bound, or a list or an object in it may stand in no
more others than `nesting` says.

* `find`: the nearest settings file;
* `readSettings`: the settings in a file;
* `load`: the settings of a run before its command line;
* `initialise`: a file with the default settings.
-/

import UnsafeCensus.Files.Tree
import UnsafeCensus.Settings.Basic

namespace UnsafeCensus.Settings

open Files

/-- The name of a settings file. -/
def fileName : String := ".unsafe-lines.json"

/-- The variable that names a format. -/
def formatVariable : String := "UNSAFE_LINES_FORMAT"

/-- The failure of a file operation at a path. -/
def ofTrouble {α : Type} (path : String) (result : Except FileTrouble α) : Except Failure α :=
  result.mapError fun trouble => .file trouble path

/-- Refuses a text that has a character of value zero. -/
def withoutNull (operation : Option String) (text : String) : Except Failure Unit :=
  if text.toList.contains '\x00' then .error (.broken (.noNull operation)) else .ok ()

/-- A directory and the directories above it, the deepest first. -/
def upwards : Place → List Place
  | place => (List.range (place.length + 1)).map fun count => place.take (place.length - count)

/-- The path of a place. -/
def pathOf (place : Place) : Path :=
  ⟨.root, place⟩

/-- The first settings file in some directories. -/
def firstIn (tree : Tree) : List Place → Except Failure (Option Path)
  | [] => .ok none
  | place :: rest => do
    let candidate := (pathOf place).joinText fileName
    if ← ofTrouble candidate.text (tree.isFile candidate.text) then return some candidate
    else firstIn tree rest

/-- The nearest settings file, from a file or a directory upwards. -/
def find (tree : Tree) (start : Path) : Except Failure (Option Path) := do
  withoutNull (some "lstat") start.text
  let place := start.absolute tree.working
  let text := (pathOf place).text
  let isDirectory ← ofTrouble text (tree.isDirectory text)
  firstIn tree (upwards (if isDirectory then place else place.dropLast))

/-- Each line end as a line feed: a carriage return, alone or before a line feed, is one. -/
def lineFeeds : List Char → List Char
  | [] => []
  | '\r' :: '\n' :: rest => '\n' :: lineFeeds rest
  | '\r' :: rest => '\n' :: lineFeeds rest
  | letter :: rest => letter :: lineFeeds rest

/-- The characters of a text file. -/
def characters (data : ByteArray) : Except Failure (List Char) :=
  match Utf8.decode? data.toList with
  | .ok letters => .ok (lineFeeds letters)
  | .error fault => .error (.undecodable fault)

/-- The failure of a settings file. -/
def fileFailure (path message userMessage cause : String) : Failure :=
  .diagnosed (.of .settings message userMessage .invalidSettings
    { operation := some "load_config", file := some path } [] (some cause))

/-- The value of a document in a settings file. -/
def documentOf (nesting : Option Nat) (path : String) (letters : List Char) :
    Except Failure Json.Value :=
  match Json.read nesting letters with
  | .ok value => .ok value
  | .error fault =>
    match fault.problem with
    | .tooManyDigits count => .error (.broken (.fewDigits count))
    | .tooDeep container => .error (.tooDeep container)
    | _ =>
      .error (fileFailure path (path ++ " is not valid JSON: " ++ fault.message letters)
        "Configuration file is not valid JSON." (fault.message letters))

/-- The value in a settings file. -/
def readDocument (nesting : Option Nat) (tree : Tree) (path : String) :
    Except Failure Json.Value := do
  withoutNull none path
  let data ← (tree.read path).mapError fun trouble =>
    fileFailure path ("Could not read " ++ path ++ ": " ++ trouble.message path) ""
      (trouble.message path)
  documentOf nesting path (← characters data)

/-- The settings in a file. -/
def readSettings (nesting : Option Nat) (tree : Tree) (path : Path) : Attempt Settings := do
  match ← readDocument nesting tree path.text with
  | .object members => ofMembers members (some path.text)
  | _ => Attempt.fail (refused (some path.text) "top level must be a JSON object")

/-- The settings of a run before its command line: those of a given file, or of the nearest one from
a start on, and the format of the environment over them. -/
def load (nesting : Option Nat) (tree : Tree) (start : Option Path) (given : Option Path)
    (environmentFormat : Option String) : Attempt Settings := do
  let path : Option Path ←
    match given, start with
    | some path, _ => pure (some path)
    | none, some start => liftM (find tree start)
    | none, none => pure none
  let settings ←
    match path with
    | some path => readSettings nesting tree path
    | none => pure {}
  match environmentFormat with
  | none | some "" => return settings
  | some name =>
    let format ← formatOf (some formatVariable) (.ofString name)
    return { settings with format }

/-- The text of a file with the default settings. -/
def defaultText : String :=
  ({} : Settings).value.written ++ "\n"

/-- Refuses a settings file that is there already, unless it is forced out. -/
def checkAbsence (tree : Tree) (path : Path) (force : Bool) : Except Failure Unit := do
  if (← ofTrouble path.text (tree.isThere path.text)) && !force then
    throw (.diagnosed (.of .settings (path.text ++ " already exists")
      "A configuration file already exists." .invalidSettings
      { operation := some "init", file := some path.text } [] none))

/-- The tree with a file of default settings in a directory, and the path of the file. Directories that
were made stay where the file cannot be written. -/
def initialise (tree : Tree) (directory : Path) (force : Bool) : Tree × Except Failure Path :=
  let path := directory.joinText fileName
  match withoutNull (some "mkdir") directory.text >>= fun _ => checkAbsence tree path force with
  | .error failure => (tree, .error failure)
  | .ok () =>
    match tree.makeDirectories path.parent with
    | (made, .error (trouble, place)) => (made, .error (.file trouble place.text))
    | (made, .ok ()) =>
      match made.write path.text defaultText.toUTF8 with
      | .error trouble => (made, .error (.file trouble path.text))
      | .ok written => (written, .ok path)

end UnsafeCensus.Settings
