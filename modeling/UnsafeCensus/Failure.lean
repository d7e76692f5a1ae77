/-
**Failures.**

A failure is a diagnostic for the user or a condition that no diagnostic tells of: a value that breaks
the rule of its type, bytes that are no text, a text that has no bytes, a number out of range, a document
that is nested too deep, or a file that cannot be written.

* `Rule`: the rules of values and the words of their breach;
* `FileTrouble`: what a file operation meets;
* `Failure`: every way in which an operation fails.
-/

import UnsafeCensus.Diagnostic
import UnsafeCensus.Json.Reader
import UnsafeCensus.Text.Utf8

namespace UnsafeCensus

/-- A rule that a value breaks. -/
inductive Rule where
  | startNonNegative
  | endAfterStart
  | linePositive
  | columnNonNegative
  | lineCountPositive
  | totalNonNegative
  | knownKind (name : String)
  | knownSafety (name : String)
  | knownCode (number : Int)
  /-- An integer of a document has at most 4300 digits. -/
  | fewDigits (count : Nat)
  /-- A path has no character of value zero; an operation may refuse one that has. -/
  | noNull (operation : Option String)
  deriving DecidableEq, Repr

/-- The words of a breach. -/
def Rule.message : Rule → String
  | startNonNegative => "lo must be non-negative"
  | endAfterStart => "hi must be >= lo"
  | linePositive => "line must be >= 1"
  | columnNonNegative => "column must be non-negative"
  | lineCountPositive => "num_lines must be >= 1"
  | totalNonNegative => "total_lines must be non-negative"
  | knownKind name => Quoted.quoted name ++ " is not a valid NodeKind"
  | knownSafety name => Quoted.quoted name ++ " is not a valid Safety"
  | knownCode number => toString number ++ " is not a valid ErrorCode"
  | fewDigits count => (Json.Problem.tooManyDigits count).message
  | noNull (some operation) => operation ++ ": embedded null character in path"
  | noNull none => "embedded null byte"

/-- What a file operation meets. -/
inductive FileTrouble where
  | absent
  | alreadyThere
  | notDirectory
  | isDirectory
  | nameTooLong
  deriving DecidableEq, Repr

namespace FileTrouble

/-- The number of a trouble. -/
def number : FileTrouble → Nat
  | absent => 2
  | alreadyThere => 17
  | notDirectory => 20
  | isDirectory => 21
  | nameTooLong => 36

/-- The words for a trouble. -/
def description : FileTrouble → String
  | absent => "No such file or directory"
  | alreadyThere => "File exists"
  | notDirectory => "Not a directory"
  | isDirectory => "Is a directory"
  | nameTooLong => "File name too long"

/-- A trouble with the path it was met at. -/
def message (trouble : FileTrouble) (path : String) : String :=
  "[Errno " ++ toString trouble.number ++ "] " ++ trouble.description ++ ": "
    ++ Quoted.quoted path

end FileTrouble

/-- A way in which an operation fails. -/
inductive Failure where
  | diagnosed (diagnostic : Diagnostic)
  | broken (rule : Rule)
  | undecodable (fault : Utf8.Fault)
  /-- A text holds code points that are no characters. -/
  | unencodable (fault : Utf8.Unencodable)
  /-- A document is refused outside a settings file. -/
  | malformed (message : String)
  /-- A list or an object of a document stands in too many others. -/
  | tooDeep (container : Json.Container)
  /-- A percentage has more digits than percentages are computed with. -/
  | percentageOverflow
  /-- An integer is beyond the numbers of 64 bits. -/
  | integerOverflow
  /-- A setting of this name does not exist. -/
  | unknownSetting (name : String)
  | file (trouble : FileTrouble) (path : String)

namespace Failure

/-- The text of a failure. -/
def message : Failure → String
  | diagnosed diagnostic => diagnostic.message
  | broken rule => rule.message
  | undecodable fault => fault.message
  | unencodable fault => fault.message
  | malformed message => message
  | tooDeep container => (Json.Problem.tooDeep container).message
  | percentageOverflow => ""
  | integerOverflow => "int too large to convert to float"
  | unknownSetting name =>
    "UnsafeLinesConfig.__init__() got an unexpected keyword argument " ++ Quoted.quoted name
  | file trouble path => trouble.message path

end Failure

end UnsafeCensus
