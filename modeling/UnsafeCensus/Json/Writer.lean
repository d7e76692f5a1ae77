/-
**Writing a JSON document.**

Each item of a list and each member of an object stands on a line of its own, two blanks further in than
the list or object. Only characters from the space to the tilde are written as they are; the others are
written by escapes, those beyond sixteen bits as a pair.

* `writtenText`: a text between double quotes;
* `Value.written`: a value whose first line stands at a given depth.
-/

import UnsafeCensus.Json.Value

namespace UnsafeCensus.Json

/-- An escape of a code point of sixteen bits. -/
def unitEscape (unit : Nat) : List Char :=
  '\\' :: 'u' :: Quoted.hexDigits 4 unit

/-- A code point between quotes. -/
def writtenPoint (point : Nat) : List Char :=
  match point with
  | 0x22 => ['\\', '"']
  | 0x5C => ['\\', '\\']
  | 0x0A => ['\\', 'n']
  | 0x0D => ['\\', 'r']
  | 0x09 => ['\\', 't']
  | 0x0C => ['\\', 'f']
  | 0x08 => ['\\', 'b']
  | point =>
    if 0x20 ≤ point ∧ point ≤ 0x7E then [Char.ofNat point]
    else if point < 0x10000 then unitEscape point
    else
      unitEscape (0xD800 + (point - 0x10000) / 0x400)
        ++ unitEscape (0xDC00 + (point - 0x10000) % 0x400)

/-- A text between double quotes. -/
def writtenText (points : Text) : String :=
  String.ofList ('"' :: points.flatMap writtenPoint ++ ['"'])

/-- A number of 64 bits, or the word for what is not finite. -/
def writtenReal : Binary64 → String
  | .nan => "NaN"
  | .infinite negative => if negative then "-Infinity" else "Infinity"
  | value => value.text

/-- The start of a line at a depth. -/
def newLine (depth : Nat) : String :=
  String.ofList ('\n' :: List.replicate (2 * depth) ' ')

/-- Lines between brackets, each a step further in than the brackets. -/
def enclosed (opening closing : String) (depth : Nat) (lines : List String) : String :=
  if lines.isEmpty then opening ++ closing
  else
    opening ++ newLine (depth + 1) ++ ("," ++ newLine (depth + 1)).intercalate lines
      ++ newLine depth ++ closing

namespace Value

mutual

/-- A value whose first line stands at a depth. -/
def writtenAt (depth : Nat) : Value → String
  | null => "null"
  | boolean value => if value then "true" else "false"
  | integer value => toString value
  | real value => writtenReal value
  | text points => writtenText points
  | list items => enclosed "[" "]" depth (writtenItems (depth + 1) items)
  | object members => enclosed "\x7b" "\x7d" depth (writtenMembers (depth + 1) members)

/-- The items of a list at a depth. -/
def writtenItems (depth : Nat) : List Value → List String
  | [] => []
  | item :: rest => writtenAt depth item :: writtenItems depth rest

/-- The members of an object at a depth. -/
def writtenMembers (depth : Nat) : List (Text × Value) → List String
  | [] => []
  | (name, value) :: rest =>
    (writtenText name ++ ": " ++ writtenAt depth value) :: writtenMembers depth rest

end

/-- A value as a document. -/
def written (value : Value) : String :=
  value.writtenAt 0

end Value

end UnsafeCensus.Json
