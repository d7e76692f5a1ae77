/-
**Values of a JSON document.**

A text is kept by its code points, since an escape may stand for half of a surrogate pair. An object keeps
its members in order and has at most one of each name.

* `Text`: a text by its code points;
* `Value`: null, truth values, integers, numbers of 64 bits, texts, lists and objects;
* `set`: the members after one more, which takes the place of an earlier one of the same name;
* `Value.shown`: a value as it is shown in a message;
* `member`: a member of an object.
-/

import UnsafeCensus.Number.Shortest
import UnsafeCensus.Text.Quoted

namespace UnsafeCensus.Json

/-- A text by its code points, lone surrogates among them. -/
abbrev Text := List Nat

namespace Text

/-- Whether a text comes before another or is the same, by its code points. -/
def notAfter : Text → Text → Bool
  | [], _ => true
  | _ :: _, [] => false
  | first :: rest, first' :: rest' =>
    first < first' || (first == first' && notAfter rest rest')

/-- The code points of a text of characters. -/
def ofString (text : String) : Text :=
  text.toList.map Char.toNat

/-- The characters of a text; a replacement character stands for a lone surrogate. -/
def toString (text : Text) : String :=
  String.ofList (text.map fun point => if point.isValidChar then Char.ofNat point else '\uFFFD')

end Text

/-- A value of a JSON document. -/
inductive Value where
  | null
  | boolean (value : Bool)
  | integer (value : Int)
  | real (value : Binary64)
  | text (points : Text)
  | list (items : List Value)
  | object (members : List (Text × Value))
  deriving Inhabited

/-- The members of an object after one more; an earlier one of the same name keeps its place. -/
def set (members : List (Text × Value)) (name : Text) (value : Value) : List (Text × Value) :=
  if members.any (·.1 == name) then
    members.map fun entry => if entry.1 == name then (name, value) else entry
  else members ++ [(name, value)]

/-- The value of the member of a name. -/
def get? (members : List (Text × Value)) (name : String) : Option Value :=
  (members.find? (·.1 == Text.ofString name)).map Prod.snd

namespace Value

/-- A text of characters as a value. -/
def ofString (text : String) : Value :=
  .text (Text.ofString text)

mutual

/-- A value as it is shown in a message. -/
def shown : Value → String
  | null => "None"
  | boolean value => if value then "True" else "False"
  | integer value => toString value
  | real value => value.text
  | text points => Quoted.quotedPoints points
  | list items => "[" ++ ", ".intercalate (shownItems items) ++ "]"
  | object members => "\x7b" ++ ", ".intercalate (shownMembers members) ++ "\x7d"

/-- The items of a list as they are shown. -/
def shownItems : List Value → List String
  | [] => []
  | item :: rest => shown item :: shownItems rest

/-- The members of an object as they are shown. -/
def shownMembers : List (Text × Value) → List String
  | [] => []
  | (name, value) :: rest =>
    (Quoted.quotedPoints name ++ ": " ++ shown value) :: shownMembers rest

end

end Value

/-- A member of an object whose name is given by its characters. -/
def member (name : String) (value : Value) : Text × Value :=
  (Text.ofString name, value)

end UnsafeCensus.Json
