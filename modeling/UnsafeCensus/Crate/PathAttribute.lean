/-
**Attributes that name the file of a module.**

An attribute written `#[path = "…"]` right above a module names its file. Only attributes and comments may
stand between it and the module, and the nearest one counts.

* `valueAt?`: the text between the quotes of an attribute at the front of some characters;
* `valueIn?`: the same anywhere among the characters, the first one;
* `pathAttribute?`: the value for a module, from the siblings before it.
-/

import UnsafeCensus.Syntax.Tree
import UnsafeCensus.Text.Digit

namespace UnsafeCensus.Crate

open Syntax

/-- What follows blanks and then some characters, if these come next. -/
def after? (expected : List Char) (letters : List Char) : Option (List Char) :=
  let rest := letters.dropWhile Digit.isBlank
  if expected.isPrefixOf rest then some (rest.drop expected.length) else none

/-- The text between quotes and what follows it. -/
def untilQuote? (letters : List Char) : Option (List Char × List Char) :=
  match letters.dropWhile (· != '"') with
  | [] => none
  | _ :: rest => some (letters.takeWhile (· != '"'), rest)

/-- The value of a path attribute at the front of some characters. -/
def valueAt? (letters : List Char) : Option (List Char) := do
  if letters.head? != some '#' then none
  let rest ← after? ['['] (letters.drop 1)
  let rest ← after? ['p', 'a', 't', 'h'] rest
  let rest ← after? ['='] rest
  let rest ← after? ['"'] rest
  let (value, rest) ← untilQuote? rest
  let _ ← after? [']'] rest
  return value

/-- The value of the first path attribute among some characters. -/
def valueIn? : List Char → Option (List Char)
  | [] => none
  | letter :: rest =>
    match valueAt? (letter :: rest) with
    | some value => some value
    | none => valueIn? rest

/-- The types of siblings that may stand between a module and its attributes. -/
def attributeSiblings : List String :=
  ["attribute_item", "line_comment", "block_comment"]

/-- The value of the nearest path attribute, from the named siblings before a module, the nearest
first. -/
def pathAttribute? (data : ByteArray) (before : List Tree) : Option String :=
  let run := before.takeWhile fun sibling => attributeSiblings.contains sibling.type
  run.findSome? fun sibling =>
    if sibling.type == "attribute_item" then
      (valueIn? (sibling.textOf data).toList).map String.ofList
    else none

end UnsafeCensus.Crate
