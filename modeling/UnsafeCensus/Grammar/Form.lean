/-
**Forms.**

A form says what tokens may stand at a place and which nodes of a syntax tree they make. Of two alternatives
the second one is tried only where the first one fails, and a repetition goes on as long as it can. Rules
call each other by name, so a grammar is a table from rules to forms.

* `Test`: what can be asked of the tokens at a place;
* `Form`: the forms;
* `read`: what a form makes of the tokens at a place, given what each rule makes of them;
* `readRule`: what a rule makes of them, with a bound on how deep rules call each other.
-/

import UnsafeCensus.Grammar.Token
import UnsafeCensus.Syntax.Tree

namespace UnsafeCensus.Grammar

open Syntax

/-- A question about the tokens at a place. -/
inductive Test where
  /-- Is it one of these words? -/
  | word (texts : List String)
  /-- Is it a word, but none of these? -/
  | nameBut (texts : List String)
  /-- Is it a number without a point and without an exponent? -/
  | whole
  /-- Is it a number, a character or a text? -/
  | literal
  | mark (letter : Char)
  /-- Do these marks stand here without a gap? -/
  | sign (text : String)
  /-- Is the longest sign here one of these? -/
  | operator (texts : List String)
  /-- Is it any token but one of these marks? -/
  | otherThan (letters : List Char)
  /-- Is there no token? -/
  | finish
  deriving DecidableEq, Repr

namespace Test

/-- Whether a token that must be a mark by itself holds a condition. -/
def advance (index : Nat) (holds : Bool) : Option Nat :=
  if holds then some (index + 1) else none

/-- The index after what was asked for, if it is there. -/
def run (tokens : Array Token) (index : Nat) : Test → Option Nat
  | word texts =>
    match tokens[index]? with
    | some ⟨.word text, _, _⟩ => advance index (texts.contains text)
    | _ => none
  | nameBut texts =>
    match tokens[index]? with
    | some ⟨.word text, _, _⟩ => advance index (!texts.contains text)
    | _ => none
  | whole =>
    match tokens[index]? with
    | some ⟨.whole, _, _⟩ => some (index + 1)
    | _ => none
  | literal =>
    match tokens[index]? with
    | some ⟨.whole, _, _⟩ | some ⟨.literal, _, _⟩ => some (index + 1)
    | _ => none
  | mark letter => advance index (markAt? tokens index == some letter)
  | sign text =>
    if hasMarks tokens index text.toList then some (index + text.length) else none
  | operator texts =>
    let sign := signAt tokens index
    if !sign.isEmpty && texts.contains (String.ofList sign) then some (index + sign.length)
    else none
  | otherThan letters =>
    match tokens[index]? with
    | some ⟨.stray, _, _⟩ | none => none
    | some ⟨.mark letter, _, _⟩ => advance index (!letters.contains letter)
    | some _ => some (index + 1)
  | finish => if index < tokens.size then none else some index

end Test

/-- What may stand at a place, for rules with names of some type. -/
inductive Form (Rule : Type) where
  /-- Nothing. -/
  | nothing
  /-- What passes a test; no node is made of it. -/
  | token (test : Test)
  /-- What passes a test; it is a node without a name. -/
  | leaf (test : Test) (type : String)
  /-- One form after another. -/
  | both (first second : Form Rule)
  /-- A form, or another one where the first one fails. -/
  | either (first second : Form Rule)
  /-- A form where some tests hold one after another, and another form elsewhere. -/
  | ahead (tests : List Test) (present absent : Form Rule)
  /-- A form as often as it stands there. -/
  | many (form : Form Rule)
  /-- A node of a type around what a form makes. -/
  | node (type : String) (form : Form Rule)
  /-- What a form makes, held under a field. -/
  | field (name : String) (form : Form Rule)
  | rule (name : Rule)

/-- What was made, and the index of the next token. -/
abbrev Outcome := Option (List Tree × Nat)

/-- Whether tests hold one after another. -/
def holds (tokens : Array Token) (index : Nat) : List Test → Bool
  | [] => true
  | test :: rest =>
    match test.run tokens index with
    | some next => holds tokens next rest
    | none => false

/-- The start of the token at an index, or the end of the last one. -/
def startOf (tokens : Array Token) (index : Nat) : Nat :=
  match tokens[index]? with
  | some token => token.start
  | none => (tokens.back?.map Token.stop).getD 0

/-- The end of the token before an index, or the start of the one at it when none was read. -/
def stopOf (tokens : Array Token) (index next : Nat) : Nat :=
  if index < next then (tokens[next - 1]?.map Token.stop).getD 0 else startOf tokens index

/-- The head of a node that covers the tokens from an index up to another. -/
def headOf (tokens : Array Token) (type : String) (named : Bool) (index next : Nat) : Head where
  type := type
  start := startOf tokens index
  stop := stopOf tokens index next
  named := named

/-- A tree held under a field. -/
def underField (name : String) : Tree → Tree
  | .node head children => .node { head with field := some name } children

/-- What is made by a repetition of at most `left` times; a round that reads nothing ends it. -/
def repeatRead (once : Nat → Outcome) (index : Nat) : Nat → List Tree × Nat
  | 0 => ([], index)
  | left + 1 =>
    match once index with
    | some (trees, next) =>
      if index < next then
        let (others, after) := repeatRead once next left
        (trees ++ others, after)
      else ([], index)
    | none => ([], index)

variable {Rule : Type}

/-- What a form makes of the tokens from an index on. -/
def Form.read (call : Rule → Nat → Outcome) (tokens : Array Token) : Form Rule → Nat → Outcome
  | nothing, index => some ([], index)
  | token test, index => (test.run tokens index).map fun next => ([], next)
  | leaf test type, index =>
    (test.run tokens index).map fun next =>
      ([.node (headOf tokens type false index next) []], next)
  | both first second, index =>
    match read call tokens first index with
    | some (trees, next) =>
      match read call tokens second next with
      | some (others, after) => some (trees ++ others, after)
      | none => none
    | none => none
  | either first second, index =>
    match read call tokens first index with
    | some outcome => some outcome
    | none => read call tokens second index
  | ahead tests present absent, index =>
    if holds tokens index tests then read call tokens present index
    else read call tokens absent index
  | many form, index => some (repeatRead (read call tokens form) index (tokens.size - index))
  | node type form, index =>
    match read call tokens form index with
    | some (trees, next) => some ([.node (headOf tokens type true index next) trees], next)
    | none => none
  | field name form, index =>
    (read call tokens form index).map fun (trees, next) => (trees.map (underField name), next)
  | rule name, index => call name index

/-- What a rule makes of the tokens from an index on, when rules call each other at most `depth` deep. -/
def readRule (grammar : Rule → Form Rule) (tokens : Array Token) : Nat → Rule → Nat → Outcome
  | 0, _, _ => none
  | depth + 1, name, index => (grammar name).read (readRule grammar tokens depth) tokens index

namespace Form

/-- Forms one after another. -/
def all : List (Form Rule) → Form Rule
  | [] => nothing
  | [form] => form
  | form :: rest => both form (all rest)

/-- A form that stands nowhere. -/
def impossible : Form Rule :=
  token (.word [])

/-- The first of several forms that does not fail. -/
def anyOf : List (Form Rule) → Form Rule
  | [] => impossible
  | [form] => form
  | form :: rest => either form (anyOf rest)

/-- The form of the first case whose tests hold, or a form for all else. -/
def cases : List (List Test × Form Rule) → Form Rule → Form Rule
  | [], otherwise => otherwise
  | (tests, form) :: rest, otherwise => ahead tests form (cases rest otherwise)

/-- A form or nothing. -/
def optional (form : Form Rule) : Form Rule :=
  either form nothing

/-- A form where some tests hold, and nothing elsewhere. -/
def whenAhead (tests : List Test) (form : Form Rule) : Form Rule :=
  ahead tests form nothing

/-- Nothing, where some tests do not hold one after another. -/
def notAhead (tests : List Test) : Form Rule :=
  ahead tests impossible nothing

/-- A word. -/
def keyword (text : String) : Form Rule :=
  token (.word [text])

/-- A mark. -/
def punctuation (letter : Char) : Form Rule :=
  token (.mark letter)

/-- A sign. -/
def sign (text : String) : Form Rule :=
  token (.sign text)

/-- Any word. -/
def anyName : Form Rule :=
  token (.nameBut [])

/-- A form several times with a mark between each two. -/
def separated (letter : Char) (form : Form Rule) : Form Rule :=
  both form (many (both (punctuation letter) form))

/-- Nothing, or a form several times with commas between and perhaps one at the end. -/
def series (form : Form Rule) : Form Rule :=
  optional (both (separated ',' form) (optional (punctuation ',')))

/-- A form any number of times with commas between and perhaps one at the end, which may stand alone. -/
def listed (form : Form Rule) : Form Rule :=
  both (optional (separated ',' form)) (optional (punctuation ','))

/-- A form between two marks. -/
def between (opening closing : Char) (form : Form Rule) : Form Rule :=
  all [punctuation opening, form, punctuation closing]

end Form

end UnsafeCensus.Grammar
