/-
**Tokens.**

Punctuation is given mark by mark, so that the brackets of nested generic arguments come apart; marks
without a gap between them make a sign.

* `Lexeme`, `Token`: what a token is and where it stands;
* `signs`: every sign of more than one mark;
* `signAt`: the longest sign at a place.
-/

namespace UnsafeCensus.Grammar

/-- What a token is. -/
inductive Lexeme where
  /-- A name or a keyword as it is written. -/
  | word (text : String)
  /-- A number without a point and without an exponent. -/
  | whole
  /-- Any other number, a character or a text. -/
  | literal
  | mark (letter : Char)
  /-- What no token can be. -/
  | stray
  deriving DecidableEq, Inhabited, Repr

/-- A token and the bytes it covers. -/
structure Token where
  lexeme : Lexeme
  start : Nat
  stop : Nat
  deriving DecidableEq, Inhabited, Repr

/-- The marks that tokens are made of. -/
def marks : List Char :=
  ['+', '-', '*', '/', '%', '^', '!', '&', '|', '<', '>', '=', '@', '.', ',', ';', ':', '#', '?',
   '$', '(', ')', '[', ']', '\x7b', '\x7d', '\'']

/-- The signs of several marks, the longer ones first. -/
def signs : List (List Char) :=
  ["<<=", ">>=", "...", "..=", "->", "=>", "::", "..", "&&", "||", "==", "!=", "<=", ">=", "+=", "-=",
   "*=", "/=", "%=", "^=", "&=", "|=", "<<", ">>"].map String.toList

/-- The mark of the token at an index, if that token is one. -/
def markAt? (tokens : Array Token) (index : Nat) : Option Char :=
  match tokens[index]? with
  | some ⟨.mark letter, _, _⟩ => some letter
  | _ => none

/-- Whether no gap lies before the token at an index. -/
def isGlued (tokens : Array Token) (index : Nat) : Bool :=
  match tokens[index - 1]?, tokens[index]? with
  | some before, some token => before.stop == token.start
  | _, _ => false

/-- Whether marks stand from an index on without a gap between them. -/
def hasMarks (tokens : Array Token) (index : Nat) : List Char → Bool
  | [] => true
  | letter :: rest =>
    markAt? tokens index == some letter
      && (rest.isEmpty || isGlued tokens (index + 1))
      && hasMarks tokens (index + 1) rest

/-- The longest sign at an index, or the mark there. -/
def signAt (tokens : Array Token) (index : Nat) : List Char :=
  match signs.find? (hasMarks tokens index) with
  | some sign => sign
  | none => (markAt? tokens index).toList

end UnsafeCensus.Grammar
