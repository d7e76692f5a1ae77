/-
**The rules of the grammar.**

* `Context`: what an expression may be at its place;
* `Rule`: the rules by name;
* `expressionKeywords`, `itemKeywords`, `typeKeywords`: the words that are no names at the start of an
  expression, a statement and a type. Elsewhere every word is a name.
* `lifetime`, `variable`, `simplePath`, `macroCall`: forms that several parts of the grammar share.
-/

import UnsafeCensus.Grammar.Form

namespace UnsafeCensus.Grammar

/-- What an expression may be at its place. -/
structure Context where
  /-- Whether a brace after a path opens the fields of a value. -/
  fields : Bool
  /-- Whether an operand may be a pattern with a value. -/
  conditions : Bool
  deriving DecidableEq, Repr

namespace Context

/-- An expression on its own. -/
def free : Context := ⟨true, false⟩

/-- An expression before a block. -/
def beforeBlock : Context := ⟨false, false⟩

/-- A condition before a block. -/
def condition : Context := ⟨false, true⟩

/-- A condition of a match arm. -/
def guard : Context := ⟨true, true⟩

/-- The same place without conditions. -/
def operand (context : Context) : Context := { context with conditions := false }

end Context

/-- The rules by name. -/
inductive Rule where
  | attributeItem
  | tree
  | ruleTree
  /-- A type, which may be a sum where that is said. -/
  | type (sums : Bool)
  | typeArguments
  | typeParameters
  | bounds
  | whereClause
  | parameters
  /-- A pattern, which may have alternatives where that is said. -/
  | pattern (alternatives : Bool)
  | expression (context : Context)
  | operand (context : Context)
  | suffix
  | block
  | blockLike
  | matchArm
  | useTree
  | item
  | declaration
  | declarationList
  | statement
  | source
  deriving DecidableEq, Repr

/-- The forms of this grammar. -/
abbrev Shape := Form Rule

/-- The words that begin an expression of their own. -/
def expressionKeywords : List String :=
  ["async", "break", "const", "continue", "for", "if", "loop", "match", "move", "return", "static",
   "try", "unsafe", "while", "yield"]

/-- The words that begin an item and nothing else. -/
def itemKeywords : List String :=
  ["enum", "extern", "fn", "impl", "let", "macro_rules", "mod", "pub", "struct", "trait", "type",
   "use"]

/-- The words that begin a type of their own. -/
def typeKeywords : List String :=
  ["async", "const", "dyn", "extern", "fn", "for", "impl", "unsafe"]

/-- The names of types that take no arguments. -/
def primitiveTypes : List String :=
  ["u8", "i8", "u16", "i16", "u32", "i32", "u64", "i64", "u128", "i128", "isize", "usize", "f32",
   "f64", "bool", "str", "char"]

open Form

/-- A lifetime or a label. -/
def lifetime : Shape :=
  both (punctuation '\'') anyName

/-- A variable of a macro. -/
def variableOfMacro : Shape :=
  both (punctuation '$') anyName

/-- Attributes in a row. -/
def attributes : Shape :=
  many (rule .attributeItem)

/-- Names with double colons between, the first of which passes a test. -/
def simplePath (first : Test) : Shape :=
  all [optional (sign "::"), token first, many (both (sign "::") anyName)]

/-- A macro called by a path whose first name passes a test. -/
def macroCall (first : Test) : Shape :=
  node "macro_invocation"
    (all [either (both variableOfMacro (many (both (sign "::") anyName))) (simplePath first),
      punctuation '!', rule .tree])

/-- A type in front of a path, between angle brackets. -/
def qualifier : Shape :=
  between '<' '>' (both (rule (.type true)) (optional (both (keyword "as") (rule (.type true)))))

/-- Names and generic arguments with double colons between, the first of which passes a test. -/
def valuePath (first : Test) : Shape :=
  both (cases [([.mark '<'], both qualifier (both (sign "::") anyName)), ([.mark '$'], variableOfMacro)]
      (both (optional (sign "::")) (token first)))
    (many (both (sign "::") (cases [([.mark '<'], rule .typeArguments)] anyName)))

end UnsafeCensus.Grammar
