/-
**Token trees.**

The arguments of macros and of attributes are tokens of any kind between brackets that match; nothing in
them is a construct of its own.

* `treeShape`: tokens between brackets;
* `ruleTreeShape`: the same in a rule of a macro, where a dollar opens a variable or a repetition;
* `macroDefinition`: the definition of a macro by rules;
* `attributeShape`, `innerAttribute`: attributes of what follows and of what is around.
-/

import UnsafeCensus.Grammar.Rule

namespace UnsafeCensus.Grammar

open Form

/-- The marks that close brackets. -/
def closers : List Char :=
  [')', ']', '\x7d']

/-- Forms of a kind between brackets of any kind. -/
def bracketed (form : Shape) : Shape :=
  cases [([.mark '('], between '(' ')' (many form)), ([.mark '['], between '[' ']' (many form))]
    (between '\x7b' '\x7d' (many form))

/-- A place where brackets open. -/
def openings : List (List Test) :=
  [[.mark '('], [.mark '['], [.mark '\x7b']]

/-- Tokens between brackets. -/
def treeShape : Shape :=
  bracketed
    (cases (openings.map fun tests => (tests, rule .tree)) (token (.otherThan closers)))

/-- How often a repetition in a macro takes place: the tokens between two rounds, and a mark. -/
def repetitionEnd : Shape :=
  let last := ['+', '*', '?']
  both (many (token (.otherThan last)))
    (anyOf (last.map punctuation))

/-- A token, a variable, a repetition or a tree in a rule of a macro. -/
def ruleToken : Shape :=
  cases
    (openings.map (fun tests => (tests, rule .ruleTree))
      ++ [([.mark '$', .mark '('],
             all [punctuation '$', rule .ruleTree, repetitionEnd]),
          ([.mark '$'], variableOfMacro)])
    (token (.otherThan closers))

/-- Tokens between brackets in a rule of a macro. -/
def ruleTreeShape : Shape :=
  bracketed ruleToken

/-- A rule of a macro. -/
def macroRule : Shape :=
  all [rule .ruleTree, sign "=>", rule .ruleTree]

/-- The rules of a macro. -/
def macroRules : Shape :=
  both (optional (separated ';' macroRule)) (optional (punctuation ';'))

/-- The definition of a macro by rules. -/
def macroDefinition : Shape :=
  node "macro_definition"
    (all [keyword "macro_rules", punctuation '!', anyName,
      cases
        [([.mark '\x7b'], between '\x7b' '\x7d' macroRules),
         ([.mark '('], both (between '(' ')' macroRules) (punctuation ';'))]
        (both (between '[' ']' macroRules) (punctuation ';'))])

/-- What stands between the brackets of an attribute. -/
def attributeBody : Shape :=
  between '[' ']'
    (both (simplePath (.nameBut []))
      (cases
        (([.mark '='], both (punctuation '=') (rule (.expression .free)))
          :: openings.map fun tests => (tests, rule .tree))
        nothing))

/-- An attribute of what follows. -/
def attributeShape : Shape :=
  node "attribute_item" (both (punctuation '#') attributeBody)

/-- An attribute of what is around. -/
def innerAttribute : Shape :=
  node "inner_attribute_item" (all [punctuation '#', punctuation '!', attributeBody])

end UnsafeCensus.Grammar
