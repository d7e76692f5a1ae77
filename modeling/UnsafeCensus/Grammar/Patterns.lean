/-
**Patterns.**

* `patternShape`: a pattern, perhaps with alternatives;
* `singlePattern`: a pattern without alternatives at its top;
* `rangeTail`: what makes a range of a bound in front.
-/

import UnsafeCensus.Grammar.Rule

namespace UnsafeCensus.Grammar

open Form

/-- A literal, perhaps below zero. -/
def signedLiteral : Shape :=
  both (optional (punctuation '-')) (token .literal)

/-- A bound of a range; a word that goes on after the pattern is none. -/
def rangeBound : Shape :=
  cases [([.literal], signedLiteral), ([.mark '-'], signedLiteral)]
    (valuePath (.nameBut ["if", "in"]))

/-- What makes a range of a bound in front, or nothing. -/
def rangeTail : Shape :=
  cases
    [([.sign "..."], both (sign "...") rangeBound), ([.sign "..="], both (sign "..=") rangeBound),
     ([.sign ".."], both (sign "..") (optional rangeBound))]
    nothing

/-- A field in a pattern. -/
def fieldPattern : Shape :=
  both attributes
    (cases [([.sign ".."], sign "..")]
      (all
        [optional (keyword "ref"), optional (keyword "mut"), either anyName (token .whole),
         optional (both (punctuation ':') (rule (.pattern true)))]))

/-- Patterns with commas between. -/
def patternList : Shape :=
  listed (rule (.pattern true))

/-- The words that begin a pattern of their own. -/
def patternKeywords : List String :=
  ["const", "mut", "ref"]

/-- A pattern that begins with a path: a name, a value with parts, a range, or a name for what another
pattern takes. -/
def pathPattern : Shape :=
  both (valuePath (.nameBut patternKeywords))
    (cases
      [([.mark '('], between '(' ')' patternList),
       ([.mark '\x7b'], between '\x7b' '\x7d' (listed fieldPattern)),
       ([.mark '@'], both (punctuation '@') (rule (.pattern false)))]
      rangeTail)

/-- A pattern without alternatives at its top. -/
def singlePattern : Shape :=
  cases
    [([.mark '&'], all [punctuation '&', optional (keyword "mut"), rule (.pattern false)]),
     ([.mark '('], between '(' ')' patternList),
     ([.mark '['], between '[' ']' patternList),
     ([.word ["mut", "ref"]], both (token (.word ["mut", "ref"])) (rule (.pattern false))),
     ([.word ["const"]], both (keyword "const") (rule .block)),
     ([.sign ".."], rangeTail),
     ([.literal], both signedLiteral rangeTail),
     ([.mark '-'], both signedLiteral rangeTail)]
    (either (macroCall (.nameBut patternKeywords)) pathPattern)

/-- A pattern, perhaps with alternatives. -/
def patternShape (alternatives : Bool) : Shape :=
  if alternatives then
    both (optional (punctuation '|')) (separated '|' (rule (.pattern false)))
  else singlePattern

end UnsafeCensus.Grammar
