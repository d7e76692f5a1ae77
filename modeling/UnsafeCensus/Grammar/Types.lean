/-
**Types.**

* `typeShape`: a type, perhaps a sum of a type and bounds;
* `argumentsShape`, `parametersShape`: generic arguments and generic parameters;
* `boundsShape`, `whereShape`: bounds and where clauses;
* `functionParametersShape`: the parameters of a function;
* `namedType`: a type that is a node of its own, and which is told apart when it is a single name.
-/

import UnsafeCensus.Grammar.Rule

namespace UnsafeCensus.Grammar

open Form

/-- A name with its generic arguments. -/
def typeSegment (first : Test) : Shape :=
  ahead [.word primitiveTypes] anyName
    (both (token first)
      (cases [([.mark '<'], rule .typeArguments),
          ([.sign "::", .mark '<'], both (sign "::") (rule .typeArguments))]
        nothing))

/-- What a function gives. -/
def resultType : Shape :=
  both (sign "->") (rule (.type true))

/-- A path to a type, or a type of functions written like a call. -/
def typePath : Shape :=
  all
    [cases [([.mark '<'], both qualifier (both (sign "::") (typeSegment (.nameBut []))))]
       (both (optional (sign "::")) (typeSegment (.nameBut typeKeywords))),
     many (both (sign "::") (typeSegment (.nameBut []))),
     whenAhead [.mark '('] (both (rule .parameters) (optional resultType))]

/-- The words before a function that say what it is, and the tokens that mark it as unsafe. -/
def functionModifier : Shape :=
  anyOf
    [leaf (.word ["unsafe"]) "unsafe",
     both (keyword "extern") (optional (token .literal)),
     token (.word ["async", "const", "default", "gen", "safe"])]

/-- A type of functions. -/
def functionType : Shape :=
  all [many functionModifier, keyword "fn", rule .parameters, optional resultType]

/-- Bound lifetimes. -/
def forLifetimes : Shape :=
  both (keyword "for") (rule .typeParameters)

/-- A type that is no sum. -/
def typeAtom : Shape :=
  cases
    [([.mark '&'],
       all [punctuation '&', whenAhead [.mark '\''] lifetime, optional (keyword "mut"),
         rule (.type false)]),
     ([.mark '*'], all [punctuation '*', token (.word ["const", "mut"]), rule (.type false)]),
     ([.mark '['],
       between '[' ']'
         (both (rule (.type true)) (optional (both (punctuation ';') (rule (.expression .free)))))),
     ([.mark '('], between '(' ')' (series (rule (.type true)))),
     ([.mark '!'], punctuation '!'),
     ([.mark '?'], both (punctuation '?') (rule (.type false))),
     ([.mark '$'], both variableOfMacro (many (both (sign "::") (typeSegment (.nameBut []))))),
     ([.word ["impl"]], both (keyword "impl") (rule (.type false))),
     ([.word ["dyn"]],
       both (keyword "dyn") (cases [([.mark '\''], lifetime)] (rule (.type false)))),
     ([.word ["for"]], both forLifetimes (rule (.type false))),
     ([.word ["use"], .mark '<'], both (keyword "use") (rule .typeArguments)),
     ([.word ["async", "const", "extern", "fn", "unsafe"]], functionType)]
    (either (macroCall (.nameBut typeKeywords)) typePath)

/-- What may stand in a sum. -/
def bound : Shape :=
  cases [([.mark '\''], lifetime)] typeAtom

/-- A type, perhaps a sum. -/
def typeShape (sums : Bool) : Shape :=
  if sums then
    both (cases [([.mark '\''], both lifetime (both (punctuation '+') bound))] typeAtom)
      (many (both (punctuation '+') bound))
  else typeAtom

/-- A value among generic arguments. -/
def constantArgument : Shape :=
  cases
    [([.literal], token .literal), ([.mark '-'], both (punctuation '-') (token .literal)),
     ([.mark '\x7b'], rule .block)]
    impossible

/-- A generic argument: a lifetime, a value, a type, or the value or the bounds of a named one. -/
def argument : Shape :=
  cases [([.mark '\'', .nameBut [], .mark '+'], rule (.type true)), ([.mark '\''], lifetime)]
    (either constantArgument
      (both (rule (.type true))
        (cases
          [([.mark '='], both (punctuation '=') (either constantArgument (rule (.type true)))),
           ([.mark ':'], rule .bounds)]
          nothing)))

/-- Generic arguments. -/
def argumentsShape : Shape :=
  between '<' '>' (series argument)

/-- The name that something declares. -/
def declaredName (type : String) : Shape :=
  field "name" (node type (either variableOfMacro anyName))

/-- A generic parameter. -/
def parameter : Shape :=
  cases
    [([.mark '\''], node "lifetime_parameter" (both lifetime (optional (rule .bounds)))),
     ([.word ["const"]],
       node "const_parameter"
         (all [keyword "const", declaredName "identifier", punctuation ':', rule (.type true),
           optional (both (punctuation '=') (either constantArgument anyName))])),
     ([.mark '$'], variableOfMacro)]
    (node "type_parameter"
      (all [declaredName "type_identifier", optional (rule .bounds),
        optional (both (punctuation '=') (rule (.type true)))]))

/-- Generic parameters. -/
def parametersShape : Shape :=
  node "type_parameters" (between '<' '>' (series (both attributes parameter)))

/-- Bounds after a colon. -/
def boundsShape : Shape :=
  both (punctuation ':') (separated '+' bound)

/-- A where clause. -/
def whereShape : Shape :=
  both (keyword "where") (series (both bound (rule .bounds)))

/-- The receiver of a method. -/
def receiver : Shape :=
  all
    [optional (both (punctuation '&') (whenAhead [.mark '\''] lifetime)), optional (keyword "mut"),
     keyword "self", notAhead [.sign "::"],
     optional (both (punctuation ':') (rule (.type true)))]

/-- A parameter of a function: a receiver, a pattern with its type, or a type alone. -/
def functionParameter : Shape :=
  cases
    [([.sign "..."], sign "..."), ([.word typeKeywords], rule (.type true))]
    (anyOf
      [receiver,
       all [rule (.pattern true), punctuation ':', either (sign "...") (rule (.type true))],
       rule (.type true)])

/-- The parameters of a function. -/
def functionParametersShape : Shape :=
  between '(' ')' (listed (both attributes functionParameter))

/-- A type as a node, whose type tells whether it is a single name. -/
def namedType : Shape :=
  let other := node "type" (rule (.type true))
  cases
    ([[.nameBut [], .mark '<'], [.nameBut [], .sign "::"], [.nameBut [], .mark '('],
      [.nameBut [], .mark '!'], [.nameBut [], .mark '+'],
      [.word (typeKeywords ++ primitiveTypes)]].map (·, other)
      ++ [([.nameBut []], node "type_identifier" anyName)])
    other

end UnsafeCensus.Grammar
