/-
**Expressions.**

How tightly operators bind makes no construct of a census, so an expression is read as operands with
operators between.

* `expressionShape`, `operandShape`, `suffixShape`: expressions, their operands, and what follows an
  operand;
* `blockShape`, `blockLikeShape`: blocks, and the expressions that end with one;
* `matchArmShape`: an arm of a match;
* `continuation`: how an expression goes on after what may be a statement of its own.
-/

import UnsafeCensus.Grammar.Rule
import UnsafeCensus.Grammar.TokenTree
import UnsafeCensus.Grammar.Types

namespace UnsafeCensus.Grammar

open Form

/-- The operators between two operands that are no starts of an expression. -/
def plainOperators : List String :=
  ["+", "/", "%", "^", "==", "!=", "<=", ">=", ">", ">>", "<<", "||", "=", "+=", "-=", "*=", "/=",
   "%=", "^=", "&=", "|=", "<<=", ">>="]

/-- The operators between two operands, the conjunction aside. -/
def binaryOperators : List String :=
  plainOperators ++ ["-", "*", "&", "|", "<"]

/-- The operators of ranges that have an end. -/
def closedRanges : List String :=
  ["..=", "..."]

/-- A form, but not where a brace opens a block. -/
def unlessBlock (context : Context) (form : Shape) : Shape :=
  if context.fields then form else ahead [.mark '\x7b'] nothing form

/-- The end of a range with its operator; only an open one may lack it. -/
def rangeTo (context : Context) : Shape :=
  let next := rule (.operand context.operand)
  ahead [.operator [".."]] (both (sign "..") (unlessBlock context (optional next)))
    (both (token (.operator closedRanges)) next)

/-- An operator with the operand after it. -/
def operation (context : Context) : Shape :=
  cases
    [([.operator ["&&"]], both (sign "&&") (rule (.operand context))),
     ([.operator binaryOperators],
       both (token (.operator binaryOperators)) (rule (.operand context.operand))),
     ([.operator (".." :: closedRanges)], rangeTo context),
     ([.word ["as"]], both (keyword "as") (rule (.type false)))]
    impossible

/-- An expression. -/
def expressionShape (context : Context) : Shape :=
  both (rule (.operand context)) (many (operation context))

/-- An expression among others, perhaps with attributes. -/
def element : Shape :=
  both attributes (rule (.expression .free))

/-- What follows an operand: a field, a method, a question mark, arguments or an index. -/
def suffixShape : Shape :=
  cases
    [([.operator ["."]],
       both (punctuation '.')
         (either (token .whole)
           (both anyName
             (whenAhead [.sign "::", .mark '<'] (both (sign "::") (rule .typeArguments)))))),
     ([.mark '?'], punctuation '?'),
     ([.mark '('],
       between '(' ')' (listed element)),
     ([.mark '['], between '[' ']' (rule (.expression .free)))]
    impossible

/-- How an expression goes on after an operand. -/
def continuation (context : Context) : Shape :=
  both (many (rule .suffix)) (many (operation context))

/-- What stands between the braces of a block. -/
def braces : Shape :=
  between '\x7b' '\x7d' (many (rule .statement))

/-- A block. -/
def blockShape : Shape :=
  node "block" braces

/-- A label. -/
def label : Shape :=
  both lifetime (punctuation ':')

/-- The places where an expression begins that ends with a block. -/
def blockStarts : List (List Test) :=
  [[.mark '\x7b'], [.word ["for", "if", "loop", "match", "while"]],
   [.word ["async", "const", "gen", "try", "unsafe"], .mark '\x7b'],
   [.word ["async", "gen"], .word ["move"], .mark '\x7b'], [.mark '\'', .nameBut [], .mark ':']]

/-- A form for the places where an expression begins that ends with a block, and one for the others. -/
def atBlocks (form otherwise : Shape) : Shape :=
  cases (blockStarts.map (·, form)) otherwise

/-- A condition with its blocks. -/
def conditional : Shape :=
  all
    [keyword "if", rule (.expression .condition), rule .block,
     whenAhead [.word ["else"]]
       (both (keyword "else") (ahead [.word ["if"]] (rule .blockLike) (rule .block)))]

/-- A match. -/
def matching : Shape :=
  all
    [keyword "match", rule (.expression .beforeBlock),
     between '\x7b' '\x7d'
       (both (many (ahead [.mark '#', .mark '!'] innerAttribute impossible)) (many (rule .matchArm)))]

/-- A loop. -/
def looping : Shape :=
  cases
    [([.word ["while"]], all [keyword "while", rule (.expression .condition), rule .block]),
     ([.word ["for"]],
       all [keyword "for", rule (.pattern true), keyword "in", rule (.expression .beforeBlock),
         rule .block])]
    (both (keyword "loop") (rule .block))

/-- An expression that ends with a block. -/
def blockLikeShape : Shape :=
  cases
    [([.mark '\x7b'], rule .block),
     ([.word ["unsafe"]], node "unsafe_block" (both (leaf (.word ["unsafe"]) "unsafe") (rule .block))),
     ([.word ["async", "const", "gen", "try"]],
       all [token (.word ["async", "const", "gen", "try"]), optional (keyword "move"), rule .block]),
     ([.word ["if"]], conditional),
     ([.word ["match"]], matching),
     ([.mark '\'', .nameBut [], .mark ':', .mark '\x7b'], node "block" (both label braces)),
     ([.mark '\''], both label looping)]
    looping

/-- The end of a value in an arm or a block: its separator, which may lack before the closing brace. -/
def endOfValue (separator : Char) : Shape :=
  ahead [.mark '\x7d'] nothing (punctuation separator)

/-- The value of an arm. -/
def armValue : Shape :=
  atBlocks
    (both (rule .blockLike)
      (cases
        [([.mark ','], punctuation ','),
         ([.operator ([".", "?", "&&", "*"] ++ plainOperators)],
           both (continuation .free) (endOfValue ',')),
         ([.word ["as"]], both (continuation .free) (endOfValue ','))]
        nothing))
    (both (rule (.expression .free)) (endOfValue ','))

/-- An arm of a match. -/
def matchArmShape : Shape :=
  node "match_arm"
    (all
      [many (ahead [.mark '#', .mark '!'] innerAttribute (rule .attributeItem)),
       rule (.pattern true),
       whenAhead [.word ["if"]] (both (keyword "if") (rule (.expression .guard))), sign "=>",
       armValue])

/-- A field of a value. -/
def fieldValue : Shape :=
  both attributes
    (cases
      [([.sign ".."], both (sign "..") (optional (rule (.expression .free)))),
       ([.whole], all [token .whole, punctuation ':', rule (.expression .free)]),
       ([.mark '$'], both variableOfMacro (optional (both (punctuation ':') (rule (.expression .free)))))]
      (both anyName (optional (both (punctuation ':') (rule (.expression .free))))))

/-- Elements of an array, or one with how often it is there. -/
def arrayElements : Shape :=
  cases [([.mark ','], punctuation ','), ([.mark ']'], nothing)]
    (both element
      (cases [([.mark ';'], both (punctuation ';') (rule (.expression .free)))]
        (both (many (both (punctuation ',') element)) (optional (punctuation ',')))))

/-- A closure. -/
def closure (context : Context) : Shape :=
  all
    [many (token (.word ["async", "move", "static"])),
     between '|' '|'
       (series
         (all [attributes, rule (.pattern false), optional (both (punctuation ':') (rule (.type true)))])),
     cases [([.sign "->"], both resultType (rule .block))] (rule (.expression context.operand))]

/-- A word that leaves what is around, with a label where that may be, and a value if there is one. -/
def leaving (context : Context) (words : List String) (labelled : Bool) : Shape :=
  all
    [token (.word words), if labelled then whenAhead [.mark '\''] lifetime else nothing,
     unlessBlock context (optional (rule (.expression context.operand)))]

/-- An operand without what comes before and after it. -/
def primary (context : Context) : Shape :=
  let first := .nameBut expressionKeywords
  cases
    [([.literal], token .literal),
     ([.mark '('], between '(' ')' (series element)),
     ([.mark '['], between '[' ']' arrayElements),
     ([.mark '|'], closure context),
     ([.word ["move", "static"]], closure context),
     ([.word ["async"], .mark '|'], closure context),
     ([.word ["async"], .word ["move"], .mark '|'], closure context),
     ([.word ["return", "yield"]], leaving context ["return", "yield"] false),
     ([.word ["break", "continue"]], leaving context ["break", "continue"] true)]
    (atBlocks (rule .blockLike)
      (either (macroCall first)
        (both (valuePath first)
          (if context.fields then
            whenAhead [.mark '\x7b'] (between '\x7b' '\x7d' (listed fieldValue))
          else nothing))))

/-- The words between a reference and its operand. -/
def referenceWords : Shape :=
  cases
    [([.word ["raw"], .word ["const", "mut"]], both (keyword "raw") (token (.word ["const", "mut"]))),
     ([.word ["mut"]], keyword "mut")]
    nothing

/-- An operand. -/
def operandShape (context : Context) : Shape :=
  let next := rule (.operand context.operand)
  cases
    ((if context.conditions then
        [([.word ["let"]],
          all [keyword "let", rule (.pattern true), punctuation '=', next])]
      else [])
      ++ [([.mark '-'], both (punctuation '-') next), ([.mark '*'], both (punctuation '*') next),
          ([.mark '!'], both (punctuation '!') next),
          ([.mark '&'], all [punctuation '&', referenceWords, next]),
          ([.operator ["..", "..="]], rangeTo context)])
    (both (primary context) (many (rule .suffix)))

end UnsafeCensus.Grammar
