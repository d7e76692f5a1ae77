/-
**Items and statements.**

An item covers its visibility and its modifiers, but not the attributes in front of it. A function without a
body is only a signature.

* `itemShape`: an item;
* `declarationListShape`: the body of a module, an implementation or a trait;
* `statementShape`: a statement of a block or of a file.
-/

import UnsafeCensus.Grammar.Expressions

namespace UnsafeCensus.Grammar

open Form

/-- Who may name an item. -/
def visibility : Shape :=
  cases
    [([.word ["pub"], .mark '(', .word ["crate", "self", "super"], .mark ')'],
       node "visibility_modifier" (both (keyword "pub") (between '(' ')' anyName))),
     ([.word ["pub"], .mark '(', .word ["in"]],
       node "visibility_modifier"
         (both (keyword "pub") (between '(' ')' (both (keyword "in") (simplePath (.nameBut [])))))),
     ([.word ["pub"]], node "visibility_modifier" (keyword "pub")),
     ([.word ["crate"], .nameBut []], node "visibility_modifier" (keyword "crate"))]
    nothing

/-- A semicolon. -/
def semicolon : Shape :=
  punctuation ';'

/-- The body of an item held under its field, or a semicolon in its place. -/
def bodyOrSemicolon : Shape :=
  ahead [.mark ';'] semicolon (field "body" (rule .declarationList))

/-- Generic parameters held under their field, if there are any. -/
def genericParameters : Shape :=
  whenAhead [.mark '<'] (field "type_parameters" (rule .typeParameters))

/-- A where clause, if there is one. -/
def optionalWhere : Shape :=
  whenAhead [.word ["where"]] (rule .whereClause)

/-- A module. -/
def moduleItem : Shape :=
  node "mod_item" (all [visibility, keyword "mod", declaredName "identifier", bodyOrSemicolon])

/-- Foreign items. -/
def foreignModule : Shape :=
  node "foreign_mod_item"
    (all
      [visibility, optional (keyword "unsafe"), keyword "extern", optional (token .literal),
       bodyOrSemicolon])

/-- A function up to its body. -/
def functionHead : Shape :=
  all
    [visibility, optional (node "function_modifiers" (both functionModifier (many functionModifier))),
     keyword "fn", declaredName "identifier", genericParameters, rule .parameters,
     optional resultType, optionalWhere]

/-- A function with a body. -/
def functionItem : Shape :=
  node "function_item" (both functionHead (field "body" (rule .block)))

/-- A function without a body. -/
def signature : Shape :=
  node "function_signature_item" (both functionHead semicolon)

/-- Fields with names. -/
def namedFields : Shape :=
  between '\x7b' '\x7d'
    (listed (all [attributes, visibility, anyName, punctuation ':', rule (.type true)]))

/-- Fields in order. -/
def orderedFields : Shape :=
  between '(' ')' (listed (all [attributes, visibility, rule (.type true)]))

/-- A structure. -/
def structItem : Shape :=
  node "struct_item"
    (all
      [visibility, keyword "struct", declaredName "type_identifier", genericParameters,
       optionalWhere,
       cases
         [([.mark '\x7b'], namedFields),
          ([.mark '('], all [orderedFields, optionalWhere, semicolon])]
         semicolon])

/-- A union. -/
def unionItem : Shape :=
  node "union_item"
    (all
      [visibility, keyword "union", declaredName "type_identifier", genericParameters, optionalWhere,
       namedFields])

/-- A case of an enumeration. -/
def variant : Shape :=
  all
    [attributes, visibility, anyName,
     cases [([.mark '\x7b'], namedFields), ([.mark '('], orderedFields)] nothing,
     optional (both (punctuation '=') (rule (.expression .free)))]

/-- An enumeration. -/
def enumItem : Shape :=
  node "enum_item"
    (all
      [visibility, keyword "enum", declaredName "type_identifier", genericParameters, optionalWhere,
       between '\x7b' '\x7d' (listed variant)])

/-- A name for a type, which a trait may leave open. -/
def typeItem : Shape :=
  node "type_item"
    (all
      [visibility, keyword "type", declaredName "type_identifier", genericParameters,
       whenAhead [.mark ':'] (rule .bounds), optionalWhere,
       optional (both (punctuation '=') (rule (.type true))), optionalWhere, semicolon])

/-- The type of a value and the value, which may be left open. -/
def typedValue : Shape :=
  all
    [declaredName "identifier", punctuation ':', rule (.type true),
     optional (both (punctuation '=') (rule (.expression .free))), semicolon]

/-- A constant. -/
def constItem : Shape :=
  node "const_item" (all [visibility, keyword "const", typedValue])

/-- A static variable. -/
def staticItem : Shape :=
  node "static_item"
    (all
      [visibility, optional (token (.word ["safe", "unsafe"])), keyword "static",
       optional (keyword "mut"), typedValue])

/-- What a use declaration names. -/
def useTreeShape : Shape :=
  cases
    [([.mark '\x7b'], between '\x7b' '\x7d' (listed (rule .useTree))), ([.mark '*'], punctuation '*'),
     ([.sign "::"], both (sign "::") (rule .useTree))]
    (both (either variableOfMacro anyName)
      (cases
        [([.sign "::"], both (sign "::") (rule .useTree)),
         ([.word ["as"]], both (keyword "as") anyName)]
        nothing))

/-- A use declaration. -/
def useDeclaration : Shape :=
  node "use_declaration" (all [visibility, keyword "use", rule .useTree, semicolon])

/-- The declaration of another crate. -/
def externCrate : Shape :=
  node "extern_crate_declaration"
    (all
      [visibility, keyword "extern", keyword "crate", anyName,
       optional (both (keyword "as") anyName), semicolon])

/-- The trait of an implementation and its type, or its type alone. -/
def implemented : Shape :=
  either
    (all
      [optional (punctuation '!'), field "trait" namedType, keyword "for", field "type" namedType])
    (field "type" namedType)

/-- An implementation. -/
def implementation : Shape :=
  node "impl_item"
    (all
      [optional (leaf (.word ["unsafe"]) "unsafe"), keyword "impl", genericParameters, implemented,
       optionalWhere, bodyOrSemicolon])

/-- A trait. -/
def traitItem : Shape :=
  node "trait_item"
    (all
      [visibility, optional (leaf (.word ["unsafe"]) "unsafe"), keyword "trait", declaredName "type_identifier",
       genericParameters, whenAhead [.mark ':'] (rule .bounds), optionalWhere, field "body" (rule .declarationList)])

/-- The words that an item may begin with. -/
def itemStarts : List String :=
  ["async", "const", "crate", "default", "enum", "extern", "fn", "gen", "impl",
   "macro_rules", "mod", "pub", "safe", "static", "struct", "trait", "type", "union", "unsafe",
   "use"]

/-- An item. -/
def itemShape : Shape :=
  ahead [.word itemStarts]
    (anyOf
      [functionItem, signature, useDeclaration, structItem, enumItem, implementation, traitItem,
       moduleItem, constItem, staticItem, typeItem, macroDefinition, externCrate, foreignModule,
       unionItem])
    impossible

/-- A declaration of variables. -/
def letDeclaration : Shape :=
  node "let_declaration"
    (all
      [keyword "let", rule (.pattern true), optional (both (punctuation ':') (rule (.type true))),
       optional
         (both (punctuation '=')
           (both (rule (.expression .free))
             (whenAhead [.word ["else"]] (both (keyword "else") (rule .block))))),
       semicolon])

/-- A form for the places where something stands that is neither an item nor an expression, and one for
the others. -/
def atPlain (otherwise : Shape) : Shape :=
  cases
    [([.mark ';'], node "empty_statement" semicolon), ([.mark '#', .mark '!'], innerAttribute),
     ([.mark '#'], rule .attributeItem), ([.word ["let"]], letDeclaration)]
    (either (rule .item) otherwise)

/-- The words that no macro call by itself begins with. -/
def statementKeywords : List String :=
  expressionKeywords ++ itemKeywords

/-- What stands in the body of a module, an implementation or a trait. -/
def declarationShape : Shape :=
  atPlain (macroCall (.nameBut statementKeywords))

/-- The body of a module, an implementation or a trait. -/
def declarationListShape : Shape :=
  node "declaration_list" (between '\x7b' '\x7d' (many (rule .declaration)))

/-- The places where an expression that may be a statement of its own goes on, in front of some
operators. -/
def goesOn (operators : List String) (form : Shape) : Shape :=
  cases [([.operator operators], form), ([.word ["as"]], form)] nothing

/-- The rest of an expression statement. -/
def restOfExpression : Shape :=
  both (continuation .free) (endOfValue ';')

/-- An expression that ends with a block, and a macro call, are statements of their own unless an operator
goes on with them that begins no expression. -/
def expressionStatement : Shape :=
  atBlocks
    (node "expression_statement"
      (both (rule .blockLike) (goesOn ([".", "?", "&&"] ++ plainOperators) restOfExpression)))
    (either
      (both (macroCall (.nameBut statementKeywords))
        (goesOn ([".", "?", "&&", "|", "<"] ++ plainOperators) restOfExpression))
      (ahead [.word itemKeywords] impossible
        (node "expression_statement" (both (rule (.expression .free)) (endOfValue ';')))))

/-- A statement. -/
def statementShape : Shape :=
  atPlain expressionStatement

end UnsafeCensus.Grammar
