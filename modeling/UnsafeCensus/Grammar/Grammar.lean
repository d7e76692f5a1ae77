/-
**The grammar.**

* `grammar`: the form of each rule;
* `parse`: the tree of some bytes. Where the grammar does not take them all, the rest is a fault.
-/

import UnsafeCensus.Grammar.Items
import UnsafeCensus.Grammar.Patterns
import UnsafeCensus.Grammar.Scanner

namespace UnsafeCensus.Grammar

open Form Syntax

/-- The form of each rule. -/
def grammar : Rule → Shape
  | .attributeItem => attributeShape
  | .tree => treeShape
  | .ruleTree => ruleTreeShape
  | .type sums => typeShape sums
  | .typeArguments => argumentsShape
  | .typeParameters => parametersShape
  | .bounds => boundsShape
  | .whereClause => whereShape
  | .parameters => functionParametersShape
  | .pattern alternatives => patternShape alternatives
  | .expression context => expressionShape context
  | .operand context => operandShape context
  | .suffix => suffixShape
  | .block => blockShape
  | .blockLike => blockLikeShape
  | .matchArm => matchArmShape
  | .useTree => useTreeShape
  | .item => itemShape
  | .declaration => declarationShape
  | .declarationList => declarationListShape
  | .statement => statementShape
  | .source => many (rule .statement)

/-- How many rules may call each other in a row without a token read between. -/
def rulesPerToken : Nat := 32

/-- A fault that covers the tokens from an index up to the end. -/
def faultFrom (tokens : Array Token) (index : Nat) : List Tree :=
  if index < tokens.size then [.node (headOf tokens "ERROR" true index tokens.size) []] else []

/-- The tree of some bytes. It covers them from the first one that is no blank. -/
def parse (data : ByteArray) : Tree :=
  let found := scan data
  let depth := (found.tokens.size + 1) * rulesPerToken
  let (trees, next) := (readRule grammar found.tokens depth .source 0).getD ([], 0)
  .node { type := "source_file", start := found.first, stop := data.size, named := true }
    (trees ++ faultFrom found.tokens next)

end UnsafeCensus.Grammar
