/-
**Concrete syntax trees.**

A concrete tree has a node for each construct and each token of a source. A node is named when it stands
for a construct, and it may be held by the node above it under the name of a field.

* `Head`, `Tree`: the nodes without and with what is below them;
* `childByField?`, `namedChildren`: what a node holds under a field, and its named children;
* `textOf`: the text that a node covers;
* `hasError`: whether a tree holds a fault;
* `search`, `firstFault?`: the first fault in order, by a walk that keeps the trees still to be searched in a list
  and does not look below those that hold none;
* `search_eq`: it is the first among all nodes.
-/

import UnsafeCensus.Source.File

namespace UnsafeCensus.Syntax

/-- A node without what is below it. -/
structure Head where
  /-- The name of the construct or the token. -/
  type : String
  start : Int
  stop : Int
  named : Bool := true
  /-- Whether the node stands for a token that the source lacks. -/
  missing : Bool := false
  /-- Whether the node was said to hold a fault. -/
  flagged : Bool := false
  /-- The field under which the node above holds this one. -/
  field : Option String := none
  deriving DecidableEq, Inhabited, Repr

/-- A concrete syntax tree. -/
inductive Tree where
  | node (head : Head) (children : List Tree)
  deriving Inhabited

namespace Tree

/-- The node at the top. -/
def head : Tree → Head
  | node head _ => head

/-- The trees right below the top. -/
def children : Tree → List Tree
  | node _ children => children

/-- The name of the construct or the token at the top. -/
def type (tree : Tree) : String :=
  tree.head.type

/-- The first tree that is held under a field. -/
def childByField? (tree : Tree) (field : String) : Option Tree :=
  tree.children.find? fun child => child.head.field == some field

/-- The trees right below that stand for constructs. -/
def namedChildren (tree : Tree) : List Tree :=
  tree.children.filter fun child => child.head.named

/-- Whether some tree right below is of a type. -/
def hasChild (tree : Tree) (type : String) : Bool :=
  tree.children.any fun child => child.type == type

/-- The text that a tree covers, with a replacement character for each malformed piece. -/
def textOf (data : ByteArray) (tree : Tree) : String :=
  let start := Source.clampBound data.size tree.head.start
  let stop := Source.clampBound data.size tree.head.stop
  String.ofList (Utf8.decode (data.extract start stop).toList)

end Tree

namespace Head

/-- Whether a node is itself a fault. -/
def isFault (head : Head) : Bool :=
  head.type == "ERROR" || head.missing

end Head

namespace Tree

mutual

/-- Whether a tree holds a fault. -/
def hasError : Tree → Bool
  | node head children => head.isFault || head.flagged || anyHasError children

/-- Whether some of the trees hold a fault. -/
def anyHasError : List Tree → Bool
  | [] => false
  | tree :: rest => hasError tree || anyHasError rest

end

mutual

/-- How many nodes a tree has. -/
def size : Tree → Nat
  | node _ children => 1 + sizeAll children

/-- How many nodes several trees have. -/
def sizeAll : List Tree → Nat
  | [] => 0
  | tree :: rest => size tree + sizeAll rest

end

theorem size_eq (tree : Tree) : tree.size = 1 + sizeAll tree.children := by
  cases tree
  rfl

theorem sizeAll_append (first second : List Tree) :
    sizeAll (first ++ second) = sizeAll first + sizeAll second := by
  induction first with
  | nil => simp [sizeAll]
  | cons tree rest hypothesis => simp [sizeAll, hypothesis, Nat.add_assoc]

/-- The first fault of the trees still to be searched, the next one first. What is below a tree that holds
no fault is passed over. -/
def search : List Tree → Option Head
  | [] => none
  | tree :: rest =>
    if tree.head.isFault then some tree.head
    else if tree.hasError then search (tree.children ++ rest)
    else search rest
termination_by trees => sizeAll trees
decreasing_by
  all_goals
    have equal := tree.size_eq
    simp only [sizeAll, sizeAll_append]
    omega

/-- The first fault of a tree in order. -/
def firstFault? (tree : Tree) : Option Head :=
  search [tree]

mutual

/-- The nodes of a tree, each before those below it. -/
def heads : Tree → List Head
  | node head children => head :: headsOf children

/-- The nodes of several trees in order. -/
def headsOf : List Tree → List Head
  | [] => []
  | tree :: rest => heads tree ++ headsOf rest

end

theorem heads_eq (tree : Tree) : tree.heads = tree.head :: headsOf tree.children := by
  cases tree
  rfl

theorem headsOf_append (first second : List Tree) :
    headsOf (first ++ second) = headsOf first ++ headsOf second := by
  induction first with
  | nil => rfl
  | cons tree rest hypothesis => simp [headsOf, hypothesis]

mutual

/-- No node of a tree without a fault is one. -/
theorem find?_heads_of_not_hasError :
    (tree : Tree) → tree.hasError = false → tree.heads.find? Head.isFault = none
  | node head children, sound => by
    simp only [hasError, Bool.or_eq_false_iff] at sound
    simp [heads, sound.1.1, find?_headsOf_of_not_anyHasError children sound.2]

/-- No node of trees without a fault is one. -/
theorem find?_headsOf_of_not_anyHasError :
    (trees : List Tree) → anyHasError trees = false → (headsOf trees).find? Head.isFault = none
  | [], _ => rfl
  | tree :: rest, sound => by
    simp only [anyHasError, Bool.or_eq_false_iff] at sound
    simp only [headsOf, List.find?_append, find?_heads_of_not_hasError tree sound.1,
      find?_headsOf_of_not_anyHasError rest sound.2, Option.or_none]

end

/-- The search finds the first fault among all nodes. -/
theorem search_eq (trees : List Tree) : search trees = (headsOf trees).find? Head.isFault := by
  fun_induction search trees with
  | case1 => rfl
  | case2 tree rest fault => simp [headsOf, heads_eq, fault]
  | case3 tree rest sound _ hypothesis =>
    rw [hypothesis, headsOf_append, headsOf, heads_eq, List.cons_append, List.find?_cons_of_neg sound]
  | case4 tree rest _ clean hypothesis =>
    rw [hypothesis, headsOf, List.find?_append,
      find?_heads_of_not_hasError tree (Bool.eq_false_iff.mpr clean), Option.none_or]

/-- The first fault is the first among all nodes. -/
theorem firstFault?_eq (tree : Tree) : tree.firstFault? = tree.heads.find? Head.isFault := by
  rw [firstFault?, search_eq, headsOf, headsOf, List.append_nil]

end Tree

end UnsafeCensus.Syntax
