/-
**Outlines.**

An outline is what the census needs of a source: a tree of nodes, each with its kind, its marking and the
bytes it covers.

* `Node`: the nodes;
* `Node.of`: a node of named kind and marking between two offsets;
* `size`, `preorder`: the number of nodes below and including one, and these nodes in order;
* `entries`: the nodes in order with their depths;
* `visit`, `visited`, `count`: the nodes met by a walk that keeps those still to be met in a list, the next one
  first, and how many these are.
-/

import UnsafeCensus.Outline.Kind
import UnsafeCensus.Source.Extent

namespace UnsafeCensus.Outline

open Source

/-- A node of an outline. -/
inductive Node where
  | mk (kind : Kind) (safety : Safety) (extent : Extent) (label : String) (children : List Node)

namespace Node

/-- What the node stands for. -/
def kind : Node → Kind
  | mk kind _ _ _ _ => kind

/-- The marking of the node. -/
def safety : Node → Safety
  | mk _ safety _ _ _ => safety

/-- The bytes that the node covers. -/
def extent : Node → Extent
  | mk _ _ extent _ _ => extent

/-- The name of the syntax that the node was made of. -/
def label : Node → String
  | mk _ _ _ label _ => label

/-- The nodes right below. -/
def children : Node → List Node
  | mk _ _ _ _ children => children

/-- The node of a named kind and marking between two offsets. -/
def of (kind safety : String) (start stop : Int) (children : List Node) : Except Failure Node := do
  let some kind := Kind.ofName? kind | throw (.broken (.knownKind kind))
  let extent ← Extent.of start stop
  let some safety := Safety.ofName? safety | throw (.broken (.knownSafety safety))
  return mk kind safety extent "" children

mutual

/-- How many nodes an outline has. -/
def size : Node → Nat
  | mk _ _ _ _ children => 1 + sizeAll children

/-- How many nodes several outlines have. -/
def sizeAll : List Node → Nat
  | [] => 0
  | node :: rest => size node + sizeAll rest

end

mutual

/-- The nodes of an outline, each before those below it. -/
def preorder : Node → List Node
  | mk kind safety extent label children =>
    mk kind safety extent label children :: preorderAll children

/-- The nodes of several outlines in order. -/
def preorderAll : List Node → List Node
  | [] => []
  | node :: rest => preorder node ++ preorderAll rest

end

mutual

/-- The nodes of an outline in order, with their depths below a depth. -/
def entriesAt (depth : Nat) : Node → List (Nat × Node)
  | mk kind safety extent label children =>
    (depth, mk kind safety extent label children) :: entriesAll (depth + 1) children

/-- The nodes of several outlines in order, with their depths. -/
def entriesAll (depth : Nat) : List Node → List (Nat × Node)
  | [] => []
  | node :: rest => entriesAt depth node ++ entriesAll depth rest

end

/-- The nodes of an outline in order, with their depths. -/
def entries (node : Node) : List (Nat × Node) :=
  node.entriesAt 0

/-- An outline has at least one node. -/
theorem size_pos (node : Node) : 0 < node.size := by
  cases node
  simp only [size]
  omega

/-- The nodes of appended outlines are counted together. -/
theorem sizeAll_append (first second : List Node) :
    sizeAll (first ++ second) = sizeAll first + sizeAll second := by
  induction first with
  | nil => simp [sizeAll]
  | cons node rest hypothesis => simp [sizeAll, hypothesis, Nat.add_assoc]

/-- A node is counted with those right below it. -/
theorem size_eq (node : Node) : node.size = 1 + sizeAll node.children := by
  cases node
  rfl

mutual

/-- The nodes in order are as many as the outline has. -/
theorem length_preorder : (node : Node) → node.preorder.length = node.size
  | mk _ _ _ _ children => by
    simp only [preorder, size, List.length_cons, length_preorderAll children]
    omega

/-- The nodes of several outlines in order are as many as these have. -/
theorem length_preorderAll : (nodes : List Node) → (preorderAll nodes).length = sizeAll nodes
  | [] => rfl
  | node :: rest => by
    simp only [preorderAll, sizeAll, List.length_append, length_preorder node,
      length_preorderAll rest]

end

/-- The nodes of the outlines still to be met, after those already met. -/
def visit (met : Array Node) : List Node → Array Node
  | [] => met
  | node :: rest => visit (met.push node) (node.children ++ rest)
termination_by nodes => sizeAll nodes
decreasing_by
  have equal := node.size_eq
  simp only [sizeAll, sizeAll_append]
  omega

/-- The nodes of an outline in the order in which they are met. -/
def visited (node : Node) : List Node :=
  (visit #[] [node]).toList

/-- How many nodes of an outline are met. -/
def count (node : Node) : Nat :=
  node.visited.length

end Node

end UnsafeCensus.Outline
