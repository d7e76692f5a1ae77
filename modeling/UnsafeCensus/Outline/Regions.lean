/-
**Unsafe regions of an outline.**

A region is a node that is marked as unsafe and whose kind counts. Nothing below a macro is looked at. The
walk keeps the nodes still to be visited in a list, the next one first.

* `Node.region?`: the region that a node is by itself;
* `walk`: the regions of a list of outlines, after those already found;
* `collect`, `regions`: the regions of an outline after others, and by themselves;
* `Visitor`, `Visitor.visit`: what keeps the regions of all outlines that it is shown;
* `regionsBelow`: the same by recursion on the outline;
* `walk_eq`: the walk finds what the recursion finds.
-/

import UnsafeCensus.Outline.Node

namespace UnsafeCensus.Outline

open Source

namespace Node

/-- The bytes of a node that is a region by itself. -/
def region? (node : Node) : Option Extent :=
  if node.kind.countsWhenUnsafe && node.safety == .markedUnsafe then some node.extent else none

mutual

/-- The regions of an outline in order. -/
def regionsBelow : Node → List Extent
  | mk kind safety extent label children =>
    if kind.isOpaque then []
    else (mk kind safety extent label children).region?.toList ++ regionsOfAll children

/-- The regions of several outlines in order. -/
def regionsOfAll : List Node → List Extent
  | [] => []
  | node :: rest => regionsBelow node ++ regionsOfAll rest

end

end Node

/-- The regions of the outlines still to be visited, after those already found. -/
def walk (found : Array Extent) : List Node → Array Extent
  | [] => found
  | node :: rest =>
    if node.kind.isOpaque then walk found rest
    else
      match node.region? with
      | some extent => walk (found.push extent) (node.children ++ rest)
      | none => walk found (node.children ++ rest)
termination_by nodes => Node.sizeAll nodes
decreasing_by
  all_goals
    have pos := node.size_pos
    have equal := node.size_eq
    simp only [Node.sizeAll, Node.sizeAll_append]
    omega

/-- The regions of an outline after others. -/
def collect (found : List Extent) (node : Node) : List Extent :=
  (walk found.toArray [node]).toList

/-- The regions of an outline. -/
def regions (node : Node) : List Extent :=
  collect [] node

/-- What keeps the regions of all outlines that it is shown. -/
structure Visitor where
  found : List Extent := []

/-- The visitor after one more outline. -/
def Visitor.visit (visitor : Visitor) (node : Node) : Visitor :=
  ⟨collect visitor.found node⟩

/-- The regions of appended outlines are found one after the other. -/
theorem regionsOfAll_append (first second : List Node) :
    Node.regionsOfAll (first ++ second) = Node.regionsOfAll first ++ Node.regionsOfAll second := by
  induction first with
  | nil => rfl
  | cons node rest hypothesis => simp [Node.regionsOfAll, hypothesis]

theorem regionsOfAll_singleton (node : Node) : Node.regionsOfAll [node] = node.regionsBelow :=
  List.append_nil node.regionsBelow

/-- The regions of a node that hides nothing are its own and those below it. -/
theorem regionsBelow_eq {node : Node} (shown : ¬ node.kind.isOpaque = true) :
    node.regionsBelow = node.region?.toList ++ Node.regionsOfAll node.children := by
  cases node with
  | mk kind safety extent label children => exact if_neg shown

/-- A node that hides what is below it has no regions. -/
theorem regionsBelow_of_isOpaque {node : Node} (hidden : node.kind.isOpaque = true) :
    node.regionsBelow = [] := by
  cases node with
  | mk kind safety extent label children => exact if_pos hidden

/-- The walk finds what the recursion finds. -/
theorem walk_eq (found : Array Extent) (nodes : List Node) :
    (walk found nodes).toList = found.toList ++ Node.regionsOfAll nodes := by
  fun_induction walk found nodes with
  | case1 found => simp [Node.regionsOfAll]
  | case2 found node rest hidden hypothesis =>
    simp [hypothesis, Node.regionsOfAll, regionsBelow_of_isOpaque hidden]
  | case3 found node rest shown extent equal hypothesis =>
    simp [hypothesis, Node.regionsOfAll, regionsBelow_eq shown, regionsOfAll_append, equal]
  | case4 found node rest shown equal hypothesis =>
    simp [hypothesis, Node.regionsOfAll, regionsBelow_eq shown, regionsOfAll_append, equal]

end UnsafeCensus.Outline
