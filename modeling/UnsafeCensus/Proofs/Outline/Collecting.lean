/-
**What a walk collects.**

A walk keeps the nodes still to be met in a list and takes the first one each time, with the nodes right below it
put in its place. It meets the nodes of an outline in order, so what it collects is told by recursion on the outline,
and also by looking through all nodes of the outline that is left when its macros are taken away.

* `visited_eq`, `count_eq`: the nodes that are met are those of the outline in order;
* `foldl_collect`: outlines that are shown in turn add their regions in turn;
* `regionsBelow_eq_ite`: the regions of an outline by its kinds and markings;
* `withoutMacros?`: an outline without its macros;
* `filterMap_region?_withoutMacros?`: its nodes that are regions are the regions of the outline;
* `foldl_collect_eq`: all this of any outlines, after any regions.
-/

import Mathlib
import UnsafeCensus.Outline.Regions

namespace UnsafeCensus.Outline

open Source

/-! ### The nodes that are met -/

namespace Node

theorem preorderAll_append (first second : List Node) :
    preorderAll (first ++ second) = preorderAll first ++ preorderAll second := by
  induction first with
  | nil => rfl
  | cons node rest hypothesis => simp [preorderAll, hypothesis]

theorem preorder_eq (node : Node) : node.preorder = node :: preorderAll node.children := by
  cases node
  rfl

/-- A walk meets the nodes of all outlines in order. -/
theorem visit_eq (met : Array Node) (nodes : List Node) :
    (visit met nodes).toList = met.toList ++ preorderAll nodes := by
  fun_induction visit met nodes with
  | case1 met => simp [preorderAll]
  | case2 met node rest hypothesis =>
    rw [hypothesis, Array.toList_push, preorderAll_append, preorderAll, preorder_eq]
    simp

/-- **The nodes that are met** are those of the outline in order. -/
theorem visited_eq (node : Node) : node.visited = node.preorder := by
  rw [visited, visit_eq, preorderAll, preorderAll]
  simp

/-- As many nodes are met as the outline has. -/
theorem count_eq (node : Node) : node.count = node.size := by
  rw [count, visited_eq, length_preorder]

theorem sizeAll_eq_sum (nodes : List Node) : sizeAll nodes = (nodes.map size).sum := by
  induction nodes with
  | nil => rfl
  | cons node rest hypothesis => rw [sizeAll, hypothesis, List.map_cons, List.sum_cons]

end Node

/-! ### The regions that are found -/

/-- One outline more adds its regions. -/
theorem collect_eq (found : List Extent) (node : Node) :
    collect found node = found ++ node.regionsBelow := by
  rw [collect, walk_eq, regionsOfAll_singleton]

/-- **Outlines that are shown in turn** add their regions in turn. -/
theorem foldl_collect (found : List Extent) (nodes : List Node) :
    nodes.foldl collect found = found ++ nodes.flatMap Node.regionsBelow := by
  induction nodes generalizing found with
  | nil => simp
  | cons node rest hypothesis =>
    rw [List.foldl_cons, hypothesis, collect_eq, List.flatMap_cons, List.append_assoc]

/-- A visitor keeps what is collected. -/
theorem found_foldl_visit (visitor : Visitor) (nodes : List Node) :
    (nodes.foldl Visitor.visit visitor).found = nodes.foldl collect visitor.found := by
  induction nodes generalizing visitor with
  | nil => rfl
  | cons node rest hypothesis => exact hypothesis (visitor.visit node)

theorem regionsOfAll_eq_flatMap (nodes : List Node) :
    Node.regionsOfAll nodes = nodes.flatMap Node.regionsBelow := by
  induction nodes with
  | nil => rfl
  | cons node rest hypothesis => rw [Node.regionsOfAll, hypothesis, List.flatMap_cons]

/-- The kinds of the nodes that are regions when they are marked as unsafe. -/
def regionKinds : List Kind :=
  [.function, .traitItem, .blanketImpl, .implItem, .block]

theorem toList_region? (node : Node) :
    node.region?.toList
      = if node.kind ∈ regionKinds ∧ node.safety = .markedUnsafe then [node.extent] else [] := by
  have counts : node.kind.countsWhenUnsafe = true ↔ node.kind ∈ regionKinds := by
    cases node.kind <;> decide
  have marked : (node.kind.countsWhenUnsafe && node.safety == .markedUnsafe) = true
      ↔ node.kind ∈ regionKinds ∧ node.safety = .markedUnsafe := by
    rw [Bool.and_eq_true, counts, beq_iff_eq]
  unfold Node.region?
  by_cases region : node.kind ∈ regionKinds ∧ node.safety = .markedUnsafe
  · rw [if_pos (marked.mpr region), if_pos region]
    rfl
  · rw [if_neg (mt marked.mp region), if_neg region]
    rfl

/-- **The regions of an outline**: none of a macro, otherwise its own and those of the outlines right below it. -/
theorem regionsBelow_eq_ite (node : Node) :
    node.regionsBelow
      = if node.kind = .macroCall then []
        else (if node.kind ∈ regionKinds ∧ node.safety = .markedUnsafe then [node.extent] else [])
          ++ node.children.flatMap Node.regionsBelow := by
  by_cases macroNode : node.kind = .macroCall
  · rw [if_pos macroNode, regionsBelow_of_isOpaque (Kind.isOpaque_iff.mpr macroNode)]
  · rw [if_neg macroNode, regionsBelow_eq (mt Kind.isOpaque_iff.mp macroNode), toList_region?,
      regionsOfAll_eq_flatMap]

/-! ### Outlines without macros -/

namespace Node

mutual

/-- The outline without its macros and what is below them; nothing is left of a macro. -/
def withoutMacros? : Node → Option Node
  | mk kind safety extent label children =>
    if kind = .macroCall then none else some (mk kind safety extent label (withoutMacros children))

/-- What is left of several outlines. -/
def withoutMacros : List Node → List Node
  | [] => []
  | node :: rest => (withoutMacros? node).toList ++ withoutMacros rest

end

end Node

mutual

/-- **The nodes that are regions** of an outline without its macros are the regions of the outline. -/
theorem filterMap_region?_withoutMacros? : (node : Node) →
    (Node.preorderAll node.withoutMacros?.toList).filterMap Node.region? = node.regionsBelow
  | .mk kind safety extent label children => by
    by_cases macroNode : kind = .macroCall
    · subst macroNode
      rfl
    · have shown : ¬ kind.isOpaque = true := mt Kind.isOpaque_iff.mp macroNode
      have own : (Node.mk kind safety extent label (Node.withoutMacros children)).region?
          = (Node.mk kind safety extent label children).region? := rfl
      rw [Node.withoutMacros?, if_neg macroNode, Option.toList_some, Node.preorderAll, Node.preorder,
        Node.preorderAll, List.append_nil, Node.regionsBelow, if_neg shown,
        ← filterMap_region?_withoutMacros children, ← own, List.filterMap_cons]
      cases (Node.mk kind safety extent label (Node.withoutMacros children)).region? <;> rfl

theorem filterMap_region?_withoutMacros : (nodes : List Node) →
    (Node.preorderAll (Node.withoutMacros nodes)).filterMap Node.region? = Node.regionsOfAll nodes
  | [] => rfl
  | node :: rest => by
    rw [Node.withoutMacros, Node.preorderAll_append, List.filterMap_append,
      filterMap_region?_withoutMacros? node, filterMap_region?_withoutMacros rest, Node.regionsOfAll]

end

theorem regionsBelow_eq_filterMap (node : Node) :
    node.regionsBelow = (node.withoutMacros?.elim [] Node.visited).filterMap Node.region? := by
  rw [← filterMap_region?_withoutMacros?]
  cases node.withoutMacros? with
  | none => rfl
  | some left => simp [Node.preorderAll, Node.visited_eq]

/-- **What a walk collects.** Outlines that are shown in turn, to the walk or to a visitor, add their regions in turn
after those already there. The regions of an outline are told by recursion on it, and are those among the nodes met in
the outline without its macros. As many nodes are met as the outline has. -/
theorem foldl_collect_eq :
    (∀ (found : List Extent) (nodes : List Node),
        nodes.foldl collect found = found ++ nodes.flatMap Node.regionsBelow
          ∧ (nodes.foldl Visitor.visit ⟨found⟩).found = found ++ nodes.flatMap Node.regionsBelow)
      ∧ (∀ node : Node,
          node.regionsBelow
            = if node.kind = .macroCall then []
              else (if node.kind ∈ regionKinds ∧ node.safety = .markedUnsafe then [node.extent] else [])
                ++ node.children.flatMap Node.regionsBelow)
      ∧ (∀ node : Node,
          node.regionsBelow = (node.withoutMacros?.elim [] Node.visited).filterMap Node.region?)
      ∧ ∀ node : Node, node.count = node.size ∧ node.size = 1 + (node.children.map Node.size).sum := by
  refine ⟨fun found nodes => ⟨foldl_collect found nodes, ?_⟩, regionsBelow_eq_ite,
    regionsBelow_eq_filterMap, fun node => ⟨node.count_eq, ?_⟩⟩
  · rw [found_foldl_visit, foldl_collect]
  · rw [node.size_eq, Node.sizeAll_eq_sum]

/-- A region that is found twice is kept twice, and what is below a macro is passed over. -/
example :
    let block (start : Nat) : Node := .mk .block .markedUnsafe ⟨start, start + 2, by omega⟩ "" []
    let outline : Node := .mk .crate .safe ⟨0, 9, by decide⟩ ""
      [block 1, .mk .macroCall .safe ⟨3, 6, by decide⟩ "" [block 4], block 1]
    ([outline, block 7].foldl collect [⟨0, 0, by decide⟩]).map Extent.start = [0, 1, 1, 7]
      ∧ outline.count = 5 := by
  decide +kernel

end UnsafeCensus.Outline
