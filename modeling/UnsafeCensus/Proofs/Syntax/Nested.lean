/-
**Well nested trees.**

A tree is well nested when each node covers a range of bytes, the range of a node lies inside that of the node
above it, and a node starts at or after the end of the sibling before it. Of two nodes in pre-order the later
one then is inside the earlier one or starts at or after its end.

* `Tree.Nested`: the well nested trees;
* `Tree.WellNested`: those whose top covers bytes of a source of some size;
* `Nested.inside`, `nestedAll_apart`: a node is inside the top, and before the nodes of later siblings;
* `WellNested.inRange`: every node of such a tree covers bytes of the source.
-/

import Mathlib
import UnsafeCensus.Proofs.Syntax.Site

namespace UnsafeCensus.Syntax

namespace Head

/-- The range of a node lies inside that of another. -/
def Inside (inner outer : Head) : Prop :=
  outer.start ≤ inner.start ∧ inner.stop ≤ outer.stop

/-- A node starts at or after the end of another. -/
def Before (first second : Head) : Prop :=
  first.stop ≤ second.start

instance (inner outer : Head) : Decidable (inner.Inside outer) :=
  inferInstanceAs (Decidable (_ ∧ _))

instance (first second : Head) : Decidable (first.Before second) :=
  inferInstanceAs (Decidable (_ ≤ _))

end Head

namespace Tree

mutual

/-- Each node covers a range inside that of the node above it, and starts at or after the end of the sibling
before it. -/
def Nested : Tree → Prop
  | node head children =>
    head.start ≤ head.stop
      ∧ (∀ child ∈ children, child.head.Inside head)
      ∧ children.IsChain (fun first second => first.head.Before second.head)
      ∧ NestedAll children

/-- Each of several trees is nested. -/
def NestedAll : List Tree → Prop
  | [] => True
  | tree :: rest => tree.Nested ∧ NestedAll rest

end

mutual

instance Nested.decidable : (tree : Tree) → Decidable tree.Nested
  | node head children =>
    have := NestedAll.decidable children
    inferInstanceAs (Decidable (head.start ≤ head.stop
      ∧ (∀ child ∈ children, child.head.Inside head)
      ∧ children.IsChain (fun first second => first.head.Before second.head)
      ∧ NestedAll children))

instance NestedAll.decidable : (trees : List Tree) → Decidable (NestedAll trees)
  | [] => inferInstanceAs (Decidable True)
  | tree :: rest =>
    have := Nested.decidable tree
    have := NestedAll.decidable rest
    inferInstanceAs (Decidable (tree.Nested ∧ NestedAll rest))

end

/-- A nested tree whose top covers bytes of a source of some size. -/
def WellNested (size : Nat) (tree : Tree) : Prop :=
  tree.head.InRange size ∧ tree.Nested

instance (size : Nat) (tree : Tree) : Decidable (tree.WellNested size) :=
  inferInstanceAs (Decidable (_ ∧ _))

theorem Nested.ordered {tree : Tree} (nested : tree.Nested) : tree.head.start ≤ tree.head.stop := by
  cases tree with
  | node head children =>
    rw [Nested] at nested
    exact nested.1

mutual

/-- Every node of a nested tree covers a range inside that of the top. -/
theorem Nested.inside : {tree : Tree} → tree.Nested →
    ∀ head ∈ tree.heads, head.start ≤ head.stop ∧ head.Inside tree.head
  | node head children, nested => by
    rw [Nested] at nested
    obtain ⟨ordered, within, _, below⟩ := nested
    rw [heads, List.forall_mem_cons]
    refine ⟨⟨ordered, le_rfl, le_rfl⟩, fun inner member => ?_⟩
    obtain ⟨child, known, ordered, lower, upper⟩ := nestedAll_inside below inner member
    exact ⟨ordered, (within child known).1.trans lower, upper.trans (within child known).2⟩

/-- Every node of several nested trees covers a range inside that of one of their tops. -/
theorem nestedAll_inside : {trees : List Tree} → NestedAll trees →
    ∀ head ∈ headsOf trees, ∃ tree ∈ trees, head.start ≤ head.stop ∧ head.Inside tree.head
  | [], _ => fun _ member => absurd member List.not_mem_nil
  | tree :: rest, nested => by
    rw [NestedAll] at nested
    rw [headsOf, List.forall_mem_append]
    refine ⟨fun inner member => ⟨tree, List.mem_cons_self, nested.1.inside inner member⟩,
      fun inner member => ?_⟩
    obtain ⟨other, known, inside⟩ := nestedAll_inside nested.2 inner member
    exact ⟨other, List.mem_cons_of_mem _ known, inside⟩

end

theorem NestedAll.of_mem {trees : List Tree} (nested : NestedAll trees) {tree : Tree}
    (member : tree ∈ trees) : tree.Nested := by
  induction trees with
  | nil => exact absurd member List.not_mem_nil
  | cons first rest hypothesis =>
    rw [NestedAll] at nested
    rcases List.mem_cons.mp member with rfl | member
    · exact nested.1
    · exact hypothesis nested.2 member

theorem nestedAll_iff {trees : List Tree} : NestedAll trees ↔ ∀ tree ∈ trees, tree.Nested := by
  refine ⟨fun nested tree member => nested.of_mem member, fun all => ?_⟩
  induction trees with
  | nil => trivial
  | cons tree rest hypothesis =>
    rw [List.forall_mem_cons] at all
    exact ⟨all.1, hypothesis all.2⟩

/-- A top is before the tops of all later siblings: those between them cover ranges. -/
theorem before_of_isChain {tree : Tree} {rest : List Tree} (nested : NestedAll (tree :: rest))
    (chain : (tree :: rest).IsChain fun first second => first.head.Before second.head) :
    ∀ other ∈ rest, tree.head.Before other.head := by
  induction rest generalizing tree with
  | nil => exact fun _ member => absurd member List.not_mem_nil
  | cons second rest hypothesis =>
    rw [NestedAll] at nested
    rw [List.isChain_cons_cons] at chain
    have later := hypothesis nested.2 chain.2
    have range := (nested.2.of_mem List.mem_cons_self).ordered
    rw [List.forall_mem_cons]
    exact ⟨chain.1, fun other member => (chain.1.trans range).trans (later other member)⟩

/-- The nodes of a tree are before those of its later siblings. -/
theorem nestedAll_apart {tree : Tree} {rest : List Tree} (nested : NestedAll (tree :: rest))
    (chain : (tree :: rest).IsChain fun first second => first.head.Before second.head) :
    ∀ head ∈ tree.heads, ∀ other ∈ headsOf rest, head.Before other := by
  intro head member other later
  have before := before_of_isChain nested chain
  rw [NestedAll] at nested
  obtain ⟨_, _, upper⟩ := nested.1.inside head member
  obtain ⟨sibling, known, _, lower, _⟩ := nestedAll_inside nested.2 other later
  exact (upper.trans (before sibling known)).trans lower

/-- Every node of a well nested tree covers bytes of the source. -/
theorem WellNested.inRange {size : Nat} {tree : Tree} (nested : tree.WellNested size) :
    tree.InRange size := by
  intro head member
  obtain ⟨ordered, lower, upper⟩ := nested.2.inside head member
  exact ⟨nested.1.1.trans lower, ordered, upper.trans nested.1.2.2⟩

end Tree

end UnsafeCensus.Syntax
