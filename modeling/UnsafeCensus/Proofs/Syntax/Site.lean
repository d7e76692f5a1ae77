/-
**Sites of a concrete tree.**

A site is a named node of a tree with what stands around it: the nodes above it and the named nodes before it
below the same node. The sites of a tree are met in pre-order through named nodes, and a walk may leave out
all that is below some nodes.

* `Site`: the sites;
* `sitesFrom`, `Tree.sites`: the sites of a tree in order, and those with nothing left out;
* `Tree.InRange`: every node covers bytes of the source;
* `mem_heads_of_mem_sitesFrom`: each site is a node of the tree;
* `filter_sitesFrom_eq`: a walk that leaves some nodes out misses no site of a kind that is not below them.
-/

import Mathlib
import UnsafeCensus.Syntax.Tree

namespace UnsafeCensus.Syntax

/-! ### Ranges -/

/-- A node covers bytes of a source of some size. -/
def Head.InRange (size : Nat) (head : Head) : Prop :=
  0 ≤ head.start ∧ head.start ≤ head.stop ∧ head.stop ≤ size

instance (size : Nat) (head : Head) : Decidable (head.InRange size) :=
  inferInstanceAs (Decidable (_ ∧ _ ∧ _))

/-- Every node of a tree covers bytes of a source of some size. -/
def Tree.InRange (size : Nat) (tree : Tree) : Prop :=
  ∀ head ∈ tree.heads, head.InRange size

instance (size : Nat) (tree : Tree) : Decidable (tree.InRange size) :=
  inferInstanceAs (Decidable (∀ head ∈ tree.heads, head.InRange size))

/-! ### Sites -/

/-- A node of a tree with what stands around it. -/
structure Site where
  /-- The nodes above, the nearest first. -/
  above : List Tree
  /-- The named nodes before it below the same node, the nearest first. -/
  before : List Tree
  node : Tree

mutual

/-- The sites of a tree, each before those below it; nothing is looked at below a closed node. -/
def sitesFrom (closed : Tree → Bool) (above before : List Tree) : Tree → List Site
  | .node head children =>
    ⟨above, before, .node head children⟩
      :: if closed (.node head children) then []
        else sitesBelow closed (.node head children :: above) [] children

/-- The sites of the named trees among several. -/
def sitesBelow (closed : Tree → Bool) (above before : List Tree) : List Tree → List Site
  | [] => []
  | tree :: rest =>
    if tree.head.named then
      sitesFrom closed above before tree ++ sitesBelow closed above (tree :: before) rest
    else sitesBelow closed above before rest

end

/-- No node is closed. -/
def allOpen : Tree → Bool :=
  fun _ => false

/-- All sites of a tree. -/
def Tree.sites (tree : Tree) : List Site :=
  sitesFrom allOpen [] [] tree

theorem sitesFrom_allOpen (above before : List Tree) (head : Head) (children : List Tree) :
    sitesFrom allOpen above before (.node head children)
      = ⟨above, before, .node head children⟩
        :: sitesBelow allOpen (.node head children :: above) [] children := by
  rw [sitesFrom]
  rfl

mutual

/-- A site of a tree is one of its nodes. -/
theorem mem_heads_of_mem_sitesFrom {closed : Tree → Bool} {site : Site} :
    (above before : List Tree) → (tree : Tree) → site ∈ sitesFrom closed above before tree →
      site.node.head ∈ tree.heads
  | above, before, .node head children, member => by
    rw [sitesFrom, List.mem_cons] at member
    rw [Tree.heads, List.mem_cons]
    rcases member with rfl | below
    · exact Or.inl rfl
    · by_cases shut : closed (.node head children) = true
      · rw [if_pos shut] at below
        exact absurd below List.not_mem_nil
      · rw [if_neg shut] at below
        exact Or.inr (mem_headsOf_of_mem_sitesBelow _ _ children below)

theorem mem_headsOf_of_mem_sitesBelow {closed : Tree → Bool} {site : Site} :
    (above before : List Tree) → (trees : List Tree) → site ∈ sitesBelow closed above before trees →
      site.node.head ∈ Tree.headsOf trees
  | _, _, [], member => absurd member List.not_mem_nil
  | above, before, tree :: rest, member => by
    rw [Tree.headsOf, List.mem_append]
    rw [sitesBelow] at member
    by_cases named : tree.head.named = true
    · rw [if_pos named, List.mem_append] at member
      exact member.imp (mem_heads_of_mem_sitesFrom above before tree)
        (mem_headsOf_of_mem_sitesBelow above _ rest)
    · rw [if_neg named] at member
      exact Or.inr (mem_headsOf_of_mem_sitesBelow above before rest member)

end

/-! ### Walks that leave nodes out -/

/-- Nothing below a closed node is of a type. -/
def Covers (closed : Tree → Bool) (type : String) (site : Site) : Prop :=
  closed site.node = true →
    ∀ inner ∈ sitesBelow allOpen (site.node :: site.above) [] site.node.children,
      inner.node.type ≠ type

instance (closed : Tree → Bool) (type : String) (site : Site) : Decidable (Covers closed type site) :=
  inferInstanceAs (Decidable (_ → ∀ inner ∈
    sitesBelow allOpen (site.node :: site.above) [] site.node.children, inner.node.type ≠ type))

mutual

/-- When nothing below closed nodes is of a type, a walk that leaves these out meets the same nodes of
this type. -/
theorem filter_sitesFrom_eq {closed : Tree → Bool} {type : String} {keep : Site → Bool}
    (kept : ∀ site, keep site = true → site.node.type = type) :
    (above before : List Tree) → (tree : Tree) →
      (∀ site ∈ sitesFrom allOpen above before tree, Covers closed type site) →
      (sitesFrom closed above before tree).filter keep
        = (sitesFrom allOpen above before tree).filter keep
  | above, before, .node head children, covered => by
    rw [sitesFrom_allOpen] at covered
    rw [sitesFrom_allOpen, sitesFrom, List.filter_cons, List.filter_cons]
    rw [List.forall_mem_cons] at covered
    have below : (if closed (.node head children) then []
          else sitesBelow closed (.node head children :: above) [] children).filter keep
        = (sitesBelow allOpen (.node head children :: above) [] children).filter keep := by
      by_cases shut : closed (.node head children) = true
      · rw [if_pos shut, List.filter_nil, eq_comm, List.filter_eq_nil_iff]
        exact fun inner member keeps => covered.1 shut inner member (kept inner keeps)
      · rw [if_neg shut]
        exact filter_sitesBelow_eq kept _ _ children covered.2
    rw [below]

theorem filter_sitesBelow_eq {closed : Tree → Bool} {type : String} {keep : Site → Bool}
    (kept : ∀ site, keep site = true → site.node.type = type) :
    (above before : List Tree) → (trees : List Tree) →
      (∀ site ∈ sitesBelow allOpen above before trees, Covers closed type site) →
      (sitesBelow closed above before trees).filter keep
        = (sitesBelow allOpen above before trees).filter keep
  | _, _, [], _ => rfl
  | above, before, tree :: rest, covered => by
    rw [sitesBelow] at covered ⊢
    rw [sitesBelow]
    by_cases named : tree.head.named = true
    · rw [if_pos named] at covered
      rw [if_pos named, if_pos named, List.filter_append, List.filter_append]
      rw [List.forall_mem_append] at covered
      rw [filter_sitesFrom_eq kept above before tree covered.1,
        filter_sitesBelow_eq kept above _ rest covered.2]
    · rw [if_neg named] at covered
      rw [if_neg named, if_neg named]
      exact filter_sitesBelow_eq kept above before rest covered

end

end UnsafeCensus.Syntax
