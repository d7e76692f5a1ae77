/-
**Lowering is loading, and then putting the outline together.**

While a tree is lowered nothing but the loading of its modules has an effect. So all modules without a body
may be loaded first, in the order in which they end, and the outline is a function of what was loaded for
them.

* `declarations`: the modules without a body of a tree, in the order in which they are loaded;
* `weave`: the outline of a tree with the parts of these modules;
* `outlineNode_eq`: a node in range always becomes a node of the outline;
* `run_eq`: lowering a tree in range loads its modules and weaves their parts into its outline.
-/

import Mathlib
import UnsafeCensus.Crate.Lowering
import UnsafeCensus.Proofs.Syntax.Site

namespace UnsafeCensus.Crate

open Outline Source Syntax

/-! ### The modules of a tree -/

mutual

/-- The modules without a body of a tree, in the order in which they are loaded. -/
def declarations (data : ByteArray) (position : Position) : Tree → List Declaration
  | .node head children =>
    declarationsOf data (position.below data (.node head children)) children
      ++ if isBodiless (.node head children) then
          [declarationOf data position (.node head children)]
        else []

/-- The modules without a body of the named trees among several. -/
def declarationsOf (data : ByteArray) (position : Position) : List Tree → List Declaration
  | [] => []
  | tree :: rest =>
    if tree.head.named then
      declarations data position tree ++ declarationsOf data (position.past tree) rest
    else declarationsOf data position rest

end

mutual

/-- How many modules without a body a tree has. -/
def moduleCount : Tree → Nat
  | .node head children =>
    moduleCountOf children + if isBodiless (.node head children) then 1 else 0

/-- How many modules without a body the named trees among several have. -/
def moduleCountOf : List Tree → Nat
  | [] => 0
  | tree :: rest =>
    if tree.head.named then moduleCount tree + moduleCountOf rest else moduleCountOf rest

end

mutual

theorem length_declarations (data : ByteArray) :
    (position : Position) → (tree : Tree) →
      (declarations data position tree).length = moduleCount tree
  | position, .node head children => by
    rw [declarations, moduleCount, List.length_append, length_declarationsOf data _ children]
    by_cases bodiless : isBodiless (.node head children) = true
    · rw [if_pos bodiless, if_pos bodiless, List.length_singleton]
    · rw [if_neg bodiless, if_neg bodiless, List.length_nil]

theorem length_declarationsOf (data : ByteArray) :
    (position : Position) → (trees : List Tree) →
      (declarationsOf data position trees).length = moduleCountOf trees
  | _, [] => rfl
  | position, tree :: rest => by
    rw [declarationsOf, moduleCountOf]
    by_cases named : tree.head.named = true
    · rw [if_pos named, if_pos named, List.length_append, length_declarations data position tree,
        length_declarationsOf data _ rest]
    · rw [if_neg named, if_neg named, length_declarationsOf data position rest]

end

/-! ### Weaving -/

/-- The bytes of a node in a space where its file starts at a base. -/
def extentFrom (base : Nat) (head : Head) : Extent :=
  ⟨base + head.start.toNat, base + max head.start.toNat head.stop.toNat,
    Nat.add_le_add_left (Nat.le_max_left _ _) base⟩

mutual

/-- The outline of a tree, with the parts of its modules without a body in the order of loading. -/
def weave (data : ByteArray) (base : Nat) (around : Surroundings) (parts : List (List Node)) :
    Tree → Node
  | .node head children =>
    .mk (kindOf data around (.node head children)) (safetyOf (.node head children))
      (extentFrom base head) head.type
      (if isBodiless (.node head children) then parts.getLastD []
        else weaveAll data base (around.below head.type) parts children)

/-- The outlines of the named trees among several, with the parts of their modules. -/
def weaveAll (data : ByteArray) (base : Nat) (around : Surroundings) (parts : List (List Node)) :
    List Tree → List Node
  | [] => []
  | tree :: rest =>
    if tree.head.named then
      weave data base around (parts.take (moduleCount tree)) tree
        :: weaveAll data base around (parts.drop (moduleCount tree)) rest
    else weaveAll data base around parts rest

end

/-- A node in range always becomes a node of the outline. -/
theorem outlineNode_eq {size : Nat} {tree : Tree} (inRange : tree.head.InRange size)
    (data : ByteArray) (base : Nat) (around : Surroundings) (children : List Node) :
    outlineNode data base around tree children
      = .ok (.mk (kindOf data around tree) (safetyOf tree) (extentFrom base tree.head) tree.type
          children) := by
  obtain ⟨nonnegative, ordered, _⟩ := inRange
  have extent : Extent.of tree.head.start tree.head.stop
      = .ok ⟨tree.head.start.toNat, tree.head.stop.toNat, by omega⟩ := by
    rw [Extent.of, dif_neg (by omega), dif_neg (by omega)]
  have greatest : max tree.head.start.toNat tree.head.stop.toNat = tree.head.stop.toNat :=
    Nat.max_eq_right (by omega)
  simp only [outlineNode, extent, bind, Except.bind, Extent.shifted_nat, pure, Except.pure,
    extentFrom, greatest, Nat.add_comm base]

/-- After a traversal only lists of its length have to be looked at. -/
theorem mapM_bind_congr {m : Type → Type} [Monad m] [LawfulMonad m] {α β γ : Type}
    (visit : α → m β) {items : List α} {first second : List β → m γ}
    (same : ∀ results, results.length = items.length → first results = second results) :
    items.mapM visit >>= first = items.mapM visit >>= second := by
  induction items generalizing first second with
  | nil =>
    rw [List.mapM_nil, pure_bind, pure_bind]
    exact same [] rfl
  | cons item rest hypothesis =>
    simp only [List.mapM_cons, bind_assoc, pure_bind]
    exact bind_congr fun result => hypothesis fun results length => same _ (by simp [length])

namespace Lowering

variable {σ : Type}

mutual

/-- Lowering a tree in range loads its modules and weaves their parts into its outline. -/
theorem run_eq (load : Declaration → Lowering σ (List Node)) (data : ByteArray) (base size : Nat) :
    (position : Position) → (tree : Tree) → tree.InRange size →
      run load data base position tree = do
        let parts ← (declarations data position tree).mapM load
        pure (weave data base position.around parts tree)
  | position, .node head children, inRange => by
    rw [Tree.InRange, Tree.heads, List.forall_mem_cons] at inRange
    have inner := runAll_eq load data base size (position.below data (.node head children)) children
      inRange.2
    have top : (Syntax.Tree.node head children).head.InRange size := inRange.1
    have node := fun parts => outlineNode_eq top data base position.around parts
    simp only [run, inner, node, declarations]
    by_cases bodiless : isBodiless (.node head children) = true
    · simp only [if_pos bodiless, weave, List.mapM_append, List.mapM_cons, List.mapM_nil,
        bind_assoc, pure_bind, List.getLastD_concat]
      rfl
    · simp only [if_neg bodiless, weave, List.append_nil, bind_assoc, pure_bind]
      rfl

theorem runAll_eq (load : Declaration → Lowering σ (List Node)) (data : ByteArray)
    (base size : Nat) :
    (position : Position) → (trees : List Tree) → (∀ head ∈ Tree.headsOf trees, head.InRange size) →
      runAll load data base position trees = do
        let parts ← (declarationsOf data position trees).mapM load
        pure (weaveAll data base position.around parts trees)
  | position, [], _ => by
    simp [runAll, declarationsOf, weaveAll]
  | position, tree :: rest, inRange => by
    rw [Tree.headsOf, List.forall_mem_append] at inRange
    have first := run_eq load data base size position tree inRange.1
    rw [runAll, declarationsOf]
    by_cases named : tree.head.named = true
    · have others := runAll_eq load data base size (position.past tree) rest inRange.2
      rw [if_pos named, if_pos named, first, others]
      simp only [List.mapM_append, bind_assoc, pure_bind]
      -- The parts of the first tree are as many as it has modules, so they are what it takes.
      refine mapM_bind_congr load fun parts length => bind_congr fun more => ?_
      rw [length_declarations] at length
      rw [weaveAll, if_pos named, List.take_left' length, List.drop_left' length]
      rfl
    · have others := runAll_eq load data base size position rest inRange.2
      rw [if_neg named, if_neg named, others]
      refine bind_congr fun parts => ?_
      rw [weaveAll, if_neg named]

end

end Lowering

end UnsafeCensus.Crate
