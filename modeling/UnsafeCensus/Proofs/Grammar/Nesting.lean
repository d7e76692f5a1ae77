/-
**What is read is well nested.**

The tokens from one index up to another cover a range of bytes, and the ranges of what is read one after the
other do not overlap. So the trees that a form makes follow one another among the tokens that it reads, and each
node covers a range inside of that of the node above it.

* `Fits`: trees that follow one another among some tokens;
* `fits_append`, `fits_node`: what is read one after the other, and a node around it;
* `Makes.fits`: the trees of a form follow one another;
* `Rule.forall_of_all`: what is checked rule by rule;
* `parse_wellNested`: the tree of any bytes.
-/

import Mathlib
import UnsafeCensus.Grammar.Grammar
import UnsafeCensus.Proofs.Grammar.Derivations
import UnsafeCensus.Proofs.Grammar.Tokens
import UnsafeCensus.Proofs.Syntax.Nested

namespace UnsafeCensus.Grammar

open Syntax

/-! ### The ranges of tokens -/

section Ranges

variable {tokens : Array Token} {token : Token} {index middle next first last : Nat}

theorem startOf_eq (there : tokens[index]? = some token) : startOf tokens index = token.start := by
  rw [startOf, there]

theorem exists_token (below : index < tokens.size) : ∃ token, tokens[index]? = some token :=
  ⟨_, Array.getElem?_eq_getElem below⟩

/-- The end of what is read is that of the last token. -/
theorem stopOf_eq (read : index < next) (there : tokens[next - 1]? = some token) :
    stopOf tokens index next = token.stop := by
  rw [stopOf, if_pos read, there]
  rfl

theorem stopOf_self : stopOf tokens index index = startOf tokens index := by
  rw [stopOf, if_neg (Nat.lt_irrefl index)]

theorem stop_le_startOf (ordered : Ordered first last tokens) (there : tokens[index]? = some token) :
    token.stop ≤ startOf tokens (index + 1) := by
  cases after : tokens[index + 1]? with
  | some other =>
    rw [startOf_eq after]
    exact ordered.follows there after
  | none =>
    have size : tokens.size - 1 = index := by
      have below := (Array.getElem?_eq_some_iff.mp there).1
      rw [Array.getElem?_eq_none_iff] at after
      omega
    rw [startOf, after, Array.back?_eq_getElem?, size, there]
    exact le_rfl

theorem startOf_le_succ (ordered : Ordered first last tokens) (below : index < tokens.size) :
    startOf tokens index ≤ startOf tokens (index + 1) := by
  obtain ⟨token, there⟩ := exists_token below
  rw [startOf_eq there]
  exact (ordered.covers there).2.1.trans (stop_le_startOf ordered there)

/-- Tokens start in order. -/
theorem startOf_mono (ordered : Ordered first last tokens) (forth : index ≤ next)
    (inside : next ≤ tokens.size) : startOf tokens index ≤ startOf tokens next := by
  induction next, forth using Nat.le_induction with
  | base => exact le_rfl
  | succ next _ hypothesis =>
    exact (hypothesis (Nat.le_of_succ_le inside)).trans (startOf_le_succ ordered inside)

/-- What is read ends at or after its start. -/
theorem startOf_le_stopOf (ordered : Ordered first last tokens) (forth : index ≤ next)
    (inside : next ≤ tokens.size) : startOf tokens index ≤ stopOf tokens index next := by
  rcases Nat.eq_or_lt_of_le forth with rfl | read
  · exact stopOf_self.ge
  · obtain ⟨token, there⟩ := exists_token (show next - 1 < tokens.size by omega)
    rw [stopOf_eq read there]
    have before := startOf_mono ordered (show index ≤ next - 1 by omega) (by omega)
    rw [startOf_eq there] at before
    exact before.trans (ordered.covers there).2.1

/-- What is read ends at or before the start of the next token. -/
theorem stopOf_le_startOf (ordered : Ordered first last tokens) (forth : index ≤ next)
    (inside : next ≤ tokens.size) : stopOf tokens index next ≤ startOf tokens next := by
  rcases Nat.eq_or_lt_of_le forth with rfl | read
  · exact stopOf_self.le
  · obtain ⟨token, there⟩ := exists_token (show next - 1 < tokens.size by omega)
    have after := stop_le_startOf ordered there
    rwa [← stopOf_eq read there, Nat.sub_add_cancel (by omega)] at after

theorem stopOf_of_lt (forth : index ≤ middle) (read : middle < next) :
    stopOf tokens middle next = stopOf tokens index next := by
  rw [stopOf, stopOf, if_pos read, if_pos (forth.trans_lt read)]

theorem stopOf_mono (ordered : Ordered first last tokens) (forth : index ≤ middle)
    (further : middle ≤ next) (inside : next ≤ tokens.size) :
    stopOf tokens index middle ≤ stopOf tokens index next := by
  rcases Nat.eq_or_lt_of_le further with rfl | read
  · exact le_rfl
  · calc stopOf tokens index middle
        ≤ startOf tokens middle := stopOf_le_startOf ordered forth (further.trans inside)
      _ ≤ stopOf tokens middle next := startOf_le_stopOf ordered further inside
      _ = stopOf tokens index next := stopOf_of_lt forth read

/-- What is read lies between the two offsets. -/
theorem bounds_of_lt (ordered : Ordered first last tokens) (read : index < next)
    (inside : next ≤ tokens.size) : first ≤ startOf tokens index ∧ stopOf tokens index next ≤ last := by
  obtain ⟨token, there⟩ := exists_token (read.trans_le inside)
  obtain ⟨other, there'⟩ := exists_token (show next - 1 < tokens.size by omega)
  rw [startOf_eq there, stopOf_eq read there']
  exact ⟨(ordered.covers there).1, (ordered.covers there').2.2⟩

end Ranges

/-! ### Trees among tokens -/

/-- Nested trees follow one another among the tokens from one index up to another; where no token is read,
there are none. -/
structure Fits (tokens : Array Token) (index next : Nat) (trees : List Tree) : Prop where
  nested : ∀ tree ∈ trees, tree.Nested
  apart : trees.IsChain fun first second => first.head.Before second.head
  within : ∀ tree ∈ trees,
    (startOf tokens index : Int) ≤ tree.head.start ∧ tree.head.stop ≤ (stopOf tokens index next : Int)
  read : trees ≠ [] → index < next

variable {tokens : Array Token} {index middle next first last : Nat} {trees others : List Tree}

theorem fits_nil : Fits tokens index next [] :=
  ⟨nofun, .nil, nofun, fun none => absurd rfl none⟩

/-- Trees of what is read one after the other. -/
theorem fits_append (ordered : Ordered first last tokens) (before : Fits tokens index middle trees)
    (after : Fits tokens middle next others) (forth : index ≤ middle) (further : middle ≤ next)
    (inside : next ≤ tokens.size) : Fits tokens index next (trees ++ others) := by
  have starts := startOf_mono ordered forth (further.trans inside)
  have gap := stopOf_le_startOf ordered forth (further.trans inside)
  have stops := stopOf_mono ordered forth further inside
  refine ⟨fun tree member => ?_, ?_, fun tree member => ?_, fun some => ?_⟩
  · exact (List.mem_append.mp member).elim (before.nested tree) (after.nested tree)
  · refine List.isChain_append.mpr ⟨before.apart, after.apart, fun one known two known' => ?_⟩
    have stop := (before.within one (List.mem_of_getLast? known)).2
    have start := (after.within two (List.mem_of_head? known')).1
    show one.head.stop ≤ two.head.start
    omega
  · rcases List.mem_append.mp member with member | member
    · obtain ⟨start, stop⟩ := before.within tree member
      exact ⟨start, by omega⟩
    · obtain ⟨start, stop⟩ := after.within tree member
      rw [stopOf_of_lt forth (after.read (List.ne_nil_of_mem member))] at stop
      exact ⟨by omega, stop⟩
  · -- the first part may read tokens without a tree, so the trees tell which part took one
    by_cases none : trees = []
    · have some : others ≠ [] := fun empty => some (by rw [none, empty, List.nil_append])
      exact forth.trans_lt (after.read some)
    · exact (before.read none).trans_le further

/-- A node around trees. -/
theorem fits_node (ordered : Ordered first last tokens) (fits : Fits tokens index next trees)
    (read : index < next) (inside : next ≤ tokens.size) (type : String) (named : Bool) :
    Fits tokens index next [.node (headOf tokens type named index next) trees] := by
  have range := startOf_le_stopOf ordered read.le inside
  refine ⟨fun tree member => ?_, .singleton _, fun tree member => ?_, fun _ => read⟩
  · rw [List.mem_singleton.mp member, Tree.Nested]
    exact ⟨Int.ofNat_le.mpr range, fits.within, fits.apart, Tree.nestedAll_iff.mpr fits.nested⟩
  · rw [List.mem_singleton.mp member]
    exact ⟨le_rfl, le_rfl⟩

theorem head_underField (name : String) (tree : Tree) :
    (underField name tree).head = { tree.head with field := some name } := by
  cases tree
  rfl

theorem nested_underField {name : String} {tree : Tree} (nested : tree.Nested) :
    (underField name tree).Nested := by
  cases tree with
  | node head children =>
    rw [Tree.Nested] at nested
    rw [underField, Tree.Nested]
    exact nested

theorem fits_map_underField (fits : Fits tokens index next trees) (name : String) :
    Fits tokens index next (trees.map (underField name)) := by
  refine ⟨List.forall_mem_map.mpr fun tree member => nested_underField (fits.nested tree member), ?_,
    List.forall_mem_map.mpr fun tree member => ?_, fun some => fits.read fun none => some (by rw [none]; rfl)⟩
  · rw [List.isChain_map]
    refine fits.apart.imp fun one two before => ?_
    rw [head_underField, head_underField]
    exact before
  · rw [head_underField]
    exact fits.within tree member

/-- **The trees of a form follow one another** among the tokens that it reads, each of them nested. -/
theorem Makes.fits {Rule : Type} {grammar : Rule → Form Rule} {rules : Rule → Bool} {form : Form Rule}
    (ordered : Ordered first last tokens) (firm : Firm grammar rules)
    (makes : Makes grammar tokens form index trees next) (inside : index ≤ tokens.size)
    (nodes : form.firm rules = true) : Fits tokens index next trees := by
  induction makes with
  | nothing | token | many_done => exact fits_nil
  | leaf passes =>
    obtain ⟨_, within, reads⟩ := Test.bounds inside passes
    exact fits_node ordered fits_nil (reads nodes) within _ _
  | both one two before after =>
    rw [Form.firm, Form.everywhere, Bool.and_eq_true] at nodes
    obtain ⟨forth, within, _⟩ := one.bounds firm inside
    obtain ⟨further, within', _⟩ := two.bounds firm within
    exact fits_append ordered (before inside nodes.1) (after within nodes.2) forth further within'
  | either_first _ hypothesis | ahead_present _ hypothesis =>
    rw [Form.firm, Form.everywhere, Bool.and_eq_true] at nodes
    exact hypothesis inside nodes.1
  | either_second _ hypothesis | ahead_absent _ hypothesis =>
    rw [Form.firm, Form.everywhere, Bool.and_eq_true] at nodes
    exact hypothesis inside nodes.2
  | many_more one two before after =>
    obtain ⟨forth, within, _⟩ := one.bounds firm inside
    obtain ⟨further, within', _⟩ := two.bounds firm within
    exact fits_append ordered (before inside nodes) (after within nodes) forth further within'
  | node below hypothesis =>
    rw [Form.firm, Form.everywhere, Bool.and_eq_true] at nodes
    obtain ⟨_, within, reads⟩ := below.bounds firm inside
    exact fits_node ordered (hypothesis inside nodes.2) (reads nodes.1) within _ _
  | field _ hypothesis => exact fits_map_underField (hypothesis inside nodes) _
  | @rule name _ _ _ _ hypothesis => exact hypothesis inside (firm.nodes name)

/-! ### The tree of any bytes -/

/-- The places in which an expression stands. -/
def Context.all : List Context :=
  [⟨false, false⟩, ⟨false, true⟩, ⟨true, false⟩, ⟨true, true⟩]

/-- All rules. -/
def Rule.all : List Rule :=
  List.flatten
    [[.attributeItem, .tree, .ruleTree, .typeArguments, .typeParameters, .bounds, .whereClause, .parameters,
      .suffix, .block, .blockLike, .matchArm, .useTree, .item, .declaration, .declarationList, .statement,
      .source],
     [false, true].map .type, [false, true].map .pattern, Context.all.map .expression,
     Context.all.map .operand]

theorem Rule.mem_all (name : Rule) : name ∈ Rule.all := by
  cases name with
  | type flag | pattern flag => cases flag <;> decide
  | expression context | operand context =>
    obtain ⟨fields, conditions⟩ := context
    cases fields <;> cases conditions <;> decide
  | _ => decide

/-- What is checked rule by rule holds of every rule. -/
theorem Rule.forall_of_all {check : Rule → Bool} (checked : Rule.all.all check = true) (name : Rule) :
    check name = true :=
  List.all_eq_true.mp checked name name.mem_all

/-- The rules that take a token wherever they stand: all but a file, which may be empty, and a pattern, which
may be told only by what is ahead. -/
def advancing : Rule → Bool
  | .source | .pattern _ => false
  | _ => true

theorem firm_grammar : Firm grammar advancing where
  advances name known := by
    have checked : ∀ name, (!advancing name || (grammar name).advances advancing) = true :=
      Rule.forall_of_all (by decide +kernel)
    have checked := checked name
    rwa [known] at checked
  nodes := Rule.forall_of_all (by decide +kernel)

theorem fits_faultFrom (ordered : Ordered first last tokens) (index : Nat) :
    Fits tokens index tokens.size (faultFrom tokens index) := by
  unfold faultFrom
  split_ifs with some
  · exact fits_node ordered fits_nil some le_rfl _ _
  · exact fits_nil

/-- What is read of the tokens of a file, and a fault for those that are left. -/
theorem fits_source (ordered : Ordered first last tokens) (depth : Nat) :
    let (trees, next) := (readRule grammar tokens depth .source 0).getD ([], 0)
    Fits tokens 0 tokens.size (trees ++ faultFrom tokens next) := by
  cases done : readRule grammar tokens depth .source 0 with
  | none => exact fits_faultFrom ordered 0
  | some outcome =>
    obtain ⟨trees, next⟩ := outcome
    have makes := makes_of_readRule done
    obtain ⟨forth, within, _⟩ := makes.bounds firm_grammar (Nat.zero_le _)
    have fits := makes.fits ordered firm_grammar (Nat.zero_le _) (firm_grammar.nodes .source)
    exact fits_append ordered fits (fits_faultFrom ordered next) forth within le_rfl

/-- **The tree of any bytes is well nested**: every node covers a range of these bytes inside of that of the
node above it, and siblings do not overlap. -/
theorem parse_wellNested (data : ByteArray) : (parse data).WellNested data.size := by
  obtain ⟨start, ordered⟩ := ordered_scan data
  have fits := fits_source ordered (((scan data).tokens.size + 1) * rulesPerToken)
  unfold parse
  dsimp only at fits ⊢
  refine ⟨⟨Int.natCast_nonneg _, Int.ofNat_le.mpr start, le_rfl⟩, ?_⟩
  rw [Tree.Nested]
  refine ⟨Int.ofNat_le.mpr start, fun tree member => ?_, fits.apart, Tree.nestedAll_iff.mpr fits.nested⟩
  obtain ⟨lower, upper⟩ := bounds_of_lt ordered (fits.read (List.ne_nil_of_mem member)) le_rfl
  obtain ⟨starts, stops⟩ := fits.within tree member
  exact ⟨(Int.ofNat_le.mpr lower).trans starts, stops.trans (Int.ofNat_le.mpr upper)⟩

/-- Every node of the tree of some bytes covers some of them. -/
theorem parse_inRange (data : ByteArray) : (parse data).InRange data.size :=
  (parse_wellNested data).inRange

end UnsafeCensus.Grammar
