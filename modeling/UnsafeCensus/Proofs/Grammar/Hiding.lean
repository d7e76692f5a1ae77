/-
**What is read hides no module.**

The arguments of a macro are tokens without constructs, and a module without a body has no construct but its
visibility and its name. So no macro and no module without a body holds a module in the tree of any bytes.

* `Form.plain`, `Form.yields`: forms that make no module, and forms that make some tree;
* `Form.embodies`: forms that make a body unless they make no module;
* `Clear`: trees in which no macro and no module without a body holds a module;
* `Form.clear`, `Makes.clear`: forms that make such trees;
* `parse_hidesNoModule`: the tree of any bytes.
-/

import Mathlib
import UnsafeCensus.Grammar.Grammar
import UnsafeCensus.Proofs.Crate.Declared
import UnsafeCensus.Proofs.Grammar.Derivations
import UnsafeCensus.Proofs.Grammar.Nesting

namespace UnsafeCensus.Grammar

open Crate Syntax

section Forms

variable {Rule : Type} {grammar : Rule → Form Rule} {tokens : Array Token} {form : Form Rule}
  {index next : Nat} {trees : List Tree} {tree : Tree} {silent sure : Rule → Bool}

/-! ### Forms without modules -/

namespace Form

/-- Whether a form makes no module, given which rules make none. -/
def plain (silent : Rule → Bool) : Form Rule → Bool :=
  everywhere fun
    | leaf _ type => type != "mod_item"
    | node type _ => type != "mod_item"
    | rule name => silent name
    | _ => true

/-- Whether a form makes some tree wherever it stands, given which rules do so. -/
def yields (sure : Rule → Bool) : Form Rule → Bool
  | nothing => false
  | token _ => false
  | leaf _ _ => true
  | both first second => yields sure first || yields sure second
  | either first second => yields sure first && yields sure second
  | ahead _ present absent => yields sure present && yields sure absent
  | many _ => false
  | node _ _ => true
  | field _ form => yields sure form
  | rule name => sure name

/-- Whether a form makes no module unless it makes a body. -/
def embodies (silent sure : Rule → Bool) : Form Rule → Bool
  | both first second => embodies silent sure first && embodies silent sure second
  | either first second => embodies silent sure first && embodies silent sure second
  | ahead _ present absent => embodies silent sure present && embodies silent sure absent
  | field name form => name == "body" && yields sure form || plain silent form
  | form => plain silent form

/-- Whether a macro makes no module, and a module none that a body does not hold. -/
def shows (silent sure : Rule → Bool) : Form Rule → Bool
  | node type form =>
    if type == "macro_invocation" || type == "macro_definition" then plain silent form
    else type != "mod_item" || embodies silent sure form
  | _ => true

/-- Whether no macro and no module without a body holds a module in what a form makes. -/
def clear (silent sure : Rule → Bool) : Form Rule → Bool :=
  everywhere (shows silent sure)

end Form

/-- Some rules make no module and some make a tree, and nothing that a rule makes hides a module. -/
structure Clears (grammar : Rule → Form Rule) (silent sure : Rule → Bool) : Prop where
  plain : ∀ name, silent name = true → (grammar name).plain silent = true
  yields : ∀ name, sure name = true → (grammar name).yields sure = true
  clear : ∀ name, (grammar name).clear silent sure = true

/-! ### What forms make -/

/-- No node of a tree is a module. -/
def Plain (tree : Tree) : Prop :=
  ∀ head ∈ tree.heads, head.type ≠ "mod_item"

theorem forall_headsOf_iff {P : Head → Prop} :
    (∀ head ∈ Tree.headsOf trees, P head) ↔ ∀ tree ∈ trees, ∀ head ∈ tree.heads, P head := by
  induction trees with
  | nil => exact ⟨fun _ => nofun, fun _ => nofun⟩
  | cons tree rest hypothesis =>
    rw [Tree.headsOf, List.forall_mem_append, List.forall_mem_cons, hypothesis]

theorem plain_node {head : Head} (other : head.type ≠ "mod_item") (below : ∀ tree ∈ trees, Plain tree) :
    Plain (.node head trees) := by
  rw [Plain, Tree.heads, List.forall_mem_cons]
  exact ⟨other, forall_headsOf_iff.mpr below⟩

theorem plain_underField (name : String) (plain : Plain tree) : Plain (underField name tree) := by
  cases tree with
  | node head children =>
    rw [Plain, Tree.heads, List.forall_mem_cons] at plain
    rw [Plain, underField, Tree.heads, List.forall_mem_cons]
    exact plain

theorem Makes.plain (rules : ∀ name, silent name = true → (grammar name).plain silent = true)
    (makes : Makes grammar tokens form index trees next) (plain : form.plain silent = true) :
    ∀ tree ∈ trees, Plain tree :=
  makes.forall_of_everywhere
    (fun _ _ other => plain_node (bne_iff_ne.mp other) nofun)
    (fun other _ _ below => plain_node (bne_iff_ne.mp other) below)
    (fun name plain => plain_underField name plain) (fun silent => rules _ silent) plain

theorem Makes.yields (rules : ∀ name, sure name = true → (grammar name).yields sure = true)
    (makes : Makes grammar tokens form index trees next) (yields : form.yields sure = true) :
    trees ≠ [] := by
  induction makes with
  | nothing | token | many_done | many_more => cases yields
  | leaf | node => exact List.cons_ne_nil _ _
  | both _ _ before after =>
    rw [Form.yields, Bool.or_eq_true] at yields
    exact yields.elim (fun one => List.append_ne_nil_of_left_ne_nil (before one) _)
      fun two => List.append_ne_nil_of_right_ne_nil _ (after two)
  | either_first _ hypothesis | ahead_present _ hypothesis =>
    rw [Form.yields, Bool.and_eq_true] at yields
    exact hypothesis yields.1
  | either_second _ hypothesis | ahead_absent _ hypothesis =>
    rw [Form.yields, Bool.and_eq_true] at yields
    exact hypothesis yields.2
  | field _ hypothesis => exact fun none => hypothesis yields (List.map_eq_nil_iff.mp none)
  | @rule name _ _ _ _ hypothesis => exact hypothesis (rules name yields)

/-- A body is made, or no module. -/
theorem Makes.embodies (clears : Clears grammar silent sure)
    (makes : Makes grammar tokens form index trees next) (embodies : form.embodies silent sure = true) :
    (∃ tree ∈ trees, tree.head.field = some "body") ∨ ∀ tree ∈ trees, Plain tree := by
  induction makes with
  | both _ _ before after =>
    rw [Form.embodies, Bool.and_eq_true] at embodies
    rcases before embodies.1 with ⟨tree, member, body⟩ | one
    · exact .inl ⟨tree, List.mem_append_left _ member, body⟩
    · rcases after embodies.2 with ⟨tree, member, body⟩ | two
      · exact .inl ⟨tree, List.mem_append_right _ member, body⟩
      · exact .inr (List.forall_mem_append.mpr ⟨one, two⟩)
  | either_first _ hypothesis | ahead_present _ hypothesis =>
    rw [Form.embodies, Bool.and_eq_true] at embodies
    exact hypothesis embodies.1
  | either_second _ hypothesis | ahead_absent _ hypothesis =>
    rw [Form.embodies, Bool.and_eq_true] at embodies
    exact hypothesis embodies.2
  | field held =>
    rw [Form.embodies, Bool.or_eq_true, Bool.and_eq_true, beq_iff_eq] at embodies
    rcases embodies with ⟨rfl, yields⟩ | plain
    · obtain ⟨tree, member⟩ := List.exists_mem_of_ne_nil _ (held.yields clears.yields yields)
      exact .inl ⟨underField "body" tree, List.mem_map_of_mem member, by rw [head_underField]⟩
    · exact .inr ((Makes.field held).plain clears.plain plain)
  | nothing | token | many_done => exact .inr nofun
  | leaf passes => exact .inr ((Makes.leaf passes).plain clears.plain embodies)
  | many_more once rest => exact .inr ((Makes.many_more once rest).plain clears.plain embodies)
  | node below => exact .inr ((Makes.node below).plain clears.plain embodies)
  | rule called => exact .inr ((Makes.rule called).plain clears.plain embodies)

/-! ### What hides no module -/

/-- No macro and no module without a body in a tree holds a module. -/
inductive Clear : Tree → Prop
  | node {head : Head} {children : List Tree}
      (plain : hides (.node head children) = true → ∀ child ∈ children, Plain child)
      (below : ∀ child ∈ children, Clear child) : Clear (.node head children)

theorem clear_underField (name : String) (clear : Clear tree) : Clear (underField name tree) := by
  cases clear with
  | node plain below => exact .node plain below

/-- A module around what a form makes has a body or holds no module. -/
theorem Makes.plain_of_isBodiless (clears : Clears grammar silent sure)
    (makes : Makes grammar tokens form index trees next) (embodies : form.embodies silent sure = true)
    {head : Head} (bodiless : isBodiless (.node head trees) = true) : ∀ tree ∈ trees, Plain tree := by
  rw [isBodiless, Bool.and_eq_true, Option.isNone_iff_eq_none] at bodiless
  refine (makes.embodies clears embodies).resolve_left ?_
  rintro ⟨tree, member, body⟩
  exact List.find?_eq_none.mp bodiless.2 tree member (beq_iff_eq.mpr body)

/-- **Nothing that a form makes hides a module.** -/
theorem Makes.clear (clears : Clears grammar silent sure)
    (makes : Makes grammar tokens form index trees next) (clear : form.clear silent sure = true) :
    ∀ tree ∈ trees, Clear tree := by
  -- nothing stands below a leaf, so only a node can hide a module: a macro or one without a body
  refine makes.forall_of_everywhere (fun _ _ _ => .node (fun _ => nofun) nofun) ?_
    (fun name clear => clear_underField name clear) (fun _ => clears.clear _) clear
  intro type form index trees next checked below _ inner
  refine .node (fun hidden => ?_) inner
  rcases (Bool.or_eq_true _ _).mp hidden with macroTree | bodiless
  · have macroType : (type == "macro_invocation" || type == "macro_definition") = true := macroTree
    rw [Form.shows, if_pos macroType] at checked
    exact below.plain clears.plain checked
  · have module : type = "mod_item" := type_of_isBodiless bodiless
    rw [module] at checked
    exact below.plain_of_isBodiless clears checked bodiless

mutual

/-- Nothing at a site of a clear tree covers a module. -/
theorem covers_of_clear {site : Site} : (above before : List Tree) → (tree : Tree) → Clear tree →
    site ∈ sitesFrom allOpen above before tree → Covers hides "mod_item" site
  | above, before, .node head children, .node plain below, member => by
    rw [sitesFrom_allOpen, List.mem_cons] at member
    rcases member with rfl | member
    · intro hidden inner later
      exact forall_headsOf_iff.mpr (plain hidden) _ (mem_headsOf_of_mem_sitesBelow _ _ children later)
    · exact covers_of_clearAll _ _ children below member

theorem covers_of_clearAll {site : Site} : (above before : List Tree) → (trees : List Tree) →
    (∀ tree ∈ trees, Clear tree) → site ∈ sitesBelow allOpen above before trees →
    Covers hides "mod_item" site
  | _, _, [], _, member => absurd member List.not_mem_nil
  | above, before, tree :: rest, clear, member => by
    rw [List.forall_mem_cons] at clear
    rw [sitesBelow] at member
    split_ifs at member
    · rw [List.mem_append] at member
      exact member.elim (covers_of_clear _ _ tree clear.1) (covers_of_clearAll _ _ rest clear.2)
    · exact covers_of_clearAll _ _ rest clear.2 member

end

theorem Clear.hidesNoModule (clear : Clear tree) : tree.HidesNoModule :=
  fun _ member => covers_of_clear [] [] tree clear member

end Forms

/-! ### The tree of any bytes -/

/-- The rules that make no tree at all. -/
def silentRules : Rule → Bool
  | .tree | .ruleTree => true
  | _ => false

/-- The rules that make a body. -/
def bodyRules : Rule → Bool
  | .declarationList => true
  | _ => false

theorem clears_grammar : Clears grammar silentRules bodyRules where
  plain name known := by
    cases name with
    | tree | ruleTree => rfl
    | _ => cases known
  yields name known := by
    cases name with
    | declarationList => rfl
    | _ => cases known
  clear := Rule.forall_of_all rfl

theorem clear_faultFrom (tokens : Array Token) (index : Nat) :
    ∀ tree ∈ faultFrom tokens index, Clear tree := by
  unfold faultFrom
  split_ifs
  · exact List.forall_mem_singleton.mpr (.node (fun _ => nofun) nofun)
  · exact nofun

/-- What is read of the tokens of a file, and a fault for those that are left. -/
theorem clear_source (tokens : Array Token) (depth : Nat) :
    let (trees, next) := (readRule grammar tokens depth .source 0).getD ([], 0)
    ∀ tree ∈ trees ++ faultFrom tokens next, Clear tree := by
  cases done : readRule grammar tokens depth .source 0 with
  | none => exact clear_faultFrom tokens 0
  | some outcome =>
    exact List.forall_mem_append.mpr
      ⟨(makes_of_readRule done).clear clears_grammar (clears_grammar.clear .source), clear_faultFrom _ _⟩

/-- **The tree of any bytes hides no module**: none stands below a macro or below a module without a body. -/
theorem parse_hidesNoModule (data : ByteArray) : (parse data).HidesNoModule := by
  have clear := clear_source (scan data).tokens (((scan data).tokens.size + 1) * rulesPerToken)
  unfold parse
  dsimp only at clear ⊢
  exact Clear.hidesNoModule (.node (fun hidden => absurd hidden Bool.false_ne_true) clear)

end UnsafeCensus.Grammar
