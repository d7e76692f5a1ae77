/-
**The outline of one file, by recursion on its tree.**

Where modules in other files are not followed, the outline of a tree is made of its named nodes alone: each one
becomes a node with its own type, range, kind and marking above what its named children become, from left to
right, and a module without a body gets nothing. A machine that keeps a frame for each node on its way makes the
same outline, wherever the file starts and whatever directory its modules would be looked for in.

* `Tree.Declares`, `Tree.IsBlanket`, `Site.HasKind`, `Tree.IsMarked`: the kind and the marking of a construct, by
  what stands in it and around it;
* `outlined`: the outline by recursion;
* `Outlines`, `outlines_of_mem_sites`: what each node of it is made of;
* `exists_ended_unfollowed`: the machine ends, with what it came to from the start;
* `lower_outlined`: the outline of one file.
-/

import Mathlib
import UnsafeCensus.Proofs.Crate.Frames
import UnsafeCensus.Proofs.Crate.Termination

namespace UnsafeCensus.Syntax

open Outline

/-! ### Kinds and markings -/

/-- The identifier that a generic parameter declares: an identifier declares itself, and any other parameter the
one that it holds as its name, or on its left side where it has no name. -/
inductive Tree.Declares (parameter : Tree) : Tree → Prop where
  | itself (type : parameter.type = "type_identifier") : parameter.Declares parameter
  | name {name : Tree} (compound : parameter.type ≠ "type_identifier")
      (held : parameter.childByField? "name" = some name) (type : name.type = "type_identifier") :
      parameter.Declares name
  | left {name : Tree} (compound : parameter.type ≠ "type_identifier")
      (nameless : parameter.childByField? "name" = none)
      (held : parameter.childByField? "left" = some name) (type : name.type = "type_identifier") :
      parameter.Declares name

/-- An implementation of a trait for an identifier with the text of one that its own parameters declare. -/
def Tree.IsBlanket (data : ByteArray) (tree : Tree) : Prop :=
  (∃ implemented, tree.childByField? "trait" = some implemented)
    ∧ ∃ self parameters, tree.childByField? "type" = some self
      ∧ tree.childByField? "type_parameters" = some parameters
      ∧ self.type = "type_identifier"
      ∧ ∃ parameter ∈ parameters.namedChildren, ∃ name, parameter.Declares name
        ∧ name.textOf data = self.textOf data

/-- The types of constructs that have a kind of their own. -/
def typesWithKind : List String :=
  ["source_file", "mod_item", "function_item", "trait_item", "impl_item", "unsafe_block", "block",
   "macro_invocation", "macro_definition"]

/-- The kind of a construct where it stands. -/
inductive Site.HasKind (data : ByteArray) (site : Site) : Kind → Prop where
  | crate (type : site.node.type = "source_file") : site.HasKind data .crate
  | moduleItem (type : site.node.type = "mod_item") : site.HasKind data .moduleItem
  | function (type : site.node.type = "function_item") (free : ¬ site.IsAssociated) :
      site.HasKind data .function
  | associated (type : site.node.type = "function_item") (inside : site.IsAssociated) :
      site.HasKind data .other
  | traitItem (type : site.node.type = "trait_item") : site.HasKind data .traitItem
  | blanketImpl (type : site.node.type = "impl_item") (blanket : site.node.IsBlanket data) :
      site.HasKind data .blanketImpl
  | implItem (type : site.node.type = "impl_item") (concrete : ¬ site.node.IsBlanket data) :
      site.HasKind data .implItem
  | block (type : site.node.type = "unsafe_block" ∨ site.node.type = "block") :
      site.HasKind data .block
  | macroCall (type : site.node.type = "macro_invocation" ∨ site.node.type = "macro_definition") :
      site.HasKind data .macroCall
  | other (type : site.node.type ∉ typesWithKind) : site.HasKind data .other

/-- A construct that a token of its own marks as unsafe. -/
def Tree.IsMarked (tree : Tree) : Prop :=
  tree.type = "unsafe_block"
    ∨ (tree.type = "function_item"
      ∧ ∃ child ∈ tree.children, child.type = "function_modifiers" ∧ child.Holds "unsafe")
    ∨ ((tree.type = "trait_item" ∨ tree.type = "impl_item") ∧ tree.Holds "unsafe")

end UnsafeCensus.Syntax

namespace UnsafeCensus.Crate

open Files Outline Source Syntax

variable {data : ByteArray}

/-- The name of a parameter is the text of the identifier that it declares. -/
theorem parameterName?_eq_some_iff {parameter : Syntax.Tree} {text : String} :
    parameterName? data parameter = some text ↔
      ∃ name, parameter.Declares name ∧ name.textOf data = text := by
  unfold parameterName?
  by_cases plain : parameter.type = "type_identifier"
  · rw [if_pos (beq_iff_eq.mpr plain), Option.some.injEq]
    constructor
    · intro same
      exact ⟨parameter, .itself plain, same⟩
    · rintro ⟨name, declares, same⟩
      cases declares with
      | itself => exact same
      | name compound | left compound => exact absurd plain compound
  · rw [if_neg (by simpa using plain)]
    constructor
    · intro found
      cases held : parameter.childByField? "name" with
      | some name =>
        by_cases type : name.type = "type_identifier"
        · simp only [held, Option.some_or, type, beq_self_eq_true, if_true, Option.some.injEq] at found
          exact ⟨name, .name plain held type, found⟩
        · simp [held, type] at found
      | none =>
        cases beside : parameter.childByField? "left" with
        | some name =>
          by_cases type : name.type = "type_identifier"
          · simp only [held, beside, Option.none_or, type, beq_self_eq_true, if_true,
              Option.some.injEq] at found
            exact ⟨name, .left plain held beside type, found⟩
          · simp [held, beside, type] at found
        | none => simp [held, beside] at found
    · rintro ⟨name, declares, same⟩
      cases declares with
      | itself type => exact absurd type plain
      | name _ held type => simp [held, type, same]
      | left _ nameless held type => simp [nameless, held, type, same]

theorem isBlanket_iff {tree : Syntax.Tree} : isBlanket data tree = true ↔ tree.IsBlanket data := by
  unfold isBlanket Syntax.Tree.IsBlanket
  cases tree.childByField? "trait" <;> cases tree.childByField? "type" <;>
    cases tree.childByField? "type_parameters" <;>
    simp [List.mem_filterMap, parameterName?_eq_some_iff]

/-- The kind of a construct is the one that it has where it stands. -/
theorem hasKind_kindOf (site : Site) : site.HasKind data (kindOf data (.ofAbove site.above) site.node) := by
  unfold kindOf
  split
  · exact .crate ‹_›
  · exact .moduleItem ‹_›
  · by_cases inside : site.IsAssociated
    · rw [if_pos ((ofAssociated_iff site).mpr inside)]
      exact .associated ‹_› inside
    · rw [if_neg (mt (ofAssociated_iff site).mp inside)]
      exact .function ‹_› inside
  · exact .traitItem ‹_›
  · by_cases blanket : site.node.IsBlanket data
    · rw [if_pos (isBlanket_iff.mpr blanket)]
      exact .blanketImpl ‹_› blanket
    · rw [if_neg (mt isBlanket_iff.mp blanket)]
      exact .implItem ‹_› blanket
  · exact .block (.inl ‹_›)
  · exact .block (.inr ‹_›)
  · exact .macroCall (.inl ‹_›)
  · exact .macroCall (.inr ‹_›)
  · exact .other (by simp_all [typesWithKind])

/-- A construct has one kind where it stands. -/
theorem hasKind_iff {site : Site} {kind : Kind} :
    site.HasKind data kind ↔ kindOf data (.ofAbove site.above) site.node = kind := by
  constructor
  · intro has
    unfold kindOf
    cases has with
    | crate type | moduleItem type | traitItem type => simp [type]
    | function type free => simp [type, ofAssociated_iff, free]
    | associated type inside => simp [type, ofAssociated_iff, inside]
    | blanketImpl type blanket => simp [type, isBlanket_iff, blanket]
    | implItem type concrete => simp [type, isBlanket_iff, concrete]
    | block type | macroCall type => rcases type with type | type <;> simp [type]
    | other type =>
      split <;> simp_all [typesWithKind]
  · rintro rfl
    exact hasKind_kindOf site

/-! ### The recursion -/

mutual

/-- The outline of a tree that stands below some nodes, in a file that starts at a base. -/
def outlined (data : ByteArray) (base : Nat) (above : List Syntax.Tree) : Syntax.Tree → Node
  | .node head children =>
    .mk (kindOf data (.ofAbove above) (.node head children)) (safetyOf (.node head children))
      (extentFrom base head) head.type
      (if isBodiless (.node head children) then []
        else outlinedAll data base (.node head children :: above) children)

/-- The outlines of the named trees among several. -/
def outlinedAll (data : ByteArray) (base : Nat) (above : List Syntax.Tree) :
    List Syntax.Tree → List Node
  | [] => []
  | tree :: rest =>
    if tree.head.named then outlined data base above tree :: outlinedAll data base above rest
    else outlinedAll data base above rest

end

/-- Tokens leave nothing in the outline. -/
theorem outlinedAll_eq_map (base : Nat) (above trees : List Syntax.Tree) :
    outlinedAll data base above trees
      = (trees.filter fun tree => tree.head.named).map (outlined data base above) := by
  induction trees with
  | nil => rfl
  | cons tree rest hypothesis =>
    rw [outlinedAll]
    by_cases named : tree.head.named = true
    · rw [if_pos named, List.filter_cons, if_pos named, List.map_cons, hypothesis]
    · rw [if_neg named, List.filter_cons, if_neg named, hypothesis]

/-- What a node of the outline of a file is made of. -/
structure Outlines (data : ByteArray) (base : Nat) (site : Site) (node : Node) : Prop where
  label : node.label = site.node.type
  range : boundsOf node.extent = (base + site.node.head.start, base + site.node.head.stop)
  kind : ∀ kind, site.HasKind data kind ↔ node.kind = kind
  marking : node.safety = .markedUnsafe ↔ site.node.IsMarked
  children : node.children = if isBodiless site.node then []
    else site.node.namedChildren.map (outlined data base (site.node :: site.above))

theorem outlines_outlined {size : Nat} {site : Site} (inRange : site.node.head.InRange size)
    (base : Nat) : Outlines data base site (outlined data base site.above site.node) := by
  have kind := @hasKind_iff data site
  obtain ⟨above, before, ⟨head, children⟩⟩ := site
  rw [outlined]
  refine ⟨rfl, boundsOf_extentFrom inRange base, fun _ => kind, safetyOf_eq_iff _, ?_⟩
  rw [Node.children, outlinedAll_eq_map]
  rfl

mutual

/-- An outline whose modules hold nothing is the one by recursion, however many parts there are. -/
theorem weave_replicate (data : ByteArray) (base : Nat) :
    (above : List Syntax.Tree) → (tree : Syntax.Tree) → (count : Nat) →
      weave data base (.ofAbove above) (List.replicate count []) tree = outlined data base above tree
  | above, .node head children, count => by
    rw [weave, outlined]
    by_cases bodiless : isBodiless (.node head children) = true
    · rw [if_pos bodiless, if_pos bodiless, List.getLastD_eq_getLast?, List.getLast?_replicate]
      split <;> rfl
    · rw [if_neg bodiless, if_neg bodiless,
        ← weaveAll_replicate data base (.node head children :: above) children count]
      rfl

theorem weaveAll_replicate (data : ByteArray) (base : Nat) :
    (above : List Syntax.Tree) → (trees : List Syntax.Tree) → (count : Nat) →
      weaveAll data base (.ofAbove above) (List.replicate count []) trees
        = outlinedAll data base above trees
  | _, [], _ => by rw [weaveAll, outlinedAll]
  | above, tree :: rest, count => by
    rw [weaveAll, outlinedAll]
    by_cases named : tree.head.named = true
    · rw [if_pos named, if_pos named, List.take_replicate, List.drop_replicate,
        weave_replicate data base above tree, weaveAll_replicate data base above rest]
    · rw [if_neg named, if_neg named, weaveAll_replicate data base above rest]

end

theorem exists_inRange {tree : Syntax.Tree}
    (ordered : ∀ head ∈ tree.heads, 0 ≤ head.start ∧ head.start ≤ head.stop) :
    ∃ size, tree.InRange size := by
  obtain ⟨size, greatest⟩ := (tree.heads.map fun head => head.stop.toNat).toFinset.exists_le
  refine ⟨size, fun head member => ?_⟩
  have bounded := greatest head.stop.toNat (by simpa using ⟨head, member, rfl⟩)
  obtain ⟨nonnegative, upward⟩ := ordered head member
  exact ⟨nonnegative, upward, Int.toNat_le.mp bounded⟩

/-! ### The machine without modules -/

/-- The reading of a file whose tree is to be lowered from its top. -/
def Reading.fresh (path : Path) (data : ByteArray) (base : Int) (directory : Option Path)
    (concrete : Syntax.Tree) : Reading where
  path := path
  data := data
  base := base
  frame := .ofSite ⟨[], [], concrete⟩ directory
  visited := [⟨[], [], concrete⟩]

/-- Where modules are not followed, the machine that lowers a tree ends, with what it came to from the start. -/
theorem exists_ended_unfollowed (parser : Parser) (files : Files.Tree) (loaded : Loaded)
    (reading : Reading) :
    ∃ count result, (step parser files false)^[count] (.lowering loaded reading []) = .ended loaded result
      ∧ result.map (fun node => (node, loaded))
        = (Config.lowering loaded reading []).meaning parser files false := by
  induction hidden : reading.weight using Nat.strong_induction_on generalizing reading with
  | _ weight hypothesis =>
    subst hidden
    have moves := moves_advance parser files false loaded reading []
    have same := meaning_of_moves moves trivial
    -- It is enough that the machine after this step ends so.
    suffices onward : ∃ count result,
        (step parser files false)^[count] (advance files false loaded reading []) = .ended loaded result
          ∧ result.map (fun node => (node, loaded))
            = (advance files false loaded reading []).meaning parser files false by
      obtain ⟨count, result, ended, made⟩ := onward
      exact ⟨count + 1, result, ended, made.trans same⟩
    generalize advance files false loaded reading [] = next at moves
    cases moves with
    | entered next => exact hypothesis _ (Reading.weight_enterChild_lt next) _ rfl
    | returned last skipped made frames =>
      exact hypothesis _ (Reading.weight_leaveChild_lt frames _) _ rfl
    | called last asked found | lost last asked failed =>
      exact absurd (Frame.module?_eq_some asked).1 Bool.false_ne_true
    | finished | broken => exact ⟨0, _, rfl, rfl⟩

/-- What the machine comes to from the top of a tree. -/
theorem meaning_fresh {size : Nat} {tree : Syntax.Tree} (inRange : tree.InRange size)
    (parser : Parser) (files : Files.Tree) (loaded : Loaded) (path : Path) (directory : Option Path)
    (base : Nat) :
    (Config.lowering loaded (.fresh path data base directory tree) []).meaning parser files false
      = .ok (outlined data base [] tree, loaded) := by
  have unfollowed : (Reading.fresh path data base directory tree).load parser files false
      = fun _ => pure [] := rfl
  have run := run_eq_finish (fun _ => (pure [] : Lowering Loaded (List Node))) data base
    ⟨[], [], tree⟩ directory
  rw [Lowering.run_eq _ data base size _ tree inRange, mapM_pure_nil, pure_bind] at run
  rw [Config.meaning, Reading.finish_eq, unfollowed]
  show StateT.run (((Frame.ofSite ⟨[], [], tree⟩ directory).finish _ data base >>= _) >>= _) loaded = _
  rw [← run, ← weave_replicate data base [] tree]
  rfl

/-- **The outline of one file** is made by recursion on its tree, wherever the file starts; the machine with
frames makes the same one. -/
theorem lower_outlined (data : ByteArray) (tree : Syntax.Tree) (clean : tree.hasError = false)
    (ordered : ∀ head ∈ tree.heads, 0 ≤ head.start ∧ head.start ≤ head.stop) :
    (∀ base : Nat,
      lower data base tree = .ok (outlined data base [] tree)
        ∧ (∀ parser files loaded path directory, ∃ count,
          (step parser files false)^[count] (.lowering loaded (.fresh path data base directory tree) [])
            = .ended loaded (.ok (outlined data base [] tree)))
        ∧ ∀ site ∈ tree.sites, Outlines data base site (outlined data base site.above site.node))
      ∧ ∀ files name, addTree (Map.ofFiles files) name data tree
        = (Map.ofFiles (files ++ [(name, data)]), .ok (outlined data (span files) [] tree)) := by
  obtain ⟨size, inRange⟩ := exists_inRange ordered
  have lowered (base : Nat) : lower data base tree = .ok (outlined data base [] tree) :=
    (lower_eq inRange data base).trans
      (congrArg Except.ok (weave_replicate data base [] tree (moduleCount tree)))
  refine ⟨fun base => ⟨lowered base, ?machine, ?nodes⟩, ?added⟩
  case machine =>
    intro parser files loaded path directory
    obtain ⟨count, result, ended, made⟩ :=
      exists_ended_unfollowed parser files loaded (.fresh path data base directory tree)
    rw [meaning_fresh inRange] at made
    refine ⟨count, ?_⟩
    cases result with
    | ok node =>
      cases made
      exact ended
    | error failure => cases made
  case nodes =>
    intro site member
    exact outlines_outlined (inRange _ (mem_heads_of_mem_sitesFrom [] [] tree member)) base
  case added =>
    intro files name
    have start : ((Map.ofFiles files).nextFile name data).start = span files :=
      Map.nextStart_ofFiles files
    rw [addTree, Map.ofFiles_concat]
    simp only [start, lowered, checkTree, clean]
    rfl

/-- An implementation for a parameter of its own with an unsafe method, and a module without a body. -/
def blanketText : String :=
  "impl<T: A> B for T \x7b unsafe fn f() \x7b\x7d \x7d\nmod m;\n"

/-- The tree of these constructs with their tokens. -/
def blanketTree : Syntax.Tree :=
  .node ⟨"source_file", 0, 47, true, false, false, none⟩
    [.node ⟨"impl_item", 0, 39, true, false, false, none⟩
      [.node ⟨"impl", 0, 4, false, false, false, none⟩ [],
       .node ⟨"type_parameters", 4, 10, true, false, false, some "type_parameters"⟩
        [.node ⟨"type_parameter", 5, 9, true, false, false, none⟩
          [.node ⟨"type_identifier", 5, 6, true, false, false, some "name"⟩ []]],
       .node ⟨"type_identifier", 11, 12, true, false, false, some "trait"⟩ [],
       .node ⟨"for", 13, 16, false, false, false, none⟩ [],
       .node ⟨"type_identifier", 17, 18, true, false, false, some "type"⟩ [],
       .node ⟨"declaration_list", 19, 39, true, false, false, some "body"⟩
        [.node ⟨"function_item", 21, 37, true, false, false, none⟩
          [.node ⟨"function_modifiers", 21, 27, true, false, false, none⟩
            [.node ⟨"unsafe", 21, 27, false, false, false, none⟩ []],
           .node ⟨"fn", 28, 30, false, false, false, none⟩ []]]],
     .node ⟨"mod_item", 40, 46, true, false, false, none⟩
      [.node ⟨"mod", 40, 43, false, false, false, none⟩ [],
       .node ⟨"identifier", 44, 45, true, false, false, some "name"⟩ []]]

/-- After another file: the tokens and what is below the module are left out, and the method is not a
function. -/
theorem lower_outlined_blanket :
    blanketTree.hasError = false
      ∧ (∀ head ∈ blanketTree.heads, 0 ≤ head.start ∧ head.start ≤ head.stop)
      ∧ ∃ outline,
        addTree (Map.ofFiles [("a.rs", "fn a() {}\n".toUTF8)]) "b.rs" blanketText.toUTF8 blanketTree
            = (Map.ofFiles ([("a.rs", "fn a() {}\n".toUTF8)] ++ [("b.rs", blanketText.toUTF8)]),
              .ok outline)
          ∧ outline.preorder.map (fun node => (node.kind, node.safety, boundsOf node.extent, node.label))
            = [(.crate, .safe, (11, 58), "source_file"), (.blanketImpl, .safe, (11, 50), "impl_item"),
              (.other, .safe, (15, 21), "type_parameters"), (.other, .safe, (16, 20), "type_parameter"),
              (.other, .safe, (16, 17), "type_identifier"), (.other, .safe, (22, 23), "type_identifier"),
              (.other, .safe, (28, 29), "type_identifier"), (.other, .safe, (30, 50), "declaration_list"),
              (.other, .markedUnsafe, (32, 48), "function_item"),
              (.other, .safe, (32, 38), "function_modifiers"), (.moduleItem, .safe, (51, 57), "mod_item")] := by
  have clean : blanketTree.hasError = false := by decide
  have ordered : ∀ head ∈ blanketTree.heads, 0 ≤ head.start ∧ head.start ≤ head.stop := by decide
  have added := (lower_outlined blanketText.toUTF8 blanketTree clean ordered).2
    [("a.rs", "fn a() {}\n".toUTF8)] "b.rs"
  exact ⟨clean, ordered, _, added, by decide +kernel⟩

end UnsafeCensus.Crate
