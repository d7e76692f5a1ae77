/-
**The unsafe regions of one file, read off its concrete tree.**

Which constructs are unsafe regions is said here of a concrete tree alone, by what stands in it: an unsafe
block; a function with an unsafe modifier that is not one of an implementation or a trait; a trait or an
implementation with an unsafe token. The regions of the outline are these constructs, in order.

* `Site.IsRegion`: the constructs that are unsafe regions;
* `hides`, `Tree.shown`: where the walk stops, and the sites it meets;
* `isRegion_iff`: a node of the outline is a region exactly when its construct is one;
* `filter_regionsBelow_weave`: the regions that are a file's own among those of its outline;
* `bareOutline`, `regionsBelow_bareOutline`: an outline whose modules hold nothing, and its regions;
* `addTree_regions`: the regions of a file that is added to a map.
-/

import Mathlib
import UnsafeCensus.Outline.Regions
import UnsafeCensus.Proofs.Crate.Weaving
import UnsafeCensus.Proofs.Source.Layout

namespace UnsafeCensus.Syntax

/-- A tree holds one of a type right below it. -/
def Tree.Holds (tree : Tree) (type : String) : Prop :=
  ∃ child ∈ tree.children, child.type = type

instance (tree : Tree) (type : String) : Decidable (tree.Holds type) :=
  inferInstanceAs (Decidable (∃ child ∈ tree.children, child.type = type))

namespace Site

/-- A site right below the body of an implementation or of a trait. -/
def IsAssociated (site : Site) : Prop :=
  site.above[0]?.map Tree.type = some "declaration_list"
    ∧ (site.above[1]?.map Tree.type = some "impl_item"
      ∨ site.above[1]?.map Tree.type = some "trait_item")

instance (site : Site) : Decidable site.IsAssociated :=
  inferInstanceAs (Decidable (_ ∧ (_ ∨ _)))

/-- A site of an unsafe region. -/
def IsRegion (site : Site) : Prop :=
  site.node.type = "unsafe_block"
    ∨ (site.node.type = "function_item" ∧ ¬ site.IsAssociated
      ∧ ∃ child ∈ site.node.children, child.type = "function_modifiers" ∧ child.Holds "unsafe")
    ∨ ((site.node.type = "trait_item" ∨ site.node.type = "impl_item")
      ∧ site.node.Holds "unsafe")

instance (site : Site) : Decidable site.IsRegion :=
  inferInstanceAs (Decidable (_ ∨ (_ ∧ _ ∧ _) ∨ (_ ∧ _)))

end Site

end UnsafeCensus.Syntax

namespace UnsafeCensus.Crate

open Outline Source Syntax

/-- Whether a tree is a call or a definition of a macro. -/
def isMacro (tree : Tree) : Bool :=
  tree.type == "macro_invocation" || tree.type == "macro_definition"

/-- Whether nothing below a tree is a region of its file. -/
def hides (tree : Tree) : Bool :=
  isMacro tree || isBodiless tree

end UnsafeCensus.Crate

namespace UnsafeCensus.Syntax

/-- The sites of a tree that are not below a macro or a module without a body. -/
def Tree.shown (tree : Tree) : List Site :=
  sitesFrom Crate.hides [] [] tree

end UnsafeCensus.Syntax

namespace UnsafeCensus.Crate

open Outline Source Syntax

/-! ### Kinds and markings -/

/-- The surroundings of a site, from the nodes above it. -/
def Surroundings.ofAbove (above : List Tree) : Surroundings :=
  ⟨above[0]?.map Tree.type, above[1]?.map Tree.type⟩

theorem Surroundings.ofAbove_nil : Surroundings.ofAbove [] = {} := rfl

theorem ofAssociated_iff (site : Site) :
    (Surroundings.ofAbove site.above).ofAssociated = true ↔ site.IsAssociated := by
  simp [Surroundings.ofAssociated, Surroundings.ofAbove, Site.IsAssociated]

theorem hasChild_iff (tree : Tree) (type : String) :
    tree.hasChild type = true ↔ tree.Holds type := by
  simp [Tree.hasChild, Tree.Holds]

/-- Macros alone hide what is below them. -/
theorem isOpaque_kindOf (data : ByteArray) (around : Surroundings) (tree : Tree) :
    (kindOf data around tree).isOpaque = isMacro tree := by
  cases associated : around.ofAssociated <;> cases blanket : isBlanket data tree <;>
    unfold kindOf isMacro <;> split <;> simp_all [Kind.isOpaque]

/-- The constructs whose kinds count when they are unsafe. -/
theorem countsWhenUnsafe_kindOf (data : ByteArray) (site : Site) :
    (kindOf data (.ofAbove site.above) site.node).countsWhenUnsafe = true ↔
      site.node.type = "unsafe_block" ∨ site.node.type = "block" ∨ site.node.type = "trait_item"
        ∨ site.node.type = "impl_item" ∨ (site.node.type = "function_item" ∧ ¬ site.IsAssociated) := by
  rw [← ofAssociated_iff]
  cases associated : (Surroundings.ofAbove site.above).ofAssociated <;>
    cases blanket : isBlanket data site.node <;>
    unfold kindOf <;> split <;> simp_all [Kind.countsWhenUnsafe]

/-- The constructs that are marked as unsafe. -/
theorem safetyOf_eq_iff (tree : Tree) :
    safetyOf tree = .markedUnsafe ↔
      tree.type = "unsafe_block"
        ∨ (tree.type = "function_item"
          ∧ ∃ child ∈ tree.children, child.type = "function_modifiers" ∧ child.Holds "unsafe")
        ∨ ((tree.type = "trait_item" ∨ tree.type = "impl_item") ∧ tree.Holds "unsafe") := by
  unfold safetyOf
  split <;> simp_all [hasChild_iff]

/-- A node of the outline is a region exactly when its construct is one. -/
theorem isRegion_iff (data : ByteArray) (site : Site) :
    ((kindOf data (.ofAbove site.above) site.node).countsWhenUnsafe
        && safetyOf site.node == .markedUnsafe) = true ↔ site.IsRegion := by
  rw [Bool.and_eq_true, beq_iff_eq, countsWhenUnsafe_kindOf, safetyOf_eq_iff, Site.IsRegion]
  constructor
  · rintro ⟨counts, marked⟩
    rcases marked with block | ⟨function, modified⟩ | whole
    · exact Or.inl block
    · refine Or.inr (Or.inl ⟨function, ?_, modified⟩)
      simpa [function] using counts
    · exact Or.inr (Or.inr whole)
  · rintro (block | ⟨function, free, modified⟩ | ⟨type, holds⟩)
    · exact ⟨Or.inl block, Or.inl block⟩
    · exact ⟨by simp [function, free], Or.inr (Or.inl ⟨function, modified⟩)⟩
    · exact ⟨by rcases type with type | type <;> simp [type], Or.inr (Or.inr ⟨type, holds⟩)⟩

/-! ### Regions of an outline -/

/-- The bytes of the regions among some sites, in a space where the file starts at a base. -/
def regionExtents (base : Nat) (sites : List Site) : List Extent :=
  (sites.filter fun site => site.IsRegion).map fun site => extentFrom base site.node.head

theorem regionExtents_append (base : Nat) (first second : List Site) :
    regionExtents base (first ++ second)
      = regionExtents base first ++ regionExtents base second := by
  simp [regionExtents]

theorem regionExtents_cons (base : Nat) (site : Site) (sites : List Site) :
    regionExtents base (site :: sites)
      = (if site.IsRegion then [extentFrom base site.node.head] else [])
        ++ regionExtents base sites := by
  by_cases region : site.IsRegion <;> simp [regionExtents, region]

/-- The region that a woven node is by itself. -/
theorem region?_weave (data : ByteArray) (base : Nat) (above before : List Tree)
    (parts : List (List Node)) (tree : Tree) :
    (weave data base (.ofAbove above) parts tree).region?.toList
      = if (⟨above, before, tree⟩ : Site).IsRegion then [extentFrom base tree.head] else [] := by
  cases tree with
  | node head children =>
    have region := isRegion_iff data ⟨above, before, .node head children⟩
    rw [weave, Node.region?]
    by_cases holds : (⟨above, before, .node head children⟩ : Site).IsRegion
    · rw [if_pos holds, Node.kind, Node.safety, if_pos (region.mpr holds)]
      rfl
    · rw [if_neg holds, Node.kind, Node.safety, if_neg fun counts => holds (region.mp counts)]
      rfl

theorem not_isRegion_of_isMacro {site : Site} (calls : isMacro site.node = true) :
    ¬ site.IsRegion := by
  rw [isMacro, Bool.or_eq_true, beq_iff_eq, beq_iff_eq] at calls
  rcases calls with type | type <;> simp [Site.IsRegion, type]

mutual

/-- The regions of a woven outline that are picked are those of the sites of its tree, when all its own
nodes are picked and no region of the parts of its modules is. -/
theorem filter_regionsBelow_weave {picks : Extent → Bool} (data : ByteArray) (base : Nat) :
    (above before : List Tree) → (parts : List (List Node)) → (tree : Tree) →
      (∀ head ∈ tree.heads, picks (extentFrom base head) = true) →
      (∀ part ∈ parts, ∀ extent ∈ Node.regionsOfAll part, ¬ picks extent = true) →
      (weave data base (.ofAbove above) parts tree).regionsBelow.filter picks
        = regionExtents base (sitesFrom hides above before tree)
  | above, before, parts, .node head children, own, loaded => by
    have region := region?_weave data base above before parts (.node head children)
    have kind : (weave data base (.ofAbove above) parts (.node head children)).kind.isOpaque
        = isMacro (.node head children) := isOpaque_kindOf data _ _
    rw [Tree.heads, List.forall_mem_cons] at own
    rw [sitesFrom, regionExtents_cons]
    by_cases macroTree : isMacro (.node head children) = true
    · have hidden : hides (.node head children) = true := by rw [hides, macroTree, Bool.true_or]
      have noRegion : ¬ (⟨above, before, .node head children⟩ : Site).IsRegion :=
        not_isRegion_of_isMacro macroTree
      rw [regionsBelow_of_isOpaque (kind.trans macroTree), if_pos hidden, if_neg noRegion]
      rfl
    · rw [regionsBelow_eq (by rw [kind]; exact macroTree), region, List.filter_append]
      congr 1
      · refine List.filter_eq_self.mpr fun extent member => ?_
        split at member
        · obtain rfl := List.mem_singleton.mp member
          exact own.1
        · exact absurd member List.not_mem_nil
      · rw [weave, Node.children]
        by_cases bodiless : isBodiless (.node head children) = true
        · rw [if_pos bodiless, if_pos (by simp [hides, bodiless])]
          refine List.filter_eq_nil_iff.mpr fun extent member => ?_
          rcases List.eq_nil_or_concat parts with rfl | ⟨initial, part, rfl⟩
          · exact absurd member List.not_mem_nil
          · rw [List.concat_eq_append, List.getLastD_concat] at member
            exact loaded part (by simp) extent member
        · rw [if_neg bodiless, if_neg (by simp [hides, macroTree, bodiless])]
          exact filter_regionsOfAll_weaveAll data base (.node head children :: above) [] parts
            children own.2 loaded

theorem filter_regionsOfAll_weaveAll {picks : Extent → Bool} (data : ByteArray) (base : Nat) :
    (above before : List Tree) → (parts : List (List Node)) → (trees : List Tree) →
      (∀ head ∈ Tree.headsOf trees, picks (extentFrom base head) = true) →
      (∀ part ∈ parts, ∀ extent ∈ Node.regionsOfAll part, ¬ picks extent = true) →
      (Node.regionsOfAll (weaveAll data base (.ofAbove above) parts trees)).filter picks
        = regionExtents base (sitesBelow hides above before trees)
  | _, _, _, [], _, _ => rfl
  | above, before, parts, tree :: rest, own, loaded => by
    rw [Tree.headsOf, List.forall_mem_append] at own
    rw [weaveAll, sitesBelow]
    by_cases named : tree.head.named = true
    · rw [if_pos named, if_pos named, Node.regionsOfAll, List.filter_append, regionExtents_append,
        filter_regionsBelow_weave data base above before _ tree own.1
          fun part member => loaded part (List.mem_of_mem_take member),
        filter_regionsOfAll_weaveAll data base above (tree :: before) _ rest own.2
          fun part member => loaded part (List.mem_of_mem_drop member)]
    · rw [if_neg named, if_neg named]
      exact filter_regionsOfAll_weaveAll data base above before parts rest own.2 loaded

end

/-- The outline of a tree whose modules hold nothing, in a file that starts at a base. -/
def bareOutline (data : ByteArray) (base : Nat) (tree : Tree) : Node :=
  weave data base {} (List.replicate (moduleCount tree) []) tree

/-- The regions of an outline whose modules hold nothing are those of the sites of its tree. -/
theorem regionsBelow_bareOutline (data : ByteArray) (base : Nat) (tree : Tree) :
    (bareOutline data base tree).regionsBelow = regionExtents base tree.shown := by
  rw [← List.filter_true (bareOutline data base tree).regionsBelow]
  refine filter_regionsBelow_weave data base [] [] _ tree (fun _ _ => rfl) ?_
  intro part member extent below
  rw [List.eq_of_mem_replicate member] at below
  exact absurd below List.not_mem_nil

theorem regions_eq (node : Node) : regions node = node.regionsBelow := by
  rw [regions, collect, walk_eq, regionsOfAll_singleton]
  rfl

/-! ### A file of a map -/

theorem mapM_pure_nil {σ : Type} (declared : List Declaration) :
    (declared.mapM fun _ => (pure [] : Lowering σ (List Node)))
      = pure (List.replicate declared.length []) := by
  induction declared with
  | nil => rfl
  | cons declaration rest hypothesis =>
    rw [List.mapM_cons, hypothesis, pure_bind, pure_bind]
    rfl

/-- A tree in range whose modules are not loaded is lowered to its bare outline. -/
theorem lower_eq {size : Nat} {tree : Tree} (inRange : tree.InRange size) (data : ByteArray)
    (base : Nat) : lower data base tree = .ok (bareOutline data base tree) := by
  rw [lower, Lowering.run_eq _ data base size {} tree inRange, mapM_pure_nil, pure_bind,
    length_declarations]
  rfl

/-- The two ends of an extent. -/
def boundsOf (extent : Extent) : Int × Int :=
  (extent.start, extent.stop)

theorem boundsOf_extentFrom {size : Nat} {head : Head} (inRange : head.InRange size) (base : Nat) :
    boundsOf (extentFrom base head) = (base + head.start, base + head.stop) := by
  obtain ⟨nonnegative, ordered, _⟩ := inRange
  simp only [boundsOf, extentFrom, Prod.mk.injEq]
  omega

/-- **The regions of a file that is added to a map** are the unsafe constructs of its tree that are not below
a macro or a module without a body, in order, moved by the start of the file. -/
theorem addTree_regions (files : Contents) (name : String) (data : ByteArray) (tree : Tree)
    (clean : tree.hasError = false) (inRange : tree.InRange data.size) :
    ∃ outline,
      addTree (Map.ofFiles files) name data tree
        = (Map.ofFiles (files ++ [(name, data)]), .ok outline) ∧
      (regions outline).map boundsOf
        = (tree.shown.filter fun site => site.IsRegion).map fun site =>
            ((Map.ofFiles files).nextStart + site.node.head.start,
              (Map.ofFiles files).nextStart + site.node.head.stop) := by
  refine ⟨bareOutline data (span files) tree, ?_, ?_⟩
  · have start : ((Map.ofFiles files).nextFile name data).start = span files :=
      Map.nextStart_ofFiles files
    rw [addTree, Map.ofFiles_concat]
    simp only [start, lower_eq inRange, checkTree, clean]
    rfl
  · rw [regions_eq, regionsBelow_bareOutline, regionExtents, List.map_map, Map.nextStart_ofFiles]
    refine List.map_congr_left fun site member => ?_
    have node := mem_heads_of_mem_sitesFrom [] [] tree (List.mem_of_mem_filter member)
    exact boundsOf_extentFrom (inRange _ node) (span files)

/-- An unsafe function around an unsafe block, an unsafe implementation with an unsafe method, and an unsafe
block in a macro. -/
def mixedText : String :=
  "unsafe fn f() \x7b unsafe \x7b g() \x7d \x7d\n"
    ++ "unsafe impl T for S \x7b unsafe fn h() \x7b\x7d \x7d\nm!(unsafe \x7b\x7d);\n"

/-- The tree of these constructs. -/
def mixedTree : Tree :=
  .node ⟨"source_file", 0, 89, true, false, false, none⟩
    [.node ⟨"function_item", 0, 32, true, false, false, none⟩
      [.node ⟨"function_modifiers", 0, 6, true, false, false, none⟩
        [.node ⟨"unsafe", 0, 6, false, false, false, none⟩ []],
       .node ⟨"block", 14, 32, true, false, false, some "body"⟩
        [.node ⟨"unsafe_block", 16, 30, true, false, false, none⟩
          [.node ⟨"unsafe", 16, 22, false, false, false, none⟩ [],
           .node ⟨"block", 23, 30, true, false, false, none⟩ []]]],
     .node ⟨"impl_item", 33, 73, true, false, false, none⟩
      [.node ⟨"unsafe", 33, 39, false, false, false, none⟩ [],
       .node ⟨"declaration_list", 53, 73, true, false, false, some "body"⟩
        [.node ⟨"function_item", 55, 71, true, false, false, none⟩
          [.node ⟨"function_modifiers", 55, 61, true, false, false, none⟩
            [.node ⟨"unsafe", 55, 61, false, false, false, none⟩ []]]]],
     .node ⟨"macro_invocation", 74, 87, true, false, false, none⟩
      [.node ⟨"unsafe_block", 77, 86, true, false, false, none⟩ []]]

/-- The method and the block in the macro are left out. -/
theorem addTree_regions_mixed :
    mixedTree.hasError = false ∧ mixedTree.InRange mixedText.toUTF8.size ∧
      ∃ outline,
        addTree (Map.ofFiles [("a.rs", "fn a() {}\n".toUTF8)]) "b.rs" mixedText.toUTF8 mixedTree
          = (Map.ofFiles ([("a.rs", "fn a() {}\n".toUTF8)] ++ [("b.rs", mixedText.toUTF8)]),
            .ok outline) ∧
        (regions outline).map boundsOf = [(11, 43), (27, 41), (44, 84)] := by
  have clean : mixedTree.hasError = false := by decide
  have inRange : mixedTree.InRange mixedText.toUTF8.size := by decide
  obtain ⟨outline, added, found⟩ := addTree_regions [("a.rs", "fn a() {}\n".toUTF8)] "b.rs"
    mixedText.toUTF8 mixedTree clean inRange
  refine ⟨clean, inRange, outline, added, found.trans ?_⟩
  rw [Map.nextStart_ofFiles]
  decide

end UnsafeCensus.Crate
