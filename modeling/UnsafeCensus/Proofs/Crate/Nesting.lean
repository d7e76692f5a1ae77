/-
**How the regions of a crate lie to each other.**

When the trees of the files are well nested, of two regions of one file the later one is inside the earlier
one or starts at or after its end. The outline of a module that is loaded hangs below a node that does not
contain it, so this is no law of the whole outline: regions of different files are apart, wherever the module
is declared.

* `exists_run_eq_weave`: what lowering gives when it succeeds, of any tree;
* `pairwise_regionsBelow_weave`: a relation among the regions of a woven outline;
* `InOrder`, `Laid`: regions that follow each other when one file holds them, and lists of such regions;
* `Adds`: what an action that succeeds adds to the files that were loaded;
* `adds_loadFile`: loading a file gives regions that are laid so;
* `regions_nested`: how any two regions of a crate lie to each other.
-/

import Mathlib
import UnsafeCensus.Proofs.Crate.Outcome
import UnsafeCensus.Proofs.Source.Covering
import UnsafeCensus.Proofs.Syntax.Nested

namespace UnsafeCensus.Crate

open Files Outline Source Syntax

/-! ### Lowering that succeeds -/

/-- A node of the outline has the bytes of its construct, which cover a range. -/
theorem outlineNode_eq_ok {data : ByteArray} {base : Nat} {around : Surroundings}
    {concrete : Syntax.Tree} {children : List Node} {node : Node}
    (made : outlineNode data base around concrete children = .ok node) :
    node = .mk (kindOf data around concrete) (safetyOf concrete) (extentFrom base concrete.head)
      concrete.type children := by
  by_cases range : 0 ≤ concrete.head.start ∧ concrete.head.start ≤ concrete.head.stop
  · have inRange : concrete.head.InRange concrete.head.stop.toNat :=
      ⟨range.1, range.2, Int.self_le_toNat _⟩
    rw [outlineNode_eq inRange] at made
    exact (Except.ok.inj made).symm
  · have refused : ∃ failure, Extent.of concrete.head.start concrete.head.stop = .error failure := by
      rw [Extent.of]
      by_cases negative : concrete.head.start < 0
      · exact ⟨_, dif_pos negative⟩
      · exact ⟨_, by rw [dif_neg negative, dif_pos (by omega)]⟩
    obtain ⟨failure, refused⟩ := refused
    rw [outlineNode, refused] at made
    cases made

theorem length_of_run_mapM {σ α β : Type} {visit : α → Lowering σ β} {items : List α}
    {state last : σ} {results : List β}
    (done : StateT.run (items.mapM visit) state = .ok (results, last)) :
    results.length = items.length := by
  induction items generalizing state results with
  | nil =>
    cases done
    rfl
  | cons item rest hypothesis =>
    rw [List.mapM_cons] at done
    obtain ⟨⟨value, middle⟩, _, done⟩ := run_bind_eq_ok_iff.mp done
    obtain ⟨⟨values, finish⟩, more, done⟩ := run_bind_eq_ok_iff.mp done
    cases done
    rw [List.length_cons, List.length_cons, hypothesis more]

theorem run_mapM_append {σ α β : Type} {visit : α → Lowering σ β} {first second : List α}
    {state middle last : σ} {results others : List β}
    (done : StateT.run (first.mapM visit) state = .ok (results, middle))
    (more : StateT.run (second.mapM visit) middle = .ok (others, last)) :
    StateT.run ((first ++ second).mapM visit) state = .ok (results ++ others, last) := by
  rw [List.mapM_append]
  exact run_bind_eq_ok_iff.mpr ⟨_, done, run_bind_eq_ok_iff.mpr ⟨_, more, rfl⟩⟩

namespace Lowering

variable {σ : Type}

mutual

/-- Lowering that succeeds has loaded the modules of the tree and woven their parts into its outline. -/
theorem exists_run_eq_weave (load : Declaration → Lowering σ (List Node)) (data : ByteArray)
    (base : Nat) :
    (position : Position) → (concrete : Syntax.Tree) → {state last : σ} → {node : Node} →
      StateT.run (run load data base position concrete) state = .ok (node, last) →
      ∃ parts, StateT.run ((declarations data position concrete).mapM load) state = .ok (parts, last)
        ∧ node = weave data base position.around parts concrete
  | position, .node head children, state, last, node, done => by
    rw [run] at done
    obtain ⟨⟨built, middle⟩, below, done⟩ := run_bind_eq_ok_iff.mp done
    obtain ⟨parts, loaded, rfl⟩ := exists_runAll_eq_weaveAll load data base _ children below
    rw [declarations]
    by_cases bodiless : isBodiless (.node head children) = true
    · rw [if_pos bodiless] at done ⊢
      -- What is loaded for the node itself comes after what was loaded for the modules below it.
      obtain ⟨⟨chosen, finish⟩, choice, done⟩ := run_bind_eq_ok_iff.mp done
      obtain ⟨made, same⟩ := run_liftM_eq_ok_iff.mp done
      obtain rfl : last = finish := same
      have single : StateT.run ([declarationOf data position (.node head children)].mapM load) middle
          = .ok ([chosen], last) := by
        rw [List.mapM_cons]
        exact run_bind_eq_ok_iff.mpr ⟨_, choice, rfl⟩
      refine ⟨_, run_mapM_append loaded single, ?_⟩
      rw [weave, if_pos bodiless, List.getLastD_concat]
      exact outlineNode_eq_ok made
    · rw [if_neg bodiless] at done ⊢
      obtain ⟨made, same⟩ := run_liftM_eq_ok_iff.mp done
      obtain rfl : last = middle := same
      refine ⟨parts, by rw [List.append_nil]; exact loaded, ?_⟩
      rw [weave, if_neg bodiless]
      exact outlineNode_eq_ok made

theorem exists_runAll_eq_weaveAll (load : Declaration → Lowering σ (List Node)) (data : ByteArray)
    (base : Nat) :
    (position : Position) → (trees : List Syntax.Tree) → {state last : σ} → {nodes : List Node} →
      StateT.run (runAll load data base position trees) state = .ok (nodes, last) →
      ∃ parts, StateT.run ((declarationsOf data position trees).mapM load) state = .ok (parts, last)
        ∧ nodes = weaveAll data base position.around parts trees
  | position, [], state, last, nodes, done => by
    rw [runAll] at done
    cases done
    exact ⟨[], rfl, rfl⟩
  | position, concrete :: rest, state, last, nodes, done => by
    rw [runAll] at done
    rw [declarationsOf]
    by_cases named : concrete.head.named = true
    · rw [if_pos named] at done ⊢
      obtain ⟨⟨first, middle⟩, single, done⟩ := run_bind_eq_ok_iff.mp done
      obtain ⟨⟨others, finish⟩, more, done⟩ := run_bind_eq_ok_iff.mp done
      cases done
      obtain ⟨parts, loaded, rfl⟩ := exists_run_eq_weave load data base position concrete single
      obtain ⟨parts', loaded', rfl⟩ :=
        exists_runAll_eq_weaveAll load data base (position.past concrete) rest more
      have length := (length_of_run_mapM loaded).trans (length_declarations data position concrete)
      refine ⟨_, run_mapM_append loaded loaded', ?_⟩
      rw [weaveAll, if_pos named, List.take_left' length, List.drop_left' length]
      rfl
    · rw [if_neg named] at done ⊢
      obtain ⟨parts, loaded, rfl⟩ := exists_runAll_eq_weaveAll load data base position rest done
      exact ⟨parts, loaded, by rw [weaveAll, if_neg named]⟩

end

end Lowering

/-! ### Relations among the regions of a woven outline -/

/-- A node inside another has its bytes inside those of the other. -/
theorem within_extentFrom {inner outer : Head} (inside : inner.Inside outer)
    (ordered : inner.start ≤ inner.stop) (base : Nat) :
    (extentFrom base inner).Within (extentFrom base outer) := by
  obtain ⟨lower, upper⟩ := inside
  simp only [Extent.Within, extentFrom]
  omega

/-- A node before another has its bytes before those of the other. -/
theorem stop_extentFrom_le {first second : Head} (before : first.Before second)
    (ordered : first.start ≤ first.stop) (base : Nat) :
    (extentFrom base first).stop ≤ (extentFrom base second).start := by
  rw [Head.Before] at before
  simp only [extentFrom]
  omega

/-- The regions of the parts of some modules. -/
def regionsOfParts (parts : List (List Node)) : List Extent :=
  parts.flatMap Node.regionsOfAll

theorem mem_regionsOfParts {parts : List (List Node)} {extent : Extent} :
    extent ∈ regionsOfParts parts ↔ ∃ part ∈ parts, extent ∈ Node.regionsOfAll part :=
  List.mem_flatMap

/-- The regions of a woven outline are those of nodes of its tree and of parts of its modules. -/
theorem mem_regionsBelow_weave (data : ByteArray) (base : Nat) (around : Surroundings)
    (parts : List (List Node)) (concrete : Syntax.Tree) :
    ∀ extent ∈ (weave data base around parts concrete).regionsBelow,
      (∃ head ∈ concrete.heads, extentFrom base head = extent) ∨ extent ∈ regionsOfParts parts :=
  forall_regionsBelow_weave data base around parts concrete
    (fun head known => Or.inl ⟨head, known, rfl⟩)
    (fun part known _ below => Or.inr (mem_regionsOfParts.mpr ⟨part, known, below⟩))

/-- The regions of several woven outlines are those of nodes of the trees and of parts of their modules. -/
theorem mem_regionsOfAll_weaveAll (data : ByteArray) (base : Nat) (around : Surroundings)
    (parts : List (List Node)) (trees : List Syntax.Tree) :
    ∀ extent ∈ Node.regionsOfAll (weaveAll data base around parts trees),
      (∃ head ∈ Tree.headsOf trees, extentFrom base head = extent) ∨ extent ∈ regionsOfParts parts :=
  forall_regionsOfAll_weaveAll data base around parts trees
    (fun head known => Or.inl ⟨head, known, rfl⟩)
    (fun part known _ below => Or.inr (mem_regionsOfParts.mpr ⟨part, known, below⟩))

theorem regionsOfParts_append (first second : List (List Node)) :
    regionsOfParts (first ++ second) = regionsOfParts first ++ regionsOfParts second :=
  List.flatMap_append

/-- The regions of the last part are some of the regions of all parts. -/
theorem sublist_regionsOfParts (parts : List (List Node)) :
    (Node.regionsOfAll (parts.getLastD [])).Sublist (regionsOfParts parts) := by
  rcases List.eq_nil_or_concat parts with rfl | ⟨initial, part, rfl⟩
  · exact List.Sublist.refl _
  · rw [List.concat_eq_append, List.getLastD_concat, regionsOfParts_append]
    have single : regionsOfParts [part] = Node.regionsOfAll part := List.append_nil _
    rw [single]
    exact List.sublist_append_right _ _

/-- The region that a node is by itself has the bytes of the node. -/
theorem eq_extent_of_region? {node : Node} {extent : Extent} (region : extent ∈ node.region?.toList) :
    extent = node.extent := by
  rw [Option.mem_toList, Node.region?, Option.ite_none_right_eq_some] at region
  exact (Option.some.inj region.2).symm

theorem pairwise_toList {α : Type} {relation : α → α → Prop} (value : Option α) :
    value.toList.Pairwise relation := by
  cases value with
  | none => exact List.Pairwise.nil
  | some value => exact List.pairwise_singleton _ _

/-- A relation that holds among the nodes of a file and the regions of the parts of its modules: between a
node and one that follows it, between a node and a region both ways, and between a region and a later one. -/
structure Relates (relation : Extent → Extent → Prop) (base : Nat) (parts : List (List Node))
    (heads : List Head) : Prop where
  own : ∀ first ∈ heads, ∀ second ∈ heads, (extentFrom base first).Follows (extentFrom base second) →
    relation (extentFrom base first) (extentFrom base second)
  across : ∀ head ∈ heads, ∀ extent ∈ regionsOfParts parts,
    relation (extentFrom base head) extent ∧ relation extent (extentFrom base head)
  loaded : (regionsOfParts parts).Pairwise relation

section Relates

variable {relation : Extent → Extent → Prop} {base : Nat} {parts fewer : List (List Node)}
  {heads others : List Head}

theorem Relates.mono (relates : Relates relation base parts heads) (heads' : others ⊆ heads)
    (parts' : (regionsOfParts fewer).Sublist (regionsOfParts parts)) :
    Relates relation base fewer others where
  own first member second member' := relates.own first (heads' member) second (heads' member')
  across head member extent member' :=
    relates.across head (heads' member) extent (parts'.subset member')
  loaded := relates.loaded.sublist parts'

mutual

/-- A relation that holds among the nodes of a nested tree and the parts of its modules holds among the
regions of the woven outline. -/
theorem pairwise_regionsBelow_weave (data : ByteArray) :
    (around : Surroundings) → (parts : List (List Node)) → (concrete : Syntax.Tree) →
      concrete.Nested → Relates relation base parts concrete.heads →
      (weave data base around parts concrete).regionsBelow.Pairwise relation
  | around, parts, .node head children, nested, relates => by
    have inside := nested.inside
    rw [Tree.Nested] at nested
    obtain ⟨_, _, chain, below⟩ := nested
    by_cases hidden : (weave data base around parts (.node head children)).kind.isOpaque = true
    · rw [regionsBelow_of_isOpaque hidden]
      exact List.Pairwise.nil
    · rw [regionsBelow_eq hidden, weave, Node.children, List.pairwise_append]
      have top : head ∈ (Syntax.Tree.node head children).heads := List.mem_cons_self
      have lower : Tree.headsOf children ⊆ (Syntax.Tree.node head children).heads :=
        List.subset_cons_self _ _
      refine ⟨?_, ?_, ?_⟩
      · exact pairwise_toList _
      · by_cases bodiless : isBodiless (.node head children) = true
        · rw [if_pos bodiless]
          exact relates.loaded.sublist (sublist_regionsOfParts parts)
        · rw [if_neg bodiless]
          exact pairwise_regionsOfAll_weaveAll data _ parts children below chain
            (relates.mono lower (List.Sublist.refl _))
      · intro extent region other later
        obtain rfl := eq_extent_of_region? region
        by_cases bodiless : isBodiless (.node head children) = true
        · rw [if_pos bodiless] at later
          exact (relates.across head top other ((sublist_regionsOfParts parts).subset later)).1
        · rw [if_neg bodiless] at later
          rcases mem_regionsOfAll_weaveAll data base _ parts children other later with
            ⟨inner, known, rfl⟩ | loaded
          · obtain ⟨ordered, within⟩ := inside inner (lower known)
            exact relates.own head top inner (lower known)
              (Or.inl (within_extentFrom within ordered base))
          · exact (relates.across head top other loaded).1

theorem pairwise_regionsOfAll_weaveAll (data : ByteArray) :
    (around : Surroundings) → (parts : List (List Node)) → (trees : List Syntax.Tree) →
      Tree.NestedAll trees →
      trees.IsChain (fun first second => first.head.Before second.head) →
      Relates relation base parts (Tree.headsOf trees) →
      (Node.regionsOfAll (weaveAll data base around parts trees)).Pairwise relation
  | _, _, [], _, _, _ => List.Pairwise.nil
  | around, parts, concrete :: rest, nested, chain, relates => by
    have apart := Tree.nestedAll_apart nested chain
    have inside := Tree.nestedAll_inside nested
    rw [Tree.NestedAll] at nested
    have first : concrete.heads ⊆ Tree.headsOf (concrete :: rest) := List.subset_append_left _ _
    have later : Tree.headsOf rest ⊆ Tree.headsOf (concrete :: rest) := List.subset_append_right _ _
    rw [weaveAll]
    by_cases named : concrete.head.named = true
    · have split : regionsOfParts parts = regionsOfParts (parts.take (moduleCount concrete))
          ++ regionsOfParts (parts.drop (moduleCount concrete)) := by
        rw [← regionsOfParts_append, List.take_append_drop]
      have taken : (regionsOfParts (parts.take (moduleCount concrete))).Sublist
          (regionsOfParts parts) := split ▸ List.sublist_append_left _ _
      have dropped : (regionsOfParts (parts.drop (moduleCount concrete))).Sublist
          (regionsOfParts parts) := split ▸ List.sublist_append_right _ _
      rw [if_pos named, Node.regionsOfAll, List.pairwise_append]
      refine ⟨pairwise_regionsBelow_weave data around _ concrete nested.1
          (relates.mono first taken),
        pairwise_regionsOfAll_weaveAll data around _ rest nested.2 chain.of_cons
          (relates.mono later dropped), fun extent member other member' => ?_⟩
      -- Each of the two is a node of its trees or a region of a part of their modules.
      rcases mem_regionsBelow_weave data base around _ concrete extent member with
        ⟨head, known, rfl⟩ | loaded <;>
      rcases mem_regionsOfAll_weaveAll data base around _ rest other member' with
        ⟨head', known', rfl⟩ | loaded'
      · have before := apart head known head' known'
        obtain ⟨_, _, ordered, _⟩ := inside head (first known)
        exact relates.own head (first known) head' (later known')
          (Or.inr (stop_extentFrom_le before ordered base))
      · exact (relates.across head (first known) other (dropped.subset loaded')).1
      · exact (relates.across head' (later known') extent (taken.subset loaded)).2
      · have pairs := relates.loaded
        rw [split, List.pairwise_append] at pairs
        exact pairs.2.2 extent loaded other loaded'
    · rw [if_neg named]
      exact pairwise_regionsOfAll_weaveAll data around parts rest nested.2 chain.of_cons
        (relates.mono later (List.Sublist.refl _))

end

end Relates

/-! ### Regions of the files that are loaded -/

/-- All files have well nested trees. -/
def WellNestedIn (parser : Parser) (files : Contents) : Prop :=
  ∀ file ∈ files, (parser file.2).WellNested file.2.size

/-- Of two extents that one file covers the second follows the first. -/
def InOrder (files : Contents) (first second : Extent) : Prop :=
  ∀ index, (Map.ofFiles files).Covers index first → (Map.ofFiles files).Covers index second →
    first.Follows second

/-- Each extent is covered by one of some neighbouring files, and extents of one file are in order. -/
def Laid (files : Contents) (low high : Nat) (extents : List Extent) : Prop :=
  (∀ extent ∈ extents, ∃ index, low ≤ index ∧ index < high
    ∧ (Map.ofFiles files).Covers index extent) ∧ extents.Pairwise (InOrder files)

/-- Extents that are covered by different files are in order. -/
theorem inOrder_of_ne {files : Contents} {index other : Nat} {first second : Extent}
    (covers : (Map.ofFiles files).Covers index first)
    (covers' : (Map.ofFiles files).Covers other second) (different : index ≠ other) :
    InOrder files first second := by
  intro shared held held'
  exact absurd ((Map.heldAt_unique covers.1 held.1).trans (Map.heldAt_unique held'.1 covers'.1))
    different

theorem Laid.nil {files : Contents} {low high : Nat} : Laid files low high [] :=
  ⟨fun _ member => absurd member List.not_mem_nil, List.Pairwise.nil⟩

theorem Laid.append {files : Contents} {low middle high : Nat} {first second : List Extent}
    (laid : Laid files low middle first) (laid' : Laid files middle high second)
    (ordered : low ≤ middle) (ordered' : middle ≤ high) : Laid files low high (first ++ second) := by
  refine ⟨List.forall_mem_append.mpr ⟨fun extent member => ?_, fun extent member => ?_⟩,
    List.pairwise_append.mpr ⟨laid.2, laid'.2, fun extent member other member' => ?_⟩⟩
  · obtain ⟨index, lower, upper, covers⟩ := laid.1 extent member
    exact ⟨index, lower, upper.trans_le ordered', covers⟩
  · obtain ⟨index, lower, upper, covers⟩ := laid'.1 extent member
    exact ⟨index, ordered.trans lower, upper, covers⟩
  · obtain ⟨index, _, upper, covers⟩ := laid.1 extent member
    obtain ⟨index', lower, _, covers'⟩ := laid'.1 other member'
    exact inOrder_of_ne covers covers' (upper.trans_le lower).ne

/-- A node in range is covered by the file of its tree. -/
theorem covers_extentFrom {before after : Contents} {name : String} {data : ByteArray} {head : Head}
    (inRange : head.InRange data.size) :
    (Map.ofFiles (before ++ (name, data) :: after)).Covers before.length
      (extentFrom (span before) head) := by
  obtain ⟨nonnegative, ordered, bounded⟩ := inRange
  exact ⟨Map.heldAt_part before after name (by omega), Map.heldAt_part before after name (by omega)⟩

/-- What an action that succeeds adds to the files that were loaded, with a result that is right for them. -/
def Adds {α : Type} (right : Contents → Contents → α → Prop) (action : Lowering Loaded α) : Prop :=
  ∀ {files places value last}, StateT.run action (.ofFiles files places) = .ok (value, last) →
    ∃ added places', last = .ofFiles (files ++ added) places' ∧ right files added value

/-- Among all files of a crate, the regions of some outlines are laid in the files that were added. -/
def PartLaid (parser : Parser) (files added : Contents) (part : List Node) : Prop :=
  ∀ all, files ++ added <+: all → WellNestedIn parser all →
    Laid all files.length (files ++ added).length (Node.regionsOfAll part)

/-- Among all files of a crate, the regions of some parts are laid in the files that were added. -/
def PartsLaid (parser : Parser) (files added : Contents) (parts : List (List Node)) : Prop :=
  ∀ all, files ++ added <+: all → WellNestedIn parser all →
    Laid all files.length (files ++ added).length (regionsOfParts parts)

variable {parser : Parser}

/-- A module that is not loaded adds nothing. -/
theorem adds_nothing : Adds (PartLaid parser) (pure []) := by
  intro files places part last done
  cases done
  exact ⟨[], places, by rw [List.append_nil], fun _ _ _ => .nil⟩

/-- Modules that are loaded one after the other add their files so. -/
theorem adds_mapM {load : Declaration → Lowering Loaded (List Node)}
    (adds : ∀ declaration, Adds (PartLaid parser) (load declaration))
    (declarations : List Declaration) :
    Adds (PartsLaid parser) (declarations.mapM load) := by
  induction declarations with
  | nil =>
    intro files places parts last done
    cases done
    exact ⟨[], places, by rw [List.append_nil], fun _ _ _ => .nil⟩
  | cons declaration rest hypothesis =>
    intro files places parts last done
    rw [List.mapM_cons] at done
    obtain ⟨⟨part, middle⟩, first, done⟩ := run_bind_eq_ok_iff.mp done
    obtain ⟨⟨others, finish⟩, more, done⟩ := run_bind_eq_ok_iff.mp done
    cases done
    obtain ⟨added, places', rfl, laid⟩ := adds declaration first
    obtain ⟨added', places'', rfl, laid'⟩ := hypothesis more
    refine ⟨added ++ added', places'', by rw [List.append_assoc], fun all grown nested => ?_⟩
    rw [← List.append_assoc] at grown ⊢
    have early := (List.prefix_append (files ++ added) added').trans grown
    exact (laid all early nested).append (laid' all grown nested)
      (List.prefix_append files added).length_le
      (List.prefix_append (files ++ added) added').length_le

/-- Bytes that are added have their modules loaded and woven into the outline of their tree. -/
theorem exists_parts_of_run_addSource {load : Declaration → Lowering Loaded (List Node)}
    {name : String} {data : ByteArray} {directory : Option Path} {files : Contents}
    {places : List Place} {node : Node} {last : Loaded}
    (done : StateT.run (addSource parser load name data directory) (.ofFiles files places)
      = .ok (node, last)) :
    ∃ parts,
      StateT.run ((declarations data { directory } (parser data)).mapM load)
          (.ofFiles (files ++ [(name, data)]) places) = .ok (parts, last)
        ∧ node = weave data (span files) {} parts (parser data) := by
  rw [run_addSource_eq] at done
  cases checked : checkTree ((Loaded.ofFiles files places).map.nextFile name data) (parser data) with
  | error failure =>
    rw [checked] at done
    cases done
  | ok passed =>
    rw [checked] at done
    change StateT.run (Lowering.run load data ((Map.ofFiles files).nextFile name data).start
      { directory } (parser data))
      { Loaded.ofFiles files places with map := (Map.ofFiles files).add name data } = _ at done
    rw [nextFile_ofFiles, ← Loaded.ofFiles_concat] at done
    exact Lowering.exists_run_eq_weave load data (span files) { directory } (parser data) done

/-- Bytes that are added with the modules of their tree give regions that are laid in their files. -/
theorem adds_addSource {load : Declaration → Lowering Loaded (List Node)}
    (adds : ∀ declaration, Adds (PartLaid parser) (load declaration)) (name : String)
    (data : ByteArray) (directory : Option Path) :
    Adds (fun files added node => PartLaid parser files added [node])
      (addSource parser load name data directory) := by
  intro files places node last done
  obtain ⟨parts, loaded, rfl⟩ := exists_parts_of_run_addSource done
  obtain ⟨added, places', rfl, laid⟩ := adds_mapM adds _ loaded
  have split : files ++ (name, data) :: added = files ++ [(name, data)] ++ added := by
    rw [List.append_assoc]
    rfl
  refine ⟨(name, data) :: added, places', by rw [split], fun all grown nested => ?_⟩
  have below := laid all (split ▸ grown) nested
  obtain ⟨after, rfl⟩ := grown
  have tree : (parser data).WellNested data.size := nested (name, data) (by simp)
  have own : ∀ head ∈ (parser data).heads,
      (Map.ofFiles (files ++ (name, data) :: added ++ after)).Covers files.length
        (extentFrom (span files) head) := by
    intro head member
    rw [List.append_assoc, List.cons_append]
    exact covers_extentFrom (tree.inRange head member)
  rw [List.length_append, List.length_singleton, ← split] at below
  rw [regionsOfAll_singleton]
  -- The nodes of the tree lie in the file that was added first, and all parts in files after it.
  refine ⟨fun extent member => ?_, pairwise_regionsBelow_weave data _ parts _ tree.2
    ⟨fun first member second member' follows _ _ _ => follows, fun head member extent known => ?_,
      below.2⟩⟩
  · rcases mem_regionsBelow_weave data _ _ parts _ extent member with ⟨head, known, rfl⟩ | known
    · exact ⟨files.length, le_rfl, by simp, own head known⟩
    · obtain ⟨index, lower, upper, covers⟩ := below.1 extent known
      exact ⟨index, (Nat.le_succ _).trans lower, upper, covers⟩
  · obtain ⟨index, lower, _, covers⟩ := below.1 extent known
    have apart : files.length ≠ index := Nat.ne_of_lt lower
    exact ⟨inOrder_of_ne (own head member) covers apart,
      inOrder_of_ne covers (own head member) apart.symm⟩

/-- **Loading a file** gives regions that are laid in the files that it adds. -/
theorem adds_loadFile (parser : Parser) (tree : Files.Tree) (follows : Bool) (depth : Nat)
    (path directory : Path) :
    Adds (fun files added node => PartLaid parser files added [node])
      (loadFile parser tree follows depth path directory) := by
  induction depth generalizing path directory with
  | zero => exact fun done => nomatch done
  | succ depth hypothesis =>
    intro files places node last done
    rw [loadFile_succ] at done
    obtain ⟨⟨_, entered⟩, enters, done⟩ := run_bind_eq_ok_iff.mp done
    obtain ⟨_, _, same⟩ := run_enter_eq_ok_iff.mp enters
    cases same
    obtain ⟨⟨data, state⟩, reads, done⟩ := run_bind_eq_ok_iff.mp done
    obtain ⟨_, rfl⟩ := run_liftM_eq_ok_iff.mp reads
    refine adds_addSource (fun declaration => ?_) _ _ _ done
    rw [loadModule]
    cases (if follows then declaration.directory else none : Option Path) with
    | none => exact adds_nothing
    | some directory =>
      intro files places part last done
      obtain ⟨⟨found, state⟩, finds, done⟩ := run_bind_eq_ok_iff.mp done
      obtain ⟨_, rfl⟩ := run_liftM_eq_ok_iff.mp finds
      obtain ⟨⟨node, finish⟩, single, done⟩ := run_bind_eq_ok_iff.mp done
      cases done
      exact hypothesis _ _ single

/-! ### Crates -/

/-- A crate that was assembled, from its root file or from a source at hand. -/
inductive Assembled (parser : Parser) : Assembly → Prop where
  | file {tree : Files.Tree} {follows : Bool} {path : Path} {assembly : Assembly}
      (done : assemble parser tree follows path = .ok assembly) : Assembled parser assembly
  | source {name : String} {source : Source.Input} {assembly : Assembly}
      (done : assembleSource parser name source = .ok assembly) : Assembled parser assembly

/-- The regions of an assembled crate are laid in its files. -/
theorem exists_laid_of_assembled {assembly : Assembly} (assembled : Assembled parser assembly) :
    ∃ files, assembly.map = Map.ofFiles files ∧ (WellNestedIn parser files →
      Laid files 0 files.length (Node.regionsOfAll [assembly.outline])) := by
  cases assembled with
  | file done =>
    obtain ⟨⟨node, last⟩, loading, rfl⟩ := assemble_eq_ok_iff_loaded.mp done
    obtain ⟨files, places, rfl, laid⟩ := adds_loadFile _ _ _ _ _ _ loading
    exact ⟨files, rfl, laid files List.prefix_rfl⟩
  | source done =>
    obtain ⟨data, _, done⟩ := bind_eq_ok_iff.mp done
    change (StateT.run (addSource parser _ _ _ _) (.ofFiles [] [])).map Assembly.ofLoaded = _ at done
    cases loading : StateT.run (addSource parser _ _ data _) (.ofFiles [] []) with
    | error failure =>
      rw [loading] at done
      cases done
    | ok result =>
      rw [loading] at done
      cases done
      obtain ⟨files, places, same, laid⟩ := adds_addSource (fun _ => adds_nothing) _ _ _ loading
      exact ⟨files, congrArg Loaded.map same, laid files List.prefix_rfl⟩

/-- The files of a map are those that were added to it. -/
theorem wellNestedIn_of_files {files : Contents}
    (nested : ∀ file ∈ (Map.ofFiles files).files, (parser file.data).WellNested file.data.size) :
    WellNestedIn parser files := by
  intro content member
  have known := Map.files_ofFiles files
  rw [← contents_laidFrom 0 files, ← known, List.mem_map] at member
  obtain ⟨file, there, rfl⟩ := member
  exact nested file (Array.mem_toList_iff.mp there)

/-- **How the regions of a crate lie to each other.** When the trees of the files are well nested, each
region is covered by one file. Of two regions of one file the later one is inside the earlier one or starts at
or after its end; two regions of different files are apart, also where the module of the one is declared
inside the other. -/
theorem regions_nested {assembly : Assembly} (assembled : Assembled parser assembly)
    (nested : ∀ file ∈ assembly.map.files, (parser file.data).WellNested file.data.size) :
    (∀ region ∈ regions assembly.outline, ∃! index, assembly.map.Covers index region)
      ∧ (regions assembly.outline).Pairwise fun first second =>
          ∀ index other, assembly.map.Covers index first → assembly.map.Covers other second →
            (index = other → first.Follows second) ∧ (index ≠ other → first.Apart second) := by
  obtain ⟨files, same, laid⟩ := exists_laid_of_assembled assembled
  rw [same] at nested ⊢
  obtain ⟨covered, ordered⟩ := laid (wellNestedIn_of_files nested)
  rw [regions_eq, ← regionsOfAll_singleton]
  refine ⟨fun region member => ?_, ordered.imp fun inOrder index other covers covers' => ?_⟩
  · obtain ⟨index, _, _, covers⟩ := covered region member
    exact ⟨index, covers, fun other covers' => Map.heldAt_unique covers'.1 covers.1⟩
  · refine ⟨?_, apart_of_covers covers covers'⟩
    rintro rfl
    exact inOrder index covers covers'

/-- A module that is declared in an unsafe function, before an unsafe block. -/
def declaringText : String :=
  "unsafe fn f() \x7b mod m; unsafe \x7b g() \x7d \x7d\n"

def declaredText : String :=
  "unsafe fn h() \x7b unsafe \x7b \x7d \x7d\n"

def declaringParser : Parser := fun data =>
  if data = declaringText.toUTF8 then
    .node ⟨"source_file", 0, 40, true, false, false, none⟩
      [.node ⟨"function_item", 0, 39, true, false, false, none⟩
        [.node ⟨"function_modifiers", 0, 6, true, false, false, none⟩
          [.node ⟨"unsafe", 0, 6, false, false, false, none⟩ []],
         .node ⟨"block", 14, 39, true, false, false, some "body"⟩
          [.node ⟨"mod_item", 16, 22, true, false, false, none⟩
            [.node ⟨"identifier", 20, 21, true, false, false, some "name"⟩ []],
           .node ⟨"unsafe_block", 23, 37, true, false, false, none⟩
            [.node ⟨"block", 30, 37, true, false, false, none⟩ []]]]]
  else
    .node ⟨"source_file", 0, 29, true, false, false, none⟩
      [.node ⟨"function_item", 0, 28, true, false, false, none⟩
        [.node ⟨"function_modifiers", 0, 6, true, false, false, none⟩
          [.node ⟨"unsafe", 0, 6, false, false, false, none⟩ []],
         .node ⟨"block", 14, 28, true, false, false, some "body"⟩
          [.node ⟨"unsafe_block", 16, 26, true, false, false, none⟩
            [.node ⟨"block", 23, 26, true, false, false, none⟩ []]]]]

def declaringFiles : Files.Tree where
  entries :=
    [(["w"], .directory), (["w", "main.rs"], .file declaringText.toUTF8),
     (["w", "m.rs"], .file declaredText.toUTF8)]
  working := ["w"]

/-- The regions of the module stand between the function that declares it and the block in the function. -/
theorem regions_nested_declaring :
    ∃ assembly, Assembled declaringParser assembly
      ∧ (∀ file ∈ assembly.map.files, (declaringParser file.data).WellNested file.data.size)
      ∧ (regions assembly.outline).map boundsOf = [(0, 39), (41, 69), (57, 67), (23, 37)]
      ∧ (regions assembly.outline).Pairwise fun first second =>
          first.Follows second ∨ first.Apart second := by
  have computed : (assemble declaringParser declaringFiles true (Path.ofText "main.rs")).toOption.map
      (fun assembly => (assembly.map.files.toList.map File.data,
        assembly.outline.regionsBelow.map boundsOf))
      = some ([declaringText.toUTF8, declaredText.toUTF8],
          [(0, 39), (41, 69), (57, 67), (23, 37)]) := by
    decide +kernel
  obtain ⟨assembly, done, known⟩ := exists_of_toOption_map_eq_some computed
  obtain ⟨datas, bounds⟩ := Prod.mk.inj known
  have nested : ∀ file ∈ assembly.map.files,
      (declaringParser file.data).WellNested file.data.size := by
    intro file member
    have data : file.data ∈ [declaringText.toUTF8, declaredText.toUTF8] := by
      rw [← datas]
      exact List.mem_map_of_mem (Array.mem_toList_iff.mpr member)
    have all : ∀ data ∈ [declaringText.toUTF8, declaredText.toUTF8],
        (declaringParser data).WellNested data.size := by decide +kernel
    exact all _ data
  obtain ⟨covered, ordered⟩ := regions_nested (.file done) nested
  refine ⟨assembly, .file done, nested, by rw [regions_eq, bounds], ?_⟩
  refine ordered.imp_of_mem fun {first second} member member' pair => ?_
  obtain ⟨index, covers, _⟩ := covered first member
  obtain ⟨other, covers', _⟩ := covered second member'
  by_cases same : index = other
  · exact Or.inl ((pair index other covers covers').1 same)
  · exact Or.inr ((pair index other covers covers').2 same)

end UnsafeCensus.Crate
