/-
**What following the modules of a root file adds to it.**

A root file whose modules are not followed comes to what its bytes come to at hand. When they are followed,
further files are added after it. A place is loaded once and is known from the name of its file, so none of
these files has the name of the root; and the outlines of the modules have all their regions after its end.

* `exists_run_bare`: what lowering comes to when no module is loaded;
* `assemble_unfollowed`: the crate of a root file whose modules are not followed;
* `Keeps`: what an action that succeeds keeps of a state;
* `RootFirst`: a root file was loaded first, and no other file under its name;
* `keeps_modules`, `keeps_loadFile`: loading the modules of a file and loading a file keep this;
* `assemble_followed`: the crate of a root file whose modules are followed.
-/

import Mathlib
import UnsafeCensus.Proofs.Crate.Found
import UnsafeCensus.Proofs.Crate.Outcome

namespace UnsafeCensus.Crate

open Files Outline Source Syntax

/-! ### Modules that are not followed -/

namespace Lowering

mutual

/-- A tree whose modules are not loaded is lowered by an attempt that knows neither what was loaded nor where
modules are looked for. -/
theorem exists_run_bare (data : ByteArray) (base : Int) :
    (around : Surroundings) → (tree : Syntax.Tree) →
      ∃ attempt : Except Failure Node, ∀ {σ : Type} (position : Position), position.around = around →
        run (fun _ => pure []) data base position tree = (liftM attempt : Lowering σ Node)
  | around, .node head children => by
    obtain ⟨built, same⟩ := exists_runAll_bare data base (around.below head.type) children
    refine ⟨do
      let nodes ← built
      outlineNode data base around (.node head children)
        (if isBodiless (.node head children) then [] else nodes), ?_⟩
    rintro σ position rfl
    rw [run, same (position.below data (.node head children)) rfl, liftM_bind]
    refine bind_congr fun nodes => ?_
    -- What is loaded for a module is nothing, so the declaration does not matter.
    by_cases bodiless : isBodiless (.node head children) = true
    · rw [if_pos bodiless, if_pos bodiless, pure_bind]
    · rw [if_neg bodiless, if_neg bodiless, pure_bind]

theorem exists_runAll_bare (data : ByteArray) (base : Int) :
    (around : Surroundings) → (trees : List Syntax.Tree) →
      ∃ attempt : Except Failure (List Node), ∀ {σ : Type} (position : Position),
        position.around = around →
          runAll (fun _ => pure []) data base position trees
            = (liftM attempt : Lowering σ (List Node))
  | _, [] => ⟨pure [], fun _ _ => by rw [runAll]; rfl⟩
  | around, tree :: rest => by
    obtain ⟨first, same⟩ := exists_run_bare data base around tree
    obtain ⟨others, sameOthers⟩ := exists_runAll_bare data base around rest
    by_cases named : tree.head.named = true
    · refine ⟨do
        let node ← first
        let nodes ← others
        return node :: nodes, ?_⟩
      intro σ position surrounded
      rw [runAll, if_pos named, same position surrounded,
        sameOthers (position.past tree) surrounded]
      simp only [liftM_bind, liftM_pure]
    · refine ⟨others, ?_⟩
      intro σ position surrounded
      rw [runAll, if_neg named, sameOthers position surrounded]

end

end Lowering

/-- Bytes whose modules are not loaded come to the same wherever modules are looked for, at whatever places
files were loaded. -/
theorem exists_run_addSource_bare (parser : Parser) (map : Map) (name : String) (data : ByteArray) :
    ∃ attempt : Except Failure Node, ∀ directory places,
      StateT.run (addSource parser (fun _ => pure []) name data directory) ⟨map, places⟩
        = attempt.map fun node => (node, ⟨map.add name data, places⟩) := by
  obtain ⟨lowered, same⟩ :=
    Lowering.exists_run_bare data (map.nextFile name data).start {} (parser data)
  refine ⟨do
    checkTree (map.nextFile name data) (parser data)
    lowered, fun directory places => ?_⟩
  rw [addSource, StateT.run_bind]
  show StateT.run (do
    checkTree (map.nextFile name data) (parser data)
    Lowering.run (fun _ => pure []) data (map.nextFile name data).start { directory } (parser data)
      : Lowering Loaded Node) ⟨map.add name data, places⟩ = _
  rw [same { directory } rfl]
  cases checkTree (map.nextFile name data) (parser data) with
  | error failure => rfl
  | ok passed => cases lowered <;> rfl

variable {parser : Parser} {tree : Files.Tree} {path directory : Path}

/-- **The crate of a root file whose modules are not followed** is that of its bytes at hand. -/
theorem assemble_unfollowed {data : ByteArray} (plain : '\x00' ∉ path.text.toList)
    (read : readSource tree path = .ok data) :
    assemble parser tree false path = assembleSource parser path.text data := by
  obtain ⟨attempt, same⟩ := exists_run_addSource_bare parser .empty path.text data
  have entered : StateT.run (enter tree path) (.ofFiles [] [])
      = .ok ((), .ofFiles [] [path.absolute tree.working]) :=
    run_enter_eq_ok_iff.mpr ⟨plain, List.not_mem_nil, rfl⟩
  have loaded : StateT.run (loadFile parser tree false (tree.entries.length + 2) path path.parent)
      (.ofFiles [] [])
      = StateT.run (addSource parser (fun _ => pure []) path.text data (some path.parent))
          ⟨.empty, [path.absolute tree.working]⟩ := by
    rw [loadFile_succ, StateT.run_bind, entered, read]
    rfl
  show Except.map Assembly.ofLoaded (StateT.run (loadFile parser tree false _ path path.parent)
      (.ofFiles [] []))
    = Except.map Assembly.ofLoaded (StateT.run (addSource parser (fun _ => pure []) path.text data none)
      ⟨.empty, []⟩)
  rw [loaded, same, same]
  cases attempt <;> rfl

/-! ### What an action keeps -/

/-- Whenever an action succeeds, it keeps what held of the state, and its result is right. -/
def Keeps {σ α : Type} (kept : σ → Prop) (right : α → Prop) (action : Lowering σ α) : Prop :=
  ∀ ⦃state last : σ⦄ ⦃value : α⦄, kept state → StateT.run action state = .ok (value, last) →
    kept last ∧ right value

theorem keeps_mapM {σ α β : Type} {kept : σ → Prop} {right : β → Prop} {visit : α → Lowering σ β}
    {items : List α} (each : ∀ item ∈ items, Keeps kept right (visit item)) :
    Keeps kept (fun results => ∀ value ∈ results, right value) (items.mapM visit) := by
  induction items with
  | nil =>
    rintro state last results holds ⟨⟩
    exact ⟨holds, fun _ member => absurd member List.not_mem_nil⟩
  | cons item rest hypothesis =>
    obtain ⟨single, others⟩ := List.forall_mem_cons.mp each
    intro state last results holds done
    rw [List.mapM_cons] at done
    obtain ⟨⟨value, middle⟩, first, done⟩ := run_bind_eq_ok_iff.mp done
    obtain ⟨⟨values, finish⟩, more, done⟩ := run_bind_eq_ok_iff.mp done
    cases done
    obtain ⟨holds, right⟩ := single holds first
    obtain ⟨holds, rights⟩ := hypothesis others holds more
    exact ⟨holds, List.forall_mem_cons.mpr ⟨right, rights⟩⟩

/-! ### The root file comes first -/

/-- A root file was loaded first, and no other file under its name. -/
inductive RootFirst (tree : Files.Tree) (root : Path) (data : ByteArray) : Loaded → Prop where
  | intro {others : Contents} {places : List Place} (known : root.absolute tree.working ∈ places)
      (apart : ∀ file ∈ others, file.1 ≠ root.text) :
      RootFirst tree root data (.ofFiles ((root.text, data) :: others) places)

/-- Regions that start after the end of some bytes. -/
def StartsAfter (data : ByteArray) (extents : List Extent) : Prop :=
  ∀ extent ∈ extents, data.size < extent.start

/-- The positions in a file look for modules in directories that can be read back from their text. -/
def Position.Regular (position : Position) : Prop :=
  ∀ directory ∈ position.directory, directory.Regular

theorem Position.Regular.some (regular : directory.Regular) :
    ({ directory := some directory } : Position).Regular := by
  rintro _ ⟨⟩
  exact regular

theorem Position.Regular.below {position : Position} (regular : position.Regular) (data : ByteArray)
    (concrete : Syntax.Tree) : (position.below data concrete).Regular := by
  intro directory member
  rw [Position.below] at member
  split at member
  · obtain ⟨outer, known, rfl⟩ := Option.map_eq_some_iff.mp member
    exact Path.regular_joinText (regular outer known) _
  · exact regular directory member

mutual

theorem regular_of_mem_declarations (data : ByteArray) :
    (position : Position) → (concrete : Syntax.Tree) → position.Regular →
      ∀ declaration ∈ declarations data position concrete,
        ∀ directory ∈ declaration.directory, directory.Regular
  | position, .node head children, regular => by
    intro declaration member
    rw [declarations, List.mem_append] at member
    rcases member with inner | own
    · exact regular_of_mem_declarationsOf data _ children (regular.below data _) declaration inner
    · split at own
      · rw [List.mem_singleton.mp own]
        exact regular
      · exact absurd own List.not_mem_nil

theorem regular_of_mem_declarationsOf (data : ByteArray) :
    (position : Position) → (trees : List Syntax.Tree) → position.Regular →
      ∀ declaration ∈ declarationsOf data position trees,
        ∀ directory ∈ declaration.directory, directory.Regular
  | _, [], _ => fun _ member => absurd member List.not_mem_nil
  | position, concrete :: rest, regular => by
    intro declaration member
    rw [declarationsOf] at member
    split at member
    · rcases List.mem_append.mp member with first | others
      · exact regular_of_mem_declarations data position concrete regular declaration first
      · exact regular_of_mem_declarationsOf data (position.past concrete) rest regular declaration
          others
    · exact regular_of_mem_declarationsOf data position rest regular declaration member

end

variable {root : Path} {data : ByteArray}

/-- A path whose place is new does not have the name of a path that was loaded. -/
theorem text_ne_of_fresh {places : List Place} (regularRoot : root.Regular) (regular : path.Regular)
    (known : root.absolute tree.working ∈ places) (fresh : path.absolute tree.working ∉ places) :
    path.text ≠ root.text := by
  intro same
  rw [Path.absolute_eq regular, same, ← Path.absolute_eq regularRoot] at fresh
  exact fresh known

theorem keeps_loadModule (regular : path.Regular) {depth : Nat} {declaration : Declaration}
    (looked : ∀ directory ∈ declaration.directory, directory.Regular)
    (single : ∀ {path}, path.Regular → Keeps (RootFirst tree root data)
      (fun node : Node => StartsAfter data node.regionsBelow)
      (loadFile parser tree true depth path (moduleDirectory path))) :
    Keeps (RootFirst tree root data) (fun part => StartsAfter data (Node.regionsOfAll part))
      (loadModule parser tree true depth path declaration) := by
  intro state last part holds done
  cases known : declaration.directory with
  | none =>
    simp only [loadModule, known, if_true] at done
    cases done
    exact ⟨holds, fun _ member => absurd member List.not_mem_nil⟩
  | some directory =>
    obtain ⟨child, leads, node, rfl, loading⟩ :=
      (run_loadModule_eq_ok_iff (Option.isSome_iff_exists.mpr ⟨_, known⟩)).mp done
    have regularChild := (leads_iff.mp leads).1.regular regular looked
    obtain ⟨holds, after⟩ := single regularChild holds loading
    refine ⟨holds, ?_⟩
    show StartsAfter data (Node.regionsOfAll [node])
    rw [regionsOfAll_singleton]
    exact after

theorem keeps_modules (regular : path.Regular) (regularDirectory : directory.Regular)
    (bytes : ByteArray) {depth : Nat}
    (single : ∀ {path}, path.Regular → Keeps (RootFirst tree root data)
      (fun node : Node => StartsAfter data node.regionsBelow)
      (loadFile parser tree true depth path (moduleDirectory path))) :
    Keeps (RootFirst tree root data)
      (fun parts => ∀ part ∈ parts, StartsAfter data (Node.regionsOfAll part))
      ((declarations bytes { directory := some directory } (parser bytes)).mapM
        (loadModule parser tree true depth path)) := by
  have declared := regular_of_mem_declarations bytes { directory := some directory } (parser bytes)
    (.some regularDirectory)
  exact keeps_mapM fun declaration member =>
    keeps_loadModule regular (declared declaration member) single

/-- **Loading a file keeps the root file first**, and the outline of the file has its regions after the end of
the root. -/
theorem keeps_loadFile (ranged : ∀ data, (parser data).InRange data.size)
    (regularRoot : root.Regular) (depth : Nat) (regular : path.Regular)
    (regularDirectory : directory.Regular) :
    Keeps (RootFirst tree root data) (fun node => StartsAfter data node.regionsBelow)
      (loadFile parser tree true depth path directory) := by
  induction depth generalizing path directory with
  | zero => exact fun _ _ _ _ done => nomatch done
  | succ depth hypothesis =>
    rintro _ last node ⟨known, apart⟩ done
    obtain ⟨fresh, bytes, _, parts, loading, rfl⟩ := (run_loadFile_succ_eq_ok_iff ranged).mp done
    -- The place of the root was loaded, and the name of a file decides its place.
    have named := text_ne_of_fresh regularRoot regular known fresh
    have modules := keeps_modules regular regularDirectory bytes fun regular =>
      hypothesis regular (regular_moduleDirectory regular)
    obtain ⟨first, after⟩ := modules (.intro (List.mem_cons_of_mem _ known)
      (List.forall_mem_append.mpr ⟨apart, List.forall_mem_singleton.mpr named⟩)) loading
    refine ⟨first, forall_regionsBelow_weave bytes _ {} parts (parser bytes) (fun head _ => ?_) after⟩
    -- The file starts where the files before it end, and the root is one of them.
    rw [extentFrom, span_cons]
    show data.size < data.size + 1 + _ + _
    omega

/-- **The crate of a root file whose modules are followed** has the root file first and no other file under its
name. Its outline is that of the root, with parts for the modules that have their regions after its end. -/
theorem assemble_followed (ranged : ∀ data, (parser data).InRange data.size)
    (regular : root.Regular) {assembly : Assembly}
    (done : assemble parser tree true root = .ok assembly) :
    ∃ data others parts, Measurable parser tree root data
      ∧ (∀ file ∈ others, file.1 ≠ root.text)
      ∧ (∀ part ∈ parts, StartsAfter data (Node.regionsOfAll part))
      ∧ assembly = ⟨Map.ofFiles ((root.text, data) :: others), weave data 0 {} parts (parser data)⟩ := by
  obtain ⟨⟨node, loaded⟩, loading, rfl⟩ := assemble_eq_ok_iff_loaded.mp done
  obtain ⟨_, data, measurable, parts, modules, rfl⟩ := (run_loadFile_succ_eq_ok_iff ranged).mp loading
  have started : RootFirst tree root data
      (.ofFiles [(root.text, data)] [root.absolute tree.working]) :=
    .intro List.mem_cons_self fun _ member => absurd member List.not_mem_nil
  obtain ⟨⟨_, apart⟩, after⟩ := keeps_modules regular (Path.regular_parent regular) data
    (fun regularChild => keeps_loadFile ranged regular _ regularChild
      (regular_moduleDirectory regularChild)) started modules
  exact ⟨data, _, parts, measurable, apart, after, rfl⟩

end UnsafeCensus.Crate
