/-
**How deep files are loaded below each other.**

Each file below another stands at a place that was not loaded before, and there are finitely many places of
which something is read. So the bound of the recursion is never reached: a bound above the number of these
places that are not loaded changes nothing, whatever the parser is.

* `unloaded`: how many places of a tree that can be read are none of some places;
* `Agree`: two actions that do the same wherever something holds, and keep it;
* `agree_run`: lowering does the same with loaders that do;
* `agree_loadFile`: loading a file does the same with one more level;
* `loadFile_eq_of_le`: all levels above the number of entries come to the same.
-/

import Mathlib
import UnsafeCensus.Proofs.Crate.Following

namespace UnsafeCensus.Crate

open Files Outline Source Syntax

/-! ### Places that are not loaded -/

/-- How many places of a tree that can be read are none of some places. -/
def unloaded (tree : Files.Tree) (places : List Place) : Nat :=
  (tree.readPlaces \ places.toFinset).card

theorem unloaded_le (tree : Files.Tree) (places : List Place) :
    unloaded tree places ≤ tree.entries.length :=
  (Finset.card_le_card Finset.sdiff_subset).trans tree.card_readPlaces_le

/-- A new place that can be read leaves fewer of them. -/
theorem unloaded_cons_lt {tree : Files.Tree} {place : Place} {places : List Place}
    (there : place ∈ tree.readPlaces) (fresh : place ∉ places) :
    unloaded tree (place :: places) < unloaded tree places := by
  refine Finset.card_lt_card (Finset.ssubset_iff_of_subset ?_ |>.mpr ⟨place, ?_, ?_⟩)
  · refine Finset.sdiff_subset_sdiff Finset.Subset.rfl ?_
    rw [List.toFinset_cons]
    exact Finset.subset_insert _ _
  · rw [Finset.mem_sdiff, List.mem_toFinset]
    exact ⟨there, fresh⟩
  · rw [Finset.mem_sdiff, List.mem_toFinset]
    exact fun left => left.2 List.mem_cons_self

/-! ### Actions that agree -/

/-- Wherever something holds of the state, two actions do the same, and it holds of the state after them. -/
structure Agree {σ α : Type} (kept : σ → Prop) (first second : Lowering σ α) : Prop where
  same : ∀ {state}, kept state → StateT.run first state = StateT.run second state
  keeps : Keeps kept (fun _ => True) first

section Agree

variable {σ α β : Type} {kept : σ → Prop}

theorem Agree.lift (attempt : Except Failure α) :
    Agree kept (liftM attempt : Lowering σ α) (liftM attempt) where
  same _ := rfl
  keeps _ _ _ holds done := by
    obtain ⟨_, rfl⟩ := run_liftM_eq_ok_iff.mp done
    exact ⟨holds, trivial⟩

theorem Agree.pure (value : α) : Agree kept (Pure.pure value : Lowering σ α) (Pure.pure value) :=
  Agree.lift (Except.ok value)

/-- Sequences agree when their parts do. -/
theorem Agree.bind {first second : Lowering σ α} {next next' : α → Lowering σ β}
    (agree : Agree kept first second) (onward : ∀ value, Agree kept (next value) (next' value)) :
    Agree kept (first >>= next) (second >>= next') where
  same := by
    intro state holds
    rw [StateT.run_bind, StateT.run_bind, ← agree.same holds]
    cases done : StateT.run first state with
    | error failure => rfl
    | ok result => exact (onward result.1).same (agree.keeps holds done).1
  keeps := by
    intro state last value holds done
    obtain ⟨middle, begun, done⟩ := run_bind_eq_ok_iff.mp done
    exact (onward middle.1).keeps (agree.keeps holds begun).1 done

/-- After an attempt only its result has to be looked at. -/
theorem Agree.bind_lift {attempt : Except Failure α} {next next' : α → Lowering σ β}
    (onward : ∀ value, attempt = .ok value → Agree kept (next value) (next' value)) :
    Agree kept (liftM attempt >>= next) (liftM attempt >>= next') := by
  cases attempt with
  | ok value =>
    show Agree kept (Pure.pure value >>= next) (Pure.pure value >>= next')
    rw [pure_bind, pure_bind]
    exact onward value rfl
  | error failure => exact ⟨fun _ => rfl, fun _ _ _ _ done => nomatch done⟩

variable {load load' : Declaration → Lowering σ (List Node)}

mutual

/-- Lowering a tree does the same with loaders that agree on its modules. -/
theorem agree_run (data : ByteArray) (base : Int) :
    (position : Position) → (concrete : Syntax.Tree) →
      (∀ declaration ∈ declarations data position concrete,
        Agree kept (load declaration) (load' declaration)) →
      Agree kept (Lowering.run load data base position concrete)
        (Lowering.run load' data base position concrete)
  | position, .node head children, agree => by
    rw [declarations, List.forall_mem_append] at agree
    rw [Lowering.run, Lowering.run]
    refine (agree_runAll data base _ children agree.1).bind fun built => ?_
    by_cases bodiless : isBodiless (.node head children) = true
    · rw [if_pos bodiless, List.forall_mem_singleton] at agree
      rw [if_pos bodiless, if_pos bodiless]
      exact agree.2.bind fun parts => Agree.lift _
    · rw [if_neg bodiless, if_neg bodiless]
      exact Agree.lift _

theorem agree_runAll (data : ByteArray) (base : Int) :
    (position : Position) → (trees : List Syntax.Tree) →
      (∀ declaration ∈ declarationsOf data position trees,
        Agree kept (load declaration) (load' declaration)) →
      Agree kept (Lowering.runAll load data base position trees)
        (Lowering.runAll load' data base position trees)
  | _, [], _ => by
    rw [Lowering.runAll, Lowering.runAll]
    exact Agree.pure []
  | position, concrete :: rest, agree => by
    rw [declarationsOf] at agree
    rw [Lowering.runAll, Lowering.runAll]
    by_cases named : concrete.head.named = true
    · rw [if_pos named, List.forall_mem_append] at agree
      rw [if_pos named, if_pos named]
      exact (agree_run data base position concrete agree.1).bind fun first =>
        (agree_runAll data base _ rest agree.2).bind fun others => Agree.pure _
    · rw [if_neg named] at agree
      rw [if_neg named, if_neg named]
      exact agree_runAll data base position rest agree

end

end Agree

/-! ### Levels -/

variable {parser : Parser} {tree : Files.Tree} {follows : Bool} {path directory : Path}

/-- Fewer places than a number are not loaded. -/
def Fewer (tree : Files.Tree) (depth : Nat) (loaded : Loaded) : Prop :=
  unloaded tree loaded.places < depth

/-- A file that is entered and can be read is one of those that were not loaded. -/
theorem fewer_of_entered {depth : Nat} {loaded : Loaded} {data : ByteArray} (regular : path.Regular)
    (fewer : Fewer tree (depth + 1) loaded) (fresh : path.absolute tree.working ∉ loaded.places)
    (read : readSource tree path = .ok data) :
    Fewer tree depth { loaded with places := path.absolute tree.working :: loaded.places } := by
  have there := Files.Tree.mem_readPlaces_of_read regular (readSource_eq_ok_iff.mp read).1
  have less := unloaded_cons_lt there fresh
  exact less.trans_le (Nat.le_of_lt_succ fewer)

/-- Adding bytes does the same with loaders that agree on the modules of their tree. -/
theorem agree_addSource {depth : Nat} {load load' : Declaration → Lowering Loaded (List Node)}
    {data : ByteArray} {place : Option Path}
    (agree : ∀ declaration ∈ declarations data { directory := place } (parser data),
      Agree (Fewer tree depth) (load declaration) (load' declaration)) (name : String) :
    Agree (Fewer tree depth) (addSource parser load name data place)
      (addSource parser load' name data place) where
  same := by
    intro loaded fewer
    rw [run_addSource_eq, run_addSource_eq]
    refine bind_congr fun _ => (agree_run data _ _ _ agree).same ?_
    exact fewer
  keeps := by
    intro loaded last node fewer done
    rw [run_addSource_eq] at done
    cases checked : checkTree (loaded.map.nextFile name data) (parser data) with
    | error failure =>
      rw [checked] at done
      cases done
    | ok passed =>
      rw [checked] at done
      exact (agree_run data _ _ _ agree).keeps
        (show Fewer tree depth { loaded with map := loaded.map.add name data } from fewer) done

/-- Loading a module does the same with one more level when loading its file does. -/
theorem agree_loadModule {depth : Nat} {declaration : Declaration} (regular : path.Regular)
    (looked : ∀ directory ∈ declaration.directory, directory.Regular)
    (single : ∀ {path directory : Path}, path.Regular → directory.Regular →
      Agree (Fewer tree depth) (loadFile parser tree follows depth path directory)
        (loadFile parser tree follows (depth + 1) path directory)) :
    Agree (Fewer tree depth) (loadModule parser tree follows depth path declaration)
      (loadModule parser tree follows (depth + 1) path declaration) := by
  rw [loadModule, loadModule]
  cases choice : (if follows then declaration.directory else none : Option Path) with
  | none => exact Agree.pure []
  | some directory =>
    refine Agree.bind_lift fun found leads => ?_
    have known : declaration.directory = some directory := by
      cases follows with
      | true => exact choice
      | false => cases choice
    have regularFound := (leads_iff.mp ⟨directory, known, leads⟩).1.regular regular looked
    exact (single regularFound (regular_moduleDirectory regularFound)).bind fun node => Agree.pure _

/-- **Loading a file** does the same with one more level wherever there are more levels than places that are
not loaded. -/
theorem agree_loadFile (depth : Nat) (regular : path.Regular) (regularDirectory : directory.Regular) :
    Agree (Fewer tree depth) (loadFile parser tree follows depth path directory)
      (loadFile parser tree follows (depth + 1) path directory) := by
  induction depth generalizing path directory with
  | zero =>
    exact ⟨fun none => absurd none (Nat.not_lt_zero _),
      fun _ _ _ none => absurd none (Nat.not_lt_zero _)⟩
  | succ depth hypothesis =>
    -- What is added once the file is entered and read.
    have below (data : ByteArray) : Agree (Fewer tree depth)
        (addSource parser (loadModule parser tree follows depth path) path.text data (some directory))
        (addSource parser (loadModule parser tree follows (depth + 1) path) path.text data
          (some directory)) :=
      agree_addSource (fun declaration member => agree_loadModule regular
        (regular_of_mem_declarations data _ (parser data) (.some regularDirectory) declaration member)
        hypothesis) path.text
    refine ⟨fun {loaded} fewer => ?_, fun loaded last node fewer done => ?_⟩
    · rw [loadFile_succ, loadFile_succ, StateT.run_bind, StateT.run_bind]
      cases entered : StateT.run (enter tree path) loaded with
      | error failure => exact Eq.trans (b := Except.error failure) rfl rfl
      | ok result =>
        obtain ⟨_, fresh, rfl⟩ := run_enter_eq_ok_iff.mp entered
        cases read : readSource tree path with
        | error failure => exact Eq.trans (b := Except.error failure) rfl rfl
        | ok data => exact (below data).same (fewer_of_entered regular fewer fresh read)
    · rw [loadFile_succ] at done
      obtain ⟨_, entered, done⟩ := run_bind_eq_ok_iff.mp done
      obtain ⟨_, fresh, rfl⟩ := run_enter_eq_ok_iff.mp entered
      obtain ⟨⟨data, _⟩, reads, done⟩ := run_bind_eq_ok_iff.mp done
      obtain ⟨read, rfl⟩ := run_liftM_eq_ok_iff.mp reads
      have left := (below data).keeps (fewer_of_entered regular fewer fresh read) done
      exact ⟨left.1.trans (Nat.lt_succ_self depth), trivial⟩

/-- **All levels above the number of entries come to the same**: the bound of the recursion is never
reached. -/
theorem loadFile_eq_of_le {depth : Nat} (enough : tree.entries.length < depth) (regular : path.Regular)
    (regularDirectory : directory.Regular) :
    loadFile parser tree follows depth path directory
      = loadFile parser tree follows (tree.entries.length + 1) path directory := by
  obtain ⟨more, rfl⟩ := Nat.exists_eq_add_of_le (show tree.entries.length + 1 ≤ depth from enough)
  clear enough
  induction more with
  | zero => rfl
  | succ more hypothesis =>
    rw [← hypothesis]
    refine StateT.ext fun loaded => ((agree_loadFile _ regular regularDirectory).same ?_).symm
    exact Nat.lt_of_lt_of_le (Nat.lt_succ_of_le (unloaded_le tree loaded.places)) (Nat.le_add_right _ _)

end UnsafeCensus.Crate
