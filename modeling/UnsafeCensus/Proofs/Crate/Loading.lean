/-
**Loading is finding the branch that stands.**

* `readSource_eq_ok_iff`: when the bytes of a source file are read;
* `run_enter`, `run_addSource`: what entering a path and adding bytes do to what was loaded;
* `run_loadFile_eq_ok_iff`: loading a file succeeds exactly when a branch stands there whose places are new,
  and gives its outline and adds its files;
* `assemble_eq_ok_iff`: the same for the crate of a root file.
-/

import Mathlib
import UnsafeCensus.Proofs.Attempt
import UnsafeCensus.Proofs.Crate.Branch
import UnsafeCensus.Proofs.Files.Walk

namespace UnsafeCensus.Crate

open Files Outline Source Syntax

/-! ### Loading one file -/

/-- A sequence succeeds exactly when its parts do. -/
theorem run_bind_eq_ok_iff {σ α β : Type} {first : Lowering σ α} {second : α → Lowering σ β}
    {state : σ} {result : β × σ} :
    StateT.run (first >>= second) state = .ok result ↔
      ∃ middle, StateT.run first state = .ok middle
        ∧ StateT.run (second middle.1) middle.2 = .ok result := by
  rw [StateT.run_bind]
  cases StateT.run first state with
  | ok middle => simp [bind, Except.bind]
  | error failure => simp [bind, Except.bind]

/-- What has no effect on the state succeeds with the state it met. -/
theorem run_liftM_eq_ok_iff {σ α : Type} {attempt : Except Failure α} {state : σ} {result : α × σ} :
    StateT.run (liftM attempt : Lowering σ α) state = .ok result ↔
      attempt = .ok result.1 ∧ result.2 = state := by
  obtain ⟨value, last⟩ := result
  cases attempt with
  | ok found =>
    show Except.ok (found, state) = .ok (value, last) ↔ _
    simp [eq_comm]
  | error failure => exact ⟨nofun, nofun⟩

/-- An attempt whose result is known to have a value succeeds with it. -/
theorem exists_of_toOption_map_eq_some {ε α β : Type} {attempt : Except ε α} {value : α → β}
    {known : β} (computed : attempt.toOption.map value = some known) :
    ∃ result, attempt = .ok result ∧ value result = known := by
  cases attempt with
  | error failure => cases computed
  | ok result => exact ⟨result, rfl, Option.some.inj computed⟩

/-- What is loaded for a module: the outline of the file that it leads to, or nothing. -/
def loadModule (parser : Parser) (tree : Files.Tree) (follows : Bool) (depth : Nat) (file : Path)
    (declaration : Declaration) : Lowering Loaded (List Node) := do
  match if follows then declaration.directory else none with
  | none => return []
  | some directory =>
    let path ← moduleFile tree file directory declaration
    return [← loadFile parser tree follows depth path (moduleDirectory path)]

/-- What was loaded when some files were, at some places, the last one first. -/
def Loaded.ofFiles (files : Contents) (places : List Place) : Loaded :=
  ⟨Map.ofFiles files, places⟩

variable {parser : Parser} {tree : Files.Tree} {follows : Bool} {depth : Nat} {path directory : Path}
  {files : Contents} {places : List Place}

theorem placeOf_eq_ok_iff {place : Place} :
    placeOf tree path = .ok place ↔
      '\x00' ∉ path.text.toList ∧ path.absolute tree.working = place := by
  by_cases null : '\x00' ∈ path.text.toList <;> simp [placeOf, null]

/-- A path is entered when its place is new. -/
theorem run_enter {loaded : Loaded} :
    StateT.run (enter tree path) loaded = do
      let place ← placeOf tree path
      if loaded.places.contains place then throw (includedTwice path)
      else return ((), { loaded with places := place :: loaded.places }) := by
  rw [enter, StateT.run_bind]
  cases placeOf tree path with
  | error failure => rfl
  | ok place =>
    show StateT.run (if loaded.places.contains place then throw (includedTwice path)
      else set { loaded with places := place :: loaded.places } : Lowering Loaded Unit) loaded
        = if loaded.places.contains place then _ else _
    by_cases known : loaded.places.contains place = true
    · rw [if_pos known, if_pos known]
      rfl
    · rw [if_neg known, if_neg known]
      rfl

/-- Bytes are added to the map before their tree is checked and lowered. -/
theorem run_addSource_eq (load : Declaration → Lowering Loaded (List Node)) (name : String)
    (data : ByteArray) (directory : Option Path) (loaded : Loaded) :
    StateT.run (addSource parser load name data directory) loaded
      = checkTree (loaded.map.nextFile name data) (parser data) >>= fun _ =>
          StateT.run
            (Lowering.run load data (loaded.map.nextFile name data).start { directory } (parser data))
            { loaded with map := loaded.map.add name data } := by
  rw [addSource, StateT.run_bind]
  show StateT.run (do
    set { loaded with map := loaded.map.add name data }
    checkTree (loaded.map.nextFile name data) (parser data)
    Lowering.run load data (loaded.map.nextFile name data).start { directory } (parser data)
      : Lowering Loaded Node) loaded = _
  cases checkTree (loaded.map.nextFile name data) (parser data) <;> rfl

theorem nextFile_ofFiles (files : Contents) (name : String) (data : ByteArray) :
    (Map.ofFiles files).nextFile name data = File.ofData name (span files) data := by
  rw [Map.nextFile, Map.nextStart_ofFiles]

theorem Loaded.ofFiles_concat (files : Contents) (places : List Place) (name : String)
    (data : ByteArray) :
    Loaded.ofFiles (files ++ [(name, data)]) places
      = { Loaded.ofFiles files places with map := (Map.ofFiles files).add name data } := by
  rw [Loaded.ofFiles, Map.ofFiles_concat]
  rfl

/-- Bytes are refused when their tree holds a fault. Otherwise their modules are loaded, with the bytes
added to the files, and woven into their outline. -/
theorem run_addSource (ranged : ∀ data, (parser data).InRange data.size)
    (load : Declaration → Lowering Loaded (List Node)) (name : String) (data : ByteArray)
    (directory : Option Path) :
    StateT.run (addSource parser load name data directory) (.ofFiles files places) = do
      checkTree (File.ofData name (span files) data) (parser data)
      let (parts, loaded) ←
        StateT.run ((declarations data { directory } (parser data)).mapM load)
          (.ofFiles (files ++ [(name, data)]) places)
      return (weave data (span files) {} parts (parser data), loaded) := by
  have run := Lowering.run_eq load data (span files) data.size { directory } (parser data)
    (ranged data)
  have start := nextFile_ofFiles files name data
  rw [run_addSource_eq]
  show (do
    checkTree ((Map.ofFiles files).nextFile name data) (parser data)
    StateT.run
      (Lowering.run load data ((Map.ofFiles files).nextFile name data).start { directory }
        (parser data))
      { Loaded.ofFiles files places with map := (Map.ofFiles files).add name data }
      : Except Failure (Node × Loaded)) = _
  rw [start, ← Loaded.ofFiles_concat]
  refine bind_congr fun _ => ?_
  show StateT.run (Lowering.run load data (span files) { directory } (parser data)) _ = _
  rw [run, StateT.run_bind]
  rfl

/-- A file is loaded by entering its place, reading it, and adding its bytes. -/
theorem loadFile_succ (parser : Parser) (tree : Files.Tree) (follows : Bool) (depth : Nat)
    (path directory : Path) :
    loadFile parser tree follows (depth + 1) path directory =
      (do
        enter tree path
        let data ← readSource tree path
        addSource parser (loadModule parser tree follows depth path) path.text data
          (some directory)) :=
  rfl

/-! ### Success -/

/-- A path is entered exactly when it can be asked for and its place is new. -/
theorem run_enter_eq_ok_iff {loaded : Loaded} {result : Unit × Loaded} :
    StateT.run (enter tree path) loaded = .ok result ↔
      '\x00' ∉ path.text.toList ∧ path.absolute tree.working ∉ loaded.places
        ∧ result = ((), { loaded with places := path.absolute tree.working :: loaded.places }) := by
  rw [run_enter]
  cases placed : placeOf tree path with
  | error failure =>
    have impossible (plain : '\x00' ∉ path.text.toList) : False := by
      rw [placeOf_eq_ok_iff.mpr ⟨plain, rfl⟩] at placed
      cases placed
    exact ⟨nofun, fun entered => (impossible entered.1).elim⟩
  | ok place =>
    obtain ⟨plain, rfl⟩ := placeOf_eq_ok_iff.mp placed
    by_cases known : path.absolute tree.working ∈ loaded.places
    · simp [bind, Except.bind, known, throw, throwThe, MonadExceptOf.throw]
    · simp [bind, Except.bind, known, plain, pure, Except.pure, eq_comm]

theorem checkTree_eq_ok_iff (file : File) {concrete : Syntax.Tree} :
    checkTree file concrete = .ok () ↔ concrete.hasError = false := by
  rw [checkTree]
  cases concrete.hasError with
  | false => exact ⟨fun _ => rfl, fun _ => rfl⟩
  | true =>
    have refused : (do throw (.diagnosed (← syntaxError file concrete)) : Except Failure Unit)
        ≠ .ok () := by
      intro passed
      cases told : syntaxError file concrete with
      | error failure =>
        rw [told] at passed
        cases passed
      | ok diagnostic =>
        rw [told] at passed
        cases passed
    exact ⟨fun passed => absurd passed refused, fun sound => Bool.noConfusion sound⟩

/-- The bytes of a source file can be read and are told to be not too many. -/
theorem readSource_eq_ok_iff {data : ByteArray} :
    readSource tree path = .ok data ↔
      tree.read path.text = .ok data ∧ ∃ size ≤ largestSource, tree.size path.text = .ok size := by
  rw [readSource]
  cases told : tree.size path.text with
  | error trouble => exact ⟨nofun, fun ⟨_, _, _, size⟩ => nomatch size⟩
  | ok size =>
    show (if largestSource < size then _ else _) = _ ↔ _
    by_cases large : largestSource < size
    · rw [if_pos large]
      refine ⟨nofun, ?_⟩
      rintro ⟨_, _, small, ⟨⟩⟩
      exact absurd large (Nat.not_lt.mpr small)
    · rw [if_neg large, mapError_eq_ok_iff]
      exact ⟨fun read => ⟨read, size, Nat.not_lt.mp large, rfl⟩, And.left⟩

/-- Bytes that can be read and are not too many are those of a source file. -/
theorem readSource_of_read {data : ByteArray} (read : tree.read path.text = .ok data)
    (small : data.size ≤ largestSource) : readSource tree path = .ok data := by
  obtain ⟨size, told, less⟩ := Files.Tree.size_of_read read
  exact readSource_eq_ok_iff.mpr ⟨read, size, less.trans small, told⟩

theorem Measurable.of_read {data : ByteArray} (plain : '\x00' ∉ path.text.toList)
    (read : tree.read path.text = .ok data) (small : data.size ≤ largestSource)
    (sound : (parser data).hasError = false) : Measurable parser tree path data :=
  ⟨plain, read, (readSource_eq_ok_iff.mp (readSource_of_read read small)).2, sound⟩

/-- Bytes are added exactly when their tree has no fault and their modules are loaded. -/
theorem run_addSource_eq_ok_iff (ranged : ∀ data, (parser data).InRange data.size)
    {load : Declaration → Lowering Loaded (List Node)} {name : String} {data : ByteArray}
    {directory : Option Path} {node : Node} {loaded : Loaded} :
    StateT.run (addSource parser load name data directory) (.ofFiles files places)
        = .ok (node, loaded) ↔
      (parser data).hasError = false ∧ ∃ parts,
        StateT.run ((declarations data { directory } (parser data)).mapM load)
            (.ofFiles (files ++ [(name, data)]) places) = .ok (parts, loaded)
          ∧ node = weave data (span files) {} parts (parser data) := by
  rw [run_addSource ranged, ← checkTree_eq_ok_iff (File.ofData name (span files) data)]
  cases checkTree (File.ofData name (span files) data) (parser data) with
  | error failure => exact ⟨nofun, nofun⟩
  | ok done =>
    cases StateT.run ((declarations data { directory } (parser data)).mapM load)
      (.ofFiles (files ++ [(name, data)]) places) with
    | error failure => simp [bind, Except.bind]
    | ok result =>
      obtain ⟨parts, last⟩ := result
      simp [bind, Except.bind, pure, Except.pure, eq_comm, and_comm]

/-- A file is loaded exactly when its place is new, it can be measured, and its modules are loaded. -/
theorem run_loadFile_succ_eq_ok_iff (ranged : ∀ data, (parser data).InRange data.size) {node : Node}
    {loaded : Loaded} :
    StateT.run (loadFile parser tree follows (depth + 1) path directory) (.ofFiles files places)
        = .ok (node, loaded) ↔
      path.absolute tree.working ∉ places ∧ ∃ data, Measurable parser tree path data ∧ ∃ parts,
        StateT.run ((declarations data { directory := some directory } (parser data)).mapM
            (loadModule parser tree follows depth path))
            (.ofFiles (files ++ [(path.text, data)]) (path.absolute tree.working :: places))
              = .ok (parts, loaded)
          ∧ node = weave data (span files) {} parts (parser data) := by
  rw [loadFile_succ, run_bind_eq_ok_iff]
  simp only [run_enter_eq_ok_iff, run_bind_eq_ok_iff, run_liftM_eq_ok_iff]
  constructor
  · rintro ⟨entered, ⟨plain, fresh, rfl⟩, ⟨data, state⟩, ⟨read, rfl⟩, added⟩
    obtain ⟨sound, loading⟩ := (run_addSource_eq_ok_iff ranged).mp added
    obtain ⟨there, small⟩ := readSource_eq_ok_iff.mp read
    exact ⟨fresh, data, ⟨plain, there, small, sound⟩, loading⟩
  · rintro ⟨fresh, data, ⟨plain, there, small, sound⟩, loading⟩
    exact ⟨_, ⟨plain, fresh, rfl⟩, ⟨data, _⟩, ⟨readSource_eq_ok_iff.mpr ⟨there, small⟩, rfl⟩,
      (run_addSource_eq_ok_iff ranged).mpr ⟨sound, loading⟩⟩

/-- A module is loaded exactly when the file that it leads to is. -/
theorem run_loadModule_eq_ok_iff {file : Path} {declaration : Declaration}
    (known : declaration.directory.isSome) {state loaded : Loaded} {part : List Node} :
    StateT.run (loadModule parser tree true depth file declaration) state = .ok (part, loaded) ↔
      ∃ path, Leads tree file declaration path ∧ ∃ node, part = [node] ∧
        StateT.run (loadFile parser tree true depth path (moduleDirectory path)) state
          = .ok (node, loaded) := by
  obtain ⟨directory, given⟩ := Option.isSome_iff_exists.mp known
  simp only [loadModule, if_true, given, Leads, run_bind_eq_ok_iff, run_liftM_eq_ok_iff]
  constructor
  · rintro ⟨⟨path, state'⟩, ⟨leads, rfl⟩, ⟨node, last⟩, done, finished⟩
    cases finished
    exact ⟨path, ⟨directory, rfl, leads⟩, node, rfl, done⟩
  · rintro ⟨path, ⟨directory', ⟨⟩, leads⟩, node, rfl, done⟩
    exact ⟨⟨path, state⟩, ⟨leads, rfl⟩, ⟨node, loaded⟩, done, rfl⟩

/-- What is loaded when some branches stand below the files that were loaded before. -/
def Loaded.grown (tree : Files.Tree) (files : Contents) (places : List Place)
    (branches : List Branch) : Loaded :=
  .ofFiles (files ++ Branch.contentsAll branches)
    ((Branch.placesAll tree branches).reverse ++ places)

theorem Loaded.grown_nil (tree : Files.Tree) (files : Contents) (places : List Place) :
    Loaded.grown tree files places [] = .ofFiles files places := by
  rw [Loaded.grown, Branch.contentsAll, Branch.placesAll, Branch.preorderAll, List.map_nil,
    List.map_nil, List.append_nil, List.reverse_nil, List.nil_append]

theorem Loaded.grown_cons (tree : Files.Tree) (files : Contents) (places : List Place)
    (branch : Branch) (rest : List Branch) :
    Loaded.grown tree files places (branch :: rest)
      = .grown tree (files ++ branch.contents) ((branch.places tree).reverse ++ places) rest := by
  rw [Loaded.grown, Loaded.grown, Branch.contentsAll_cons, Branch.placesAll_cons,
    List.append_assoc, List.reverse_append, List.append_assoc]

theorem Loaded.grown_mk (tree : Files.Tree) (files : Contents) (places : List Place) (path : Path)
    (data : ByteArray) (modules : List Branch) :
    Loaded.grown tree files places [.mk path data modules]
      = .grown tree (files ++ [(path.text, data)]) (path.absolute tree.working :: places)
          modules := by
  rw [Loaded.grown_cons, Loaded.grown_nil, Loaded.grown, Branch.contents_mk, Branch.places_mk,
    List.reverse_cons, List.append_assoc, List.append_assoc]
  rfl

/-- Places that are distinct after some branches were so before them. -/
theorem Loaded.nodup_of_nodup_grown {branches : List Branch}
    (distinct : (Loaded.grown tree files places branches).places.Nodup) : places.Nodup :=
  List.Nodup.of_append_right distinct

/-- Modules are loaded exactly when branches stand where they lead to whose places are new, if single files
are loaded so. -/
theorem run_mapM_loadModule_eq_ok_iff
    (single : ∀ {path directory files places}, places.Nodup → ∀ {node loaded},
      StateT.run (loadFile parser tree true depth path directory) (.ofFiles files places)
          = .ok (node, loaded) ↔
        ∃ branch : Branch, branch.path = path ∧ branch.Stands parser tree directory
          ∧ branch.height ≤ depth ∧ node = branch.outline parser (span files)
          ∧ loaded = .grown tree files places [branch] ∧ loaded.places.Nodup)
    {file : Path} {declarations : List Declaration}
    (known : ∀ declaration ∈ declarations, declaration.directory.isSome)
    (distinct : places.Nodup) {parts : List (List Node)} {loaded : Loaded} :
    StateT.run (declarations.mapM (loadModule parser tree true depth file)) (.ofFiles files places)
        = .ok (parts, loaded) ↔
      ∃ branches, Branch.StandAll parser tree file declarations branches
        ∧ Branch.heightAll branches ≤ depth
        ∧ parts = (Branch.outlines parser (span files) branches).map (fun node => [node])
        ∧ loaded = .grown tree files places branches ∧ loaded.places.Nodup := by
  induction declarations generalizing files places parts loaded with
  | nil =>
    rw [List.mapM_nil]
    constructor
    · rintro ⟨⟩
      exact ⟨[], trivial, Nat.zero_le _, rfl, (Loaded.grown_nil tree files places).symm, distinct⟩
    · rintro ⟨branches, standing, _, rfl, rfl, _⟩
      cases branches with
      | nil =>
        rw [Loaded.grown_nil]
        rfl
      | cons branch rest => exact standing.elim
  | cons declaration others hypothesis =>
    obtain ⟨knownFirst, knownOthers⟩ := List.forall_mem_cons.mp known
    simp only [List.mapM_cons, run_bind_eq_ok_iff, Prod.exists,
      run_loadModule_eq_ok_iff knownFirst]
    constructor
    · rintro ⟨part, state, ⟨path, leads, node, rfl, loading⟩, more, last, others, finished⟩
      cases finished
      obtain ⟨branch, rfl, standing, low, rfl, rfl, new⟩ := (single distinct).mp loading
      rw [Loaded.grown_cons, Loaded.grown_nil] at others new
      obtain ⟨rest, standingRest, lowRest, rfl, rfl, newRest⟩ :=
        (hypothesis knownOthers new).mp others
      exact ⟨branch :: rest, ⟨⟨leads, standing⟩, standingRest⟩, max_le low lowRest,
        by rw [Branch.outlines, span_append, List.map_cons], (Loaded.grown_cons ..).symm, newRest⟩
    · rintro ⟨branches, standing, low, rfl, rfl, new⟩
      cases branches with
      | nil => exact standing.elim
      | cons branch rest =>
        obtain ⟨⟨leads, standing⟩, standingRest⟩ := standing
        rw [Branch.heightAll, max_le_iff] at low
        rw [Loaded.grown_cons] at new
        have newFirst := Loaded.nodup_of_nodup_grown new
        rw [Loaded.grown_cons, Branch.outlines, ← span_append, List.map_cons]
        refine ⟨_, _, ⟨branch.path, leads, _, rfl, (single distinct).mpr
          ⟨branch, rfl, standing, low.1, rfl, rfl, ?_⟩⟩, ?_⟩
        · rw [Loaded.grown_cons, Loaded.grown_nil]
          exact newFirst
        · rw [Loaded.grown_cons, Loaded.grown_nil]
          exact ⟨_, _, (hypothesis knownOthers newFirst).mpr
            ⟨rest, standingRest, low.2, rfl, rfl, new⟩, rfl⟩

/-- **Loading a file** succeeds exactly when a branch stands there whose places are new, and then gives the
outline of the branch and adds its files and its places to those that were loaded before. -/
theorem run_loadFile_eq_ok_iff (ranged : ∀ data, (parser data).InRange data.size)
    (flat : ∀ data, (parser data).Flat) (distinct : places.Nodup) {node : Node} {loaded : Loaded} :
    StateT.run (loadFile parser tree true depth path directory) (.ofFiles files places)
        = .ok (node, loaded) ↔
      ∃ branch : Branch, branch.path = path ∧ branch.Stands parser tree directory
        ∧ branch.height ≤ depth ∧ node = branch.outline parser (span files)
        ∧ loaded = .grown tree files places [branch] ∧ loaded.places.Nodup := by
  induction depth generalizing path directory files places node loaded with
  | zero =>
    refine ⟨nofun, ?_⟩
    rintro ⟨⟨path, data, modules⟩, _, _, low, _⟩
    exact absurd low (Nat.not_succ_le_zero _)
  | succ depth hypothesis =>
    simp only [run_loadFile_succ_eq_ok_iff ranged, declarations_eq_modules (flat _)]
    constructor
    · rintro ⟨fresh, data, measurable, parts, loading, rfl⟩
      obtain ⟨modules, standing, low, rfl, rfl, new⟩ :=
        (run_mapM_loadModule_eq_ok_iff hypothesis
          (fun _ member => isSome_directory_of_mem_modulesAt member)
          (List.nodup_cons.mpr ⟨fresh, distinct⟩)).mp loading
      refine ⟨.mk path data modules, rfl, ⟨measurable, standing⟩, Nat.succ_le_succ low, ?_,
        (Loaded.grown_mk ..).symm, new⟩
      rw [Branch.outline, span_append, span_cons, span_nil]
      rfl
    · rintro ⟨⟨path, data, modules⟩, rfl, ⟨measurable, standing⟩, low, rfl, rfl, new⟩
      rw [Loaded.grown_mk] at new
      have distinct := Loaded.nodup_of_nodup_grown new
      refine ⟨(List.nodup_cons.mp distinct).1, data, measurable, _,
        (run_mapM_loadModule_eq_ok_iff hypothesis
          (fun _ member => isSome_directory_of_mem_modulesAt member) distinct).mpr
          ⟨modules, standing, Nat.le_of_succ_le_succ low, rfl, Loaded.grown_mk .., ?_⟩, ?_⟩
      · rw [Loaded.grown_mk]
        exact new
      · rw [Branch.outline, span_append, span_cons, span_nil]
        rfl

/-- A crate is what was loaded from its root file. -/
theorem assemble_eq_ok_iff_loaded {assembly : Assembly} :
    assemble parser tree follows path = .ok assembly ↔
      ∃ result, StateT.run (loadFile parser tree follows (tree.entries.length + 2) path path.parent)
        (.ofFiles [] []) = .ok result ∧ assembly = .ofLoaded result := by
  show (StateT.run (loadFile parser tree follows (tree.entries.length + 2) path path.parent)
    (.ofFiles [] [])).map Assembly.ofLoaded = .ok assembly ↔ _
  cases StateT.run (loadFile parser tree follows (tree.entries.length + 2) path path.parent)
    (.ofFiles [] []) with
  | error failure => exact ⟨nofun, nofun⟩
  | ok result => simp [Except.map, eq_comm]

/-- **The crate of a root file** is there exactly when a branch stands at the root file, not too high, whose
places are distinct. It has the files of the branch and its outline. -/
theorem assemble_eq_ok_iff (ranged : ∀ data, (parser data).InRange data.size)
    (flat : ∀ data, (parser data).Flat) {assembly : Assembly} :
    assemble parser tree true path = .ok assembly ↔
      ∃ branch : Branch, branch.path = path ∧ branch.Stands parser tree path.parent
        ∧ branch.height ≤ tree.entries.length + 2 ∧ (branch.places tree).Nodup
        ∧ assembly = ⟨Map.ofFiles branch.contents, branch.outline parser 0⟩ := by
  have grown (branch : Branch) :
      Loaded.grown tree [] [] [branch] = .ofFiles branch.contents (branch.places tree).reverse := by
    rw [Loaded.grown_cons, Loaded.grown_nil, List.nil_append, List.append_nil]
  have loading (node : Node) (loaded : Loaded) :
      StateT.run (loadFile parser tree true (tree.entries.length + 2) path path.parent)
          (.ofFiles [] []) = .ok (node, loaded) ↔ _ :=
    run_loadFile_eq_ok_iff ranged flat List.nodup_nil
  rw [assemble_eq_ok_iff_loaded]
  constructor
  · rintro ⟨⟨node, loaded⟩, done, rfl⟩
    obtain ⟨branch, root, standing, low, rfl, rfl, new⟩ := (loading _ _).mp done
    rw [grown] at new ⊢
    exact ⟨branch, root, standing, low, List.nodup_reverse.mp new, rfl⟩
  · rintro ⟨branch, root, standing, low, new, rfl⟩
    refine ⟨_, (loading _ _).mpr ⟨branch, root, standing, low, rfl, rfl, ?_⟩, ?_⟩
    · rw [grown]
      exact List.nodup_reverse.mpr new
    · rw [grown]
      rfl

end UnsafeCensus.Crate
