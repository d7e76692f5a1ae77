/-
**How loading can end.**

Whatever the files are and however they become trees, loading either ends in a failure that a user is told
of, or it adds files after those that were there, and each region of what it gives is inside one file. Files
are added while the outline of another one is put together; they stand after all files before them and move
none of these.

* `Failure.Expected`: the failures that a crate may end in;
* `Settles`, `Loads`: an attempt, and an action on what was loaded, that end well or as expected;
* `Inside`: an extent between two offsets of one file, which stays so when files are added;
* `forall_regionsBelow_weave`: where the regions of a woven outline come from;
* `loads_addSource`, `loads_loadFile`: what adding bytes and loading a file come to;
* `settles_assemble`: the same for a crate.
-/

import Mathlib
import UnsafeCensus.Proofs.Crate.Found
import UnsafeCensus.Proofs.Crate.Loading

namespace UnsafeCensus

/-! ### Expected failures -/

/-- A failure that a crate may end in: a diagnostic of its source or of its files, or a name that is longer
than the name of any file. -/
inductive Failure.Expected : Failure → Prop where
  | source {diagnostic : Diagnostic} (family : diagnostic.family = .source) :
      Expected (.diagnosed diagnostic)
  | resource {diagnostic : Diagnostic} (family : diagnostic.family = .resource) :
      Expected (.diagnosed diagnostic)
  | tooLong {text name : String} (member : name ∈ Files.Tree.namesOf text)
      (long : Files.Tree.longestName < name.utf8ByteSize) : Expected (.file .nameTooLong text)

/-- An attempt gives a result that is right, or it ends in an expected failure. -/
def Settles {α : Type} (right : α → Prop) : Except Failure α → Prop
  | .ok value => right value
  | .error failure => failure.Expected

/-- One attempt after another settles when each of them does. -/
theorem Settles.bind {α β : Type} {right : α → Prop} {right' : β → Prop}
    {first : Except Failure α} {second : α → Except Failure β} (settles : Settles right first)
    (onward : ∀ value, right value → Settles right' (second value)) :
    Settles right' (first >>= second) := by
  cases first with
  | ok value => exact onward value settles
  | error failure => exact settles

end UnsafeCensus

namespace UnsafeCensus.Source

/-! ### Extents inside a file -/

/-- An extent between two offsets of one file among some files. -/
inductive Inside : Contents → Extent → Prop where
  | within {before after : Contents} {name : String} {data : ByteArray} {first last : Nat}
      (ordered : first ≤ last) (bounded : last ≤ data.size) :
      Inside (before ++ (name, data) :: after)
        ⟨span before + first, span before + last, Nat.add_le_add_left ordered _⟩

/-- Files that are added later change nothing. -/
theorem Inside.mono {files more : Contents} {extent : Extent} (inside : Inside files extent)
    (grown : files <+: more) : Inside more extent := by
  obtain ⟨added, rfl⟩ := grown
  cases inside with
  | within ordered bounded =>
    rw [List.append_assoc, List.cons_append]
    exact .within ordered bounded

end UnsafeCensus.Source

namespace UnsafeCensus.Crate

open Files Outline Source Syntax

theorem inside_extentFrom {before after : Contents} {name : String} {data : ByteArray} {head : Head}
    (inRange : head.InRange data.size) :
    Inside (before ++ (name, data) :: after) (extentFrom (span before) head) := by
  obtain ⟨nonnegative, ordered, bounded⟩ := inRange
  exact .within (Nat.le_max_left _ _) (by omega)

mutual

/-- The regions of a woven outline are nodes of its tree or regions of the parts of its modules. -/
theorem forall_regionsBelow_weave {holds : Extent → Prop} (data : ByteArray) (base : Nat) :
    (around : Surroundings) → (parts : List (List Node)) → (tree : Syntax.Tree) →
      (∀ head ∈ tree.heads, holds (extentFrom base head)) →
      (∀ part ∈ parts, ∀ extent ∈ Node.regionsOfAll part, holds extent) →
      ∀ extent ∈ (weave data base around parts tree).regionsBelow, holds extent
  | around, parts, .node head children, own, loaded => by
    intro extent member
    rw [Tree.heads, List.forall_mem_cons] at own
    by_cases hidden : (weave data base around parts (.node head children)).kind.isOpaque = true
    · rw [regionsBelow_of_isOpaque hidden] at member
      exact absurd member List.not_mem_nil
    · rw [regionsBelow_eq hidden, List.mem_append] at member
      rcases member with region | below
      · rw [Option.mem_toList, Node.region?, Option.ite_none_right_eq_some] at region
        obtain ⟨_, same⟩ := region
        rw [← Option.some.inj same, weave]
        exact own.1
      · rw [weave, Node.children] at below
        by_cases bodiless : isBodiless (.node head children) = true
        · rw [if_pos bodiless] at below
          rcases List.eq_nil_or_concat parts with rfl | ⟨initial, part, rfl⟩
          · exact absurd below List.not_mem_nil
          · rw [List.concat_eq_append, List.getLastD_concat] at below
            exact loaded part (by simp) extent below
        · rw [if_neg bodiless] at below
          exact forall_regionsOfAll_weaveAll data base _ parts children own.2 loaded extent below

theorem forall_regionsOfAll_weaveAll {holds : Extent → Prop} (data : ByteArray) (base : Nat) :
    (around : Surroundings) → (parts : List (List Node)) → (trees : List Syntax.Tree) →
      (∀ head ∈ Tree.headsOf trees, holds (extentFrom base head)) →
      (∀ part ∈ parts, ∀ extent ∈ Node.regionsOfAll part, holds extent) →
      ∀ extent ∈ Node.regionsOfAll (weaveAll data base around parts trees), holds extent
  | _, _, [], _, _ => fun _ member => absurd member List.not_mem_nil
  | around, parts, tree :: rest, own, loaded => by
    rw [Tree.headsOf, List.forall_mem_append] at own
    rw [weaveAll]
    by_cases named : tree.head.named = true
    · rw [if_pos named, Node.regionsOfAll, List.forall_mem_append]
      exact ⟨forall_regionsBelow_weave data base around _ tree own.1
          fun part member => loaded part (List.mem_of_mem_take member),
        forall_regionsOfAll_weaveAll data base around _ rest own.2
          fun part member => loaded part (List.mem_of_mem_drop member)⟩
    · rw [if_neg named]
      exact forall_regionsOfAll_weaveAll data base around parts rest own.2 loaded

end

/-! ### Actions on what was loaded -/

/-- An action on what was loaded adds files after some files and gives what is right for all of them, or it
ends in an expected failure. -/
def Loads {α : Type} (files : Contents) (right : Contents → α → Prop) (action : Lowering Loaded α) :
    Prop :=
  ∀ places, Settles
    (fun result => ∃ more places', files <+: more ∧ result.2 = .ofFiles more places'
      ∧ right more result.1)
    (StateT.run action (.ofFiles files places))

section Loads

variable {α β : Type} {files : Contents} {right : Contents → α → Prop} {right' : Contents → β → Prop}

theorem Loads.pure {value : α} (holds : right files value) : Loads files right (Pure.pure value) :=
  fun places => ⟨files, places, List.prefix_rfl, rfl, holds⟩

theorem Loads.lift {attempt : Except Failure α} (settles : Settles (right files) attempt) :
    Loads files right (liftM attempt) := by
  intro places
  cases attempt with
  | ok value => exact ⟨files, places, List.prefix_rfl, rfl, settles⟩
  | error failure => exact settles

/-- One action after another adds files after those of the first. -/
theorem Loads.bind {first : Lowering Loaded α} {second : α → Lowering Loaded β}
    (loads : Loads files right first)
    (onward : ∀ more value, files <+: more → right more value → Loads more right' (second value)) :
    Loads files right' (first >>= second) := by
  intro places
  rw [StateT.run_bind]
  refine (loads places).bind ?_
  rintro ⟨value, _⟩ ⟨more, places', grown, rfl, holds⟩
  -- The second action starts where the first one ended.
  have settles := onward more value grown holds places'
  show Settles _ (StateT.run (second value) (.ofFiles more places'))
  cases done : StateT.run (second value) (.ofFiles more places') with
  | error failure =>
    rw [done] at settles
    exact settles
  | ok result =>
    rw [done] at settles
    obtain ⟨last, places'', grown', same, holds⟩ := settles
    exact ⟨last, places'', grown.trans grown', same, holds⟩

/-- A traversal gives what is right for all files when each visit does and later files change nothing. -/
theorem loads_mapM (visit : β → Lowering Loaded α) (items : List β)
    (mono : ∀ {files more value}, files <+: more → right files value → right more value)
    (each : ∀ files, ∀ item ∈ items, Loads files right (visit item)) :
    Loads files (fun more results => ∀ value ∈ results, right more value) (items.mapM visit) := by
  induction items generalizing files with
  | nil => exact Loads.pure fun _ member => absurd member List.not_mem_nil
  | cons item rest hypothesis =>
    rw [List.mapM_cons]
    refine (each files item List.mem_cons_self).bind fun more value _ holds => ?_
    refine (hypothesis fun files item member =>
      each files item (List.mem_cons_of_mem _ member)).bind fun most results grown others => ?_
    exact Loads.pure (List.forall_mem_cons.mpr ⟨mono grown holds, others⟩)

end Loads

/-! ### Loading a file -/

variable {parser : Parser} {tree : Files.Tree} {file path directory : Path} {files : Contents}

/-- A path that is too long has a name that is longer than the name of any file. -/
theorem exists_long_of_isTooLong (long : isTooLong tree path = true) :
    ∃ name ∈ Files.Tree.namesOf path.text, Files.Tree.longestName < name.utf8ByteSize := by
  rw [isTooLong, Bool.and_eq_true] at long
  cases there : tree.stat path.text with
  | ok result =>
    rw [there] at long
    cases long.2
  | error trouble =>
    rcases Files.Tree.stat_eq_error there with absent | ⟨_, long⟩
    · rw [there] at long
      cases trouble with
      | nameTooLong => cases absent
      | absent | alreadyThere | notDirectory | isDirectory => cases long.2
    · exact long

/-- What is found among some paths can be asked for. -/
theorem settles_firstSource (tree : Files.Tree) (paths : List Path) :
    Settles (fun found => ∀ path ∈ found, '\x00' ∉ path.text.toList) (firstSource tree paths) := by
  induction paths with
  | nil => exact fun path member => absurd member (Option.not_mem_none path)
  | cons first rest hypothesis =>
    rw [firstSource, isSource_eq]
    by_cases long : isTooLong tree first = true
    · obtain ⟨name, member, size⟩ := exists_long_of_isTooLong long
      rw [if_pos long]
      exact .tooLong member size
    · rw [if_neg long]
      by_cases there : isFileAt tree first = true
      · rw [there]
        rw [isFileAt, Bool.and_eq_true] at there
        intro path found
        obtain rfl := Option.some.inj found
        simpa using there.1
      · rw [Bool.eq_false_iff.mpr there]
        exact hypothesis

/-- The file of a module can be asked for, or a diagnostic tells that there is none. -/
theorem settles_moduleFile (tree : Files.Tree) (file directory : Path) (declaration : Declaration) :
    Settles (fun path => '\x00' ∉ path.text.toList) (moduleFile tree file directory declaration) := by
  refine (settles_firstSource tree _).bind fun found plain => ?_
  cases found with
  | none => exact .resource rfl
  | some path => exact plain path rfl

/-- A file is read, or a diagnostic tells why not. -/
theorem settles_readSource (tree : Files.Tree) (path : Path) :
    Settles (fun _ => True) (readSource tree path) := by
  have told {α : Type} (attempt : Except FileTrouble α) :
      Settles (fun _ => True) (attempt.mapError (readFailure path)) := by
    cases attempt with
    | ok value => trivial
    | error trouble => cases trouble <;> exact .resource rfl
  rw [readSource]
  refine (told (tree.size path.text)).bind fun size _ => ?_
  by_cases large : largestSource < size
  · rw [if_pos large]
    exact .resource rfl
  · rw [if_neg large]
    exact told _

/-- The first fault of a tree, or its root, is one of its nodes. -/
theorem fault_mem_heads (concrete : Syntax.Tree) :
    concrete.firstFault?.getD concrete.head ∈ concrete.heads := by
  rw [Tree.firstFault?_eq]
  cases search : concrete.heads.find? Head.isFault with
  | none =>
    cases concrete with
    | node head children => exact List.mem_cons_self
  | some head => exact List.mem_of_find?_eq_some search

/-- The first fault of a tree in range, or its root, has a location. -/
theorem syntaxError_eq_ok (name : String) (start : Nat) {data : ByteArray} {concrete : Syntax.Tree}
    (inRange : concrete.InRange data.size) :
    ∃ diagnostic, syntaxError (File.ofData name start data) concrete = .ok diagnostic
      ∧ diagnostic.family = .source := by
  obtain ⟨nonnegative, _, _⟩ := inRange _ (fault_mem_heads concrete)
  obtain ⟨distance, known⟩ := Int.eq_ofNat_of_zero_le nonnegative
  have there := locate_ofData name start data distance
  rw [syntaxError, known]
  show ∃ diagnostic, (File.locate (File.ofData name start data) (start + distance) >>= _)
    = .ok diagnostic ∧ _
  rw [there]
  exact ⟨_, rfl, rfl⟩

/-- A tree in range is let through, or a diagnostic tells of its fault. -/
theorem settles_checkTree {name : String} {start : Nat} {data : ByteArray} {concrete : Syntax.Tree}
    (inRange : concrete.InRange data.size) :
    Settles (fun _ => True) (checkTree (File.ofData name start data) concrete) := by
  rw [checkTree]
  cases concrete.hasError with
  | false => trivial
  | true =>
    obtain ⟨diagnostic, told, family⟩ := syntaxError_eq_ok name start inRange
    rw [if_pos rfl, told]
    exact .source family

/-- A path that can be asked for is entered, or it was loaded already. -/
theorem loads_enter (plain : '\x00' ∉ path.text.toList) :
    Loads files (fun _ _ => True) (enter tree path) := by
  intro places
  rw [run_enter, placeOf_eq_ok_iff.mpr ⟨plain, rfl⟩]
  show Settles _ (if places.contains (path.absolute tree.working) then throw (includedTwice path)
    else return ((), Loaded.ofFiles files (path.absolute tree.working :: places)))
  by_cases known : places.contains (path.absolute tree.working) = true
  · rw [if_pos known]
    exact .source rfl
  · rw [if_neg known]
    exact ⟨files, _, List.prefix_rfl, rfl, trivial⟩

/-- All regions of an outline are inside files. -/
def RegionsInside (files : Contents) (node : Node) : Prop :=
  ∀ extent ∈ node.regionsBelow, Inside files extent

/-- All regions of several outlines are inside files. -/
def PartsInside (files : Contents) (nodes : List Node) : Prop :=
  ∀ extent ∈ Node.regionsOfAll nodes, Inside files extent

/-- Adding bytes whose modules are loaded gives an outline with all regions inside files. -/
theorem loads_addSource (ranged : ∀ data, (parser data).InRange data.size)
    {load : Declaration → Lowering Loaded (List Node)}
    (loads : ∀ files declaration, Loads files PartsInside (load declaration)) (name : String)
    (data : ByteArray) (directory : Option Path) :
    Loads files RegionsInside (addSource parser load name data directory) := by
  intro places
  rw [run_addSource ranged]
  refine (settles_checkTree (ranged data)).bind fun _ _ => ?_
  have traversal : Loads (files ++ [(name, data)])
      (fun more parts => ∀ part ∈ parts, PartsInside more part) _ :=
    loads_mapM load (declarations data { directory } (parser data))
      (fun grown inside extent member => (inside extent member).mono grown)
      fun files declaration _ => loads files declaration
  refine (traversal places).bind ?_
  rintro ⟨parts, _⟩ ⟨more, places', ⟨added, rfl⟩, rfl, inside⟩
  refine ⟨_, places', ?_, rfl, ?_⟩
  · exact (List.prefix_append files _).trans (List.prefix_append _ added)
  · refine forall_regionsBelow_weave data (span files) {} parts (parser data) (fun head member => ?_)
      inside
    rw [List.append_assoc]
    exact inside_extentFrom (ranged data head member)

/-- Loading a module gives parts with all regions inside files, if loading its file does. -/
theorem loads_loadModule {follows : Bool} {depth : Nat}
    (single : ∀ {files path directory}, '\x00' ∉ path.text.toList →
      Loads files RegionsInside (loadFile parser tree follows depth path directory))
    (file : Path) (declaration : Declaration) :
    Loads files PartsInside (loadModule parser tree follows depth file declaration) := by
  rw [loadModule]
  cases (if follows then declaration.directory else none : Option Path) with
  | none => exact Loads.pure fun _ member => absurd member List.not_mem_nil
  | some directory =>
    have leads : Loads files (fun _ path => '\x00' ∉ path.text.toList)
        (liftM (moduleFile tree file directory declaration)) :=
      Loads.lift (settles_moduleFile tree file directory declaration)
    refine leads.bind fun more path _ plain => ?_
    refine (single plain).bind fun most node _ inside => Loads.pure fun extent member => ?_
    rw [regionsOfAll_singleton] at member
    exact inside extent member

/-- **Loading a file** gives an outline with all regions inside files, or it ends in an expected failure. -/
theorem loads_loadFile (ranged : ∀ data, (parser data).InRange data.size) (follows : Bool)
    (depth : Nat) (plain : '\x00' ∉ path.text.toList) :
    Loads files RegionsInside (loadFile parser tree follows depth path directory) := by
  induction depth generalizing files path directory with
  | zero => exact fun _ => .source rfl
  | succ depth hypothesis =>
    rw [loadFile_succ]
    refine (loads_enter plain).bind fun entered _ _ _ => ?_
    have reads : Loads entered (fun _ _ => True) (liftM (readSource tree path)) :=
      Loads.lift (settles_readSource tree path)
    refine reads.bind fun _ _ _ _ => ?_
    exact loads_addSource ranged (fun _ declaration => loads_loadModule hypothesis path declaration)
      _ _ _

/-- **A crate** has a map of files with all regions of its outline inside one of them, or it ends in an
expected failure. -/
theorem settles_assemble (ranged : ∀ data, (parser data).InRange data.size) (follows : Bool)
    (plain : '\x00' ∉ path.text.toList) :
    Settles (fun assembly => ∃ files, assembly.map = Map.ofFiles files
        ∧ RegionsInside files assembly.outline)
      (assemble parser tree follows path) := by
  have loads : Loads [] RegionsInside
      (loadFile parser tree follows (tree.entries.length + 2) path path.parent) :=
    loads_loadFile ranged follows _ plain
  have settles := loads []
  rw [assemble]
  show Settles _ (Except.map Assembly.ofLoaded (StateT.run _ (.ofFiles [] [])))
  cases done : StateT.run (loadFile parser tree follows (tree.entries.length + 2) path path.parent)
    (.ofFiles [] []) with
  | error failure =>
    rw [done] at settles
    exact settles
  | ok result =>
    rw [done] at settles
    obtain ⟨files, _, _, same, inside⟩ := settles
    exact ⟨files, congrArg Loaded.map same, inside⟩

end UnsafeCensus.Crate
