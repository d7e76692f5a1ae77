/-
**What a file comes to does not depend on its place.**

Files are added one after the other to a map, each with its tree. A file then comes to what it comes to alone
in a map: it is refused by the same diagnostic, or it has the same outline moved by the start of the file, and
the same rows. The files before it and after it, those that are refused among them, have no part in this.

* `Node.moved`: an outline moved to the right;
* `weave_moved`: a woven outline is moved when its base and its parts are;
* `checkTree_ofData`: a tree is refused in the same words wherever its file starts;
* `addTree_moved`: what a file comes to after others, from what it comes to alone;
* `Supplied`, `addTrees`: files with their trees, and adding them in turn;
* `addTrees_eq_alone`: each of them comes to what it comes to alone.
-/

import Mathlib
import UnsafeCensus.Proofs.Census.Outcome

namespace UnsafeCensus

namespace Source

/-- The extent moved to the right. -/
def Extent.moved (distance : Nat) (extent : Extent) : Extent :=
  ⟨extent.start + distance, extent.stop + distance, Nat.add_le_add_right extent.ordered distance⟩

end Source

/-! ### Moved outlines -/

namespace Outline

mutual

/-- The outline with every extent moved to the right. -/
def Node.moved (distance : Nat) : Node → Node
  | .mk kind safety extent label children =>
    .mk kind safety (extent.moved distance) label (Node.movedAll distance children)

/-- The same for several outlines. -/
def Node.movedAll (distance : Nat) : List Node → List Node
  | [] => []
  | node :: rest => Node.moved distance node :: Node.movedAll distance rest

end

end Outline

namespace Crate

open Outline Source Syntax

theorem extentFrom_moved (head : Head) (base : Nat) :
    (extentFrom 0 head).moved base = extentFrom base head := by
  simp [extentFrom, Extent.moved, Nat.add_comm]

theorem getLastD_map_movedAll (distance : Nat) (parts : List (List Node)) :
    (parts.map (Node.movedAll distance)).getLastD []
      = Node.movedAll distance (parts.getLastD []) := by
  rcases List.eq_nil_or_concat parts with rfl | ⟨initial, part, rfl⟩
  · rfl
  · simp

mutual

/-- A woven outline is moved when its base and its parts are. -/
theorem weave_moved (data : ByteArray) (base : Nat) :
    (around : Surroundings) → (parts : List (List Node)) → (tree : Tree) →
      weave data base around (parts.map (Node.movedAll base)) tree
        = (weave data 0 around parts tree).moved base
  | around, parts, .node head children => by
    rw [weave, weave, Node.moved, extentFrom_moved]
    congr 1
    split
    · exact getLastD_map_movedAll base parts
    · exact weaveAll_moved data base _ parts children

theorem weaveAll_moved (data : ByteArray) (base : Nat) :
    (around : Surroundings) → (parts : List (List Node)) → (trees : List Tree) →
      weaveAll data base around (parts.map (Node.movedAll base)) trees
        = Node.movedAll base (weaveAll data 0 around parts trees)
  | _, _, [] => rfl
  | around, parts, tree :: rest => by
    rw [weaveAll, weaveAll]
    by_cases named : tree.head.named = true
    · rw [if_pos named, if_pos named, Node.movedAll, ← weave_moved data base around _ tree,
        ← weaveAll_moved data base around _ rest, List.map_take, List.map_drop]
    · rw [if_neg named, if_neg named, weaveAll_moved data base around parts rest]

end

theorem bareOutline_moved (data : ByteArray) (base : Nat) (tree : Tree) :
    (bareOutline data 0 tree).moved base = bareOutline data base tree := by
  have bare : (List.replicate (moduleCount tree) []).map (Node.movedAll base)
      = List.replicate (moduleCount tree) [] := by
    rw [List.map_replicate]
    rfl
  have moved := weave_moved data base {} (List.replicate (moduleCount tree) []) tree
  rw [bare] at moved
  exact moved.symm

/-! ### A file added with its tree -/

variable {name : String} {data : ByteArray} {tree : Tree}

/-- The location of a fault, and so the whole diagnostic, is the same wherever the file starts. -/
theorem syntaxError_ofData (inRange : tree.InRange data.size) (start : Nat) :
    syntaxError (File.ofData name start data) tree = syntaxError (File.ofData name 0 data) tree := by
  obtain ⟨distance, known⟩ := Int.eq_ofNat_of_zero_le (inRange _ (fault_mem_heads tree)).1
  have there := locate_ofData name start data distance
  have alone := locate_ofData name 0 data distance
  simp only [syntaxError, known]
  show (File.locate (File.ofData name start data) (start + distance) >>= _)
    = (File.locate (File.ofData name 0 data) (0 + distance) >>= _)
  rw [there, alone]
  rfl

theorem checkTree_ofData (inRange : tree.InRange data.size) (start : Nat) :
    checkTree (File.ofData name start data) tree = checkTree (File.ofData name 0 data) tree := by
  rw [checkTree, checkTree, syntaxError_ofData inRange]

theorem addTree_ofFiles (inRange : tree.InRange data.size) (files : Contents) :
    addTree (Map.ofFiles files) name data tree
      = (Map.ofFiles (files ++ [(name, data)]), do
          checkTree (File.ofData name 0 data) tree
          return bareOutline data (span files) tree) := by
  have checked : checkTree (File.ofData name (span files) data) tree = _ :=
    checkTree_ofData inRange (span files)
  have lowered := lower_eq inRange data (span files)
  rw [addTree, Map.ofFiles_concat, Map.nextFile, Map.nextStart_ofFiles]
  show ((Map.ofFiles files).add name data, checkTree (File.ofData name (span files) data) tree >>= _)
    = _
  rw [checked]
  show (_, checkTree _ tree >>= fun _ => lower data (span files) tree) = _
  rw [lowered]
  rfl

/-- **A file comes after others to what it comes to alone**: the same failure, or the same outline moved by
the start of the file. -/
theorem addTree_moved (inRange : tree.InRange data.size) (files : Contents) :
    (addTree (Map.ofFiles files) name data tree).2
      = (addTree .empty name data tree).2.map (Node.moved (span files)) := by
  have alone : addTree .empty name data tree = _ := addTree_ofFiles inRange []
  rw [alone, addTree_ofFiles inRange, ← bareOutline_moved data (span files)]
  cases checkTree (File.ofData name 0 data) tree <;> rfl

/-! ### Files added in turn -/

/-- A file with its tree. -/
structure Supplied where
  name : String
  data : ByteArray
  tree : Tree

namespace Supplied

def content (file : Supplied) : String × ByteArray :=
  (file.name, file.data)

def InRange (file : Supplied) : Prop :=
  file.tree.InRange file.data.size

end Supplied

/-- The map after some files more, and what each of them comes to. -/
def addTrees (map : Map) : List Supplied → Map × List (Except Failure Node)
  | [] => (map, [])
  | file :: rest =>
    let added := addTree map file.name file.data file.tree
    let others := addTrees added.1 rest
    (others.1, added.2 :: others.2)

/-- What a file comes to when it is added to a map without a file. -/
def addAlone (file : Supplied) : Map × Except Failure Node :=
  addTree .empty file.name file.data file.tree

theorem addTree_fst (files : Contents) (name : String) (data : ByteArray) (tree : Tree) :
    (addTree (Map.ofFiles files) name data tree).1 = Map.ofFiles (files ++ [(name, data)]) :=
  (Map.ofFiles_concat files name data).symm

theorem addTrees_fst (files : Contents) (more : List Supplied) :
    (addTrees (Map.ofFiles files) more).1
      = Map.ofFiles (files ++ more.map Supplied.content) := by
  induction more generalizing files with
  | nil => rw [addTrees, List.map_nil, List.append_nil]
  | cons file rest hypothesis =>
    -- A file that is refused stays in the map too.
    rw [addTrees, addTree_fst, hypothesis, List.append_assoc]
    rfl

/-- A file in range comes to what it comes to alone, moved by the files before it. -/
theorem getElem?_addTrees (files : Contents) (before after : List Supplied) {file : Supplied}
    (inRange : file.InRange) :
    (addTrees (Map.ofFiles files) (before ++ file :: after)).2[before.length]?
      = some ((addAlone file).2.map
          (Node.moved (span (files ++ before.map Supplied.content)))) := by
  induction before generalizing files with
  | nil =>
    rw [List.map_nil, List.append_nil]
    show some (addTree (Map.ofFiles files) file.name file.data file.tree).2 = _
    rw [addTree_moved inRange, addAlone]
  | cons first rest hypothesis =>
    rw [List.cons_append, addTrees, addTree_fst, List.length_cons, List.getElem?_cons_succ,
      hypothesis, List.append_assoc]
    rfl

end Crate

namespace Census

open Crate Outline Source Syntax

/-! ### Rows -/

variable {name : String} {data : ByteArray} {tree : Tree}

/-- The rows of an outline by a map. -/
def rowsOf (map : Map) (node : Node) : Except Failure (List Row) :=
  (Metrics.ofOutline map node).map Metrics.rows

theorem rowsOf_bareOutline (before after : Contents) (name : String)
    (inRange : tree.InRange data.size) :
    rowsOf (Map.ofFiles (before ++ (name, data) :: after)) (bareOutline data (span before) tree)
      = .ok (rowsShown name data tree) := by
  rw [rowsOf, ofOutline_bareOutline before after name inRange]
  rfl

theorem addAlone_cases {file : Supplied} (inRange : file.InRange) :
    (∃ diagnostic, (addAlone file).2 = .error (.diagnosed diagnostic)
        ∧ diagnostic.family = .source)
      ∨ (addAlone file).2 = .ok (bareOutline file.data 0 file.tree) := by
  have alone : addAlone file = _ := addTree_ofFiles inRange []
  rw [alone]
  by_cases sound : file.tree.hasError = false
  · right
    rw [(checkTree_eq_ok_iff _).mpr sound]
    rfl
  · left
    obtain ⟨diagnostic, told, family⟩ := syntaxError_eq_ok file.name 0 inRange
    refine ⟨diagnostic, ?_, family⟩
    rw [checkTree, if_pos (by simpa using sound)]
    show (syntaxError (File.ofData file.name (0 : Nat) file.data) file.tree >>= _) >>= _ = _
    rw [told]
    rfl

/-- **What a file comes to does not depend on its place.** Among files that are added in turn, each file is
in the map, and it is refused by the diagnostic that it is refused by alone, or it has the outline that it has
alone, moved by its start, with the rows that it has alone. -/
theorem addTrees_eq_alone (before after : List Supplied) {file : Supplied} (inRange : file.InRange) :
    ∃ (start : Nat) (result : Except Failure Node),
      (addTrees .empty (before ++ file :: after)).1.files[before.length]?
          = some (File.ofData file.name start file.data)
        ∧ (addTrees .empty (before ++ file :: after)).2[before.length]? = some result
        ∧ ((∃ diagnostic, (addAlone file).2 = .error (.diagnosed diagnostic)
              ∧ result = .error (.diagnosed diagnostic) ∧ diagnostic.family = .source)
          ∨ ∃ node rows, (addAlone file).2 = .ok node ∧ result = .ok (node.moved start)
              ∧ rowsOf (addAlone file).1 node = .ok rows
              ∧ rowsOf (addTrees .empty (before ++ file :: after)).1 (node.moved start)
                  = .ok rows) := by
  have map : (addTrees .empty (before ++ file :: after)).1 = Map.ofFiles
      (before.map Supplied.content ++ (file.name, file.data) :: after.map Supplied.content) := by
    refine (addTrees_fst [] _).trans ?_
    rw [List.map_append, List.map_cons]
    rfl
  have alone : (addAlone file).1 = Map.ofFiles [(file.name, file.data)] := addTree_fst [] _ _ _
  have result : (addTrees .empty (before ++ file :: after)).2[before.length]? = _ :=
    getElem?_addTrees [] before after inRange
  refine ⟨span (before.map Supplied.content), _, ?_, result, ?_⟩
  · rw [map, Map.getElem?_ofFiles]
    simp
  · rcases addAlone_cases inRange with ⟨diagnostic, refused, family⟩ | outline
    · refine Or.inl ⟨diagnostic, refused, ?_, family⟩
      rw [refused]
      rfl
    · refine Or.inr ⟨_, rowsShown file.name file.data file.tree, outline, ?_, ?_, ?_⟩
      · rw [outline]
        rfl
      · rw [alone]
        exact rowsOf_bareOutline [] [] file.name inRange
      · rw [map, bareOutline_moved]
        exact rowsOf_bareOutline _ _ file.name inRange

/-- A file with a fault. -/
def faultyFile : Supplied :=
  ⟨"a.rs", "fn (".toUTF8, .node ⟨"source_file", 0, 4, true, false, false, none⟩
    [.node ⟨"ERROR", 0, 4, true, false, false, none⟩ []]⟩

/-- A file with three regions. -/
def mixedFile : Supplied :=
  ⟨"b.rs", mixedText.toUTF8, mixedTree⟩

/-- A file of the same name as one before it. -/
def innerFile : Supplied :=
  ⟨"b.rs", innerText.toUTF8, innerTree⟩

/-- After a file that is refused, and before one of the same name, a file has its own rows. -/
theorem addTrees_eq_alone_refused :
    mixedFile.InRange
      ∧ (addTrees .empty ([faultyFile] ++ mixedFile :: [innerFile])).2.map (·.toOption.isSome)
          = [false, true, true]
      ∧ ∃ node rows, (addAlone mixedFile).2 = .ok node
          ∧ (addTrees .empty ([faultyFile] ++ mixedFile :: [innerFile])).2[1]? = some (.ok (node.moved 5))
          ∧ rowsOf (addAlone mixedFile).1 node = .ok rows
          ∧ rowsOf (addTrees .empty ([faultyFile] ++ mixedFile :: [innerFile])).1 (node.moved 5)
              = .ok rows := by
  have inRange : mixedFile.InRange :=
    (by decide : mixedTree.InRange mixedText.toUTF8.size)
  have known : (addTrees .empty ([faultyFile] ++ mixedFile :: [innerFile])).2.map
      (·.toOption.isSome) = [false, true, true] := by decide +kernel
  have fifth : (addTrees .empty ([faultyFile] ++ mixedFile :: [innerFile])).1.files[1]?.map File.start
      = some 5 := by decide +kernel
  have sound : (addAlone mixedFile).2.toOption.isSome = true := by decide +kernel
  obtain ⟨start, result, there, given, refused | ⟨node, rows, alone, rfl, same, moved⟩⟩ :=
    addTrees_eq_alone [faultyFile] [innerFile] inRange
  · obtain ⟨diagnostic, refused, _⟩ := refused
    rw [refused] at sound
    cases sound
  · have five : start = 5 := by
      rw [show ([faultyFile] : List Supplied).length = 1 from rfl] at there
      rw [there] at fifth
      have known : (start : Int) = 5 := Option.some.inj fifth
      exact_mod_cast known
    subst five
    exact ⟨inRange, known, node, rows, alone, given, same, moved⟩

end Census

end UnsafeCensus
