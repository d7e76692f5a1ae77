/-
**The files of a crate as a tree.**

A file with the files of its modules, in the order in which these are written, is a branch. A branch stands
in a tree of files when each of its files can be measured and is where its module is looked for.

* `Branch`: the branches;
* `Branch.contents`, `Branch.places`: the files of a branch and their places, each before those of its
  modules;
* `Branch.outline`: the outline of a branch whose first file starts at an offset;
* `Measurable`, `Leads`, `Branch.Stands`: the branches that stand in a tree of files.
-/

import Mathlib
import UnsafeCensus.Crate.Loading
import UnsafeCensus.Proofs.Crate.Declared
import UnsafeCensus.Proofs.Source.Layout

namespace UnsafeCensus.Crate

open Files Outline Source Syntax

/-! ### Branches -/

/-- A file with the files of its modules, in the order in which these are written. -/
inductive Branch where
  | mk (path : Path) (data : ByteArray) (modules : List Branch)

namespace Branch

/-- The path of the first file. -/
def path : Branch → Path
  | mk path _ _ => path

/-- The bytes of the first file. -/
def data : Branch → ByteArray
  | mk _ data _ => data

/-- The branches of the modules of the first file. -/
def modules : Branch → List Branch
  | mk _ _ modules => modules

mutual

/-- The branches of a branch, each before those of its modules. -/
def preorder : Branch → List Branch
  | mk path data modules => mk path data modules :: preorderAll modules

/-- The branches of several branches in order. -/
def preorderAll : List Branch → List Branch
  | [] => []
  | branch :: rest => preorder branch ++ preorderAll rest

end

mutual

/-- How many files of a branch stand below each other. -/
def height : Branch → Nat
  | mk _ _ modules => heightAll modules + 1

/-- How many files of several branches stand below each other. -/
def heightAll : List Branch → Nat
  | [] => 0
  | branch :: rest => max (height branch) (heightAll rest)

end

/-- The name and the bytes of the first file. -/
def file (branch : Branch) : String × ByteArray :=
  (branch.path.text, branch.data)

/-- The place of the first file. -/
def place (tree : Files.Tree) (branch : Branch) : Place :=
  branch.path.absolute tree.working

/-- The files of a branch. -/
def contents (branch : Branch) : Contents :=
  branch.preorder.map file

/-- The files of several branches. -/
def contentsAll (branches : List Branch) : Contents :=
  (preorderAll branches).map file

/-- The places of the files of a branch. -/
def places (tree : Files.Tree) (branch : Branch) : List Place :=
  branch.preorder.map (place tree)

/-- The places of the files of several branches. -/
def placesAll (tree : Files.Tree) (branches : List Branch) : List Place :=
  (preorderAll branches).map (place tree)

theorem contents_mk (path : Path) (data : ByteArray) (modules : List Branch) :
    (mk path data modules).contents = (path.text, data) :: contentsAll modules := rfl

theorem contentsAll_cons (branch : Branch) (rest : List Branch) :
    contentsAll (branch :: rest) = branch.contents ++ contentsAll rest :=
  List.map_append

theorem places_mk (tree : Files.Tree) (path : Path) (data : ByteArray) (modules : List Branch) :
    (mk path data modules).places tree = path.absolute tree.working :: placesAll tree modules := rfl

theorem placesAll_cons (tree : Files.Tree) (branch : Branch) (rest : List Branch) :
    placesAll tree (branch :: rest) = branch.places tree ++ placesAll tree rest :=
  List.map_append

mutual

/-- The outline of a branch whose first file starts at an offset. -/
def outline (parser : Parser) (start : Nat) : Branch → Node
  | mk _ data modules =>
    weave data start {} ((outlines parser (start + data.size + 1) modules).map fun node => [node])
      (parser data)

/-- The outlines of branches that stand one after the other from an offset on. -/
def outlines (parser : Parser) (start : Nat) : List Branch → List Node
  | [] => []
  | branch :: rest =>
    outline parser start branch :: outlines parser (start + span branch.contents) rest

end

end Branch

/-- A file that can be measured: its path can be asked for, its bytes can be read and are told to be not too
many, and they have no fault. -/
structure Measurable (parser : Parser) (tree : Files.Tree) (path : Path) (data : ByteArray) : Prop where
  plain : '\x00' ∉ path.text.toList
  read : tree.read path.text = .ok data
  small : ∃ size ≤ largestSource, tree.size path.text = .ok size
  sound : (parser data).hasError = false

/-- The path that a module of a file leads to. -/
def Leads (tree : Files.Tree) (file : Path) (declaration : Declaration) (path : Path) : Prop :=
  ∃ directory, declaration.directory = some directory
    ∧ moduleFile tree file directory declaration = .ok path

namespace Branch

mutual

/-- A branch stands in a tree of files: each file can be measured, and the files of its modules are where
these are looked for, which for the first file is in a directory. -/
def Stands (parser : Parser) (tree : Files.Tree) (directory : Path) : Branch → Prop
  | mk path data modules =>
    Measurable parser tree path data
      ∧ StandAll parser tree path ((parser data).modules data directory) modules

/-- Some branches stand where the modules of a file lead to, one for each. -/
def StandAll (parser : Parser) (tree : Files.Tree) (file : Path) :
    List Declaration → List Branch → Prop
  | [], [] => True
  | declaration :: others, branch :: rest =>
    (Leads tree file declaration branch.path
        ∧ Stands parser tree (moduleDirectory branch.path) branch)
      ∧ StandAll parser tree file others rest
  | _, _ => False

end

mutual

/-- Each branch of a branch that stands does so too, in a directory of its own. -/
theorem stands_of_mem_preorder {parser : Parser} {tree : Files.Tree} {inner : Branch} :
    (directory : Path) → (branch : Branch) → branch.Stands parser tree directory →
      inner ∈ branch.preorder → ∃ directory, inner.Stands parser tree directory
  | directory, mk path data modules, standing, member => by
    rw [preorder, List.mem_cons] at member
    rcases member with rfl | below
    · exact ⟨directory, standing⟩
    · exact stands_of_mem_preorderAll path _ modules standing.2 below

theorem stands_of_mem_preorderAll {parser : Parser} {tree : Files.Tree} {inner : Branch}
    (file : Path) :
    (declarations : List Declaration) → (branches : List Branch) →
      StandAll parser tree file declarations branches → inner ∈ preorderAll branches →
      ∃ directory, inner.Stands parser tree directory
  | _, [], _, member => absurd member List.not_mem_nil
  | [], _ :: _, standing, _ => standing.elim
  | _ :: others, branch :: rest, standing, member => by
    rw [preorderAll, List.mem_append] at member
    exact member.elim (stands_of_mem_preorder _ branch standing.1.2)
      (stands_of_mem_preorderAll file others rest standing.2)

end

end Branch

namespace Branch

variable {parser : Parser} {tree : Files.Tree} {file : Path}

theorem standAll_iff {declarations : List Declaration} {branches : List Branch} :
    StandAll parser tree file declarations branches ↔
      List.Forall₂ (fun declaration branch => Leads tree file declaration branch.path
        ∧ branch.Stands parser tree (moduleDirectory branch.path)) declarations branches := by
  induction declarations generalizing branches with
  | nil =>
    cases branches with
    | nil => exact ⟨fun _ => .nil, fun _ => trivial⟩
    | cons branch rest => exact ⟨False.elim, nofun⟩
  | cons declaration others hypothesis =>
    cases branches with
    | nil => exact ⟨False.elim, nofun⟩
    | cons branch rest => rw [List.forall₂_cons, ← hypothesis, StandAll]

/-- A branch stands for each module. -/
theorem exists_branch {declarations : List Declaration} {branches : List Branch}
    (standing : StandAll parser tree file declarations branches) {index : Nat}
    {declaration : Declaration} (declared : declarations[index]? = some declaration) :
    ∃ branch, branches[index]? = some branch ∧ Leads tree file declaration branch.path
      ∧ branch.Stands parser tree (moduleDirectory branch.path) := by
  obtain ⟨length, related⟩ := List.forall₂_iff_get.mp (standAll_iff.mp standing)
  obtain ⟨bound, rfl⟩ := List.getElem?_eq_some_iff.mp declared
  exact ⟨branches[index], List.getElem?_eq_getElem _, related index bound (length ▸ bound)⟩

/-- Each branch stands for a module. -/
theorem exists_declaration {declarations : List Declaration} {branches : List Branch}
    (standing : StandAll parser tree file declarations branches) {index : Nat} {branch : Branch}
    (there : branches[index]? = some branch) :
    ∃ declaration, declarations[index]? = some declaration
      ∧ Leads tree file declaration branch.path
      ∧ branch.Stands parser tree (moduleDirectory branch.path) := by
  obtain ⟨length, related⟩ := List.forall₂_iff_get.mp (standAll_iff.mp standing)
  obtain ⟨bound, rfl⟩ := List.getElem?_eq_some_iff.mp there
  exact ⟨declarations[index], List.getElem?_eq_getElem _, related index (length ▸ bound) bound⟩

theorem Stands.measurable {directory : Path} {branch : Branch}
    (standing : branch.Stands parser tree directory) :
    Measurable parser tree branch.path branch.data := by
  cases branch with
  | mk path data modules => exact standing.1

/-- The modules of the first file of a branch that stands do so where this file declares them. -/
theorem Stands.modules {directory : Path} {branch : Branch}
    (standing : branch.Stands parser tree directory) :
    StandAll parser tree branch.path ((parser branch.data).modules branch.data directory)
      branch.modules := by
  cases branch with
  | mk path data modules => exact standing.2

end Branch

/-! ### A crate with a module inside another -/

/-- A module inside another one, an unsafe function, and a module. -/
def nestedText : String :=
  "mod a \x7b mod b; \x7d\nunsafe fn f() \x7b\x7d\nmod c;\n"

/-- The tree of these constructs. -/
def nestedTree : Syntax.Tree :=
  .node ⟨"source_file", 0, 41, true, false, false, none⟩
    [.node ⟨"mod_item", 0, 16, true, false, false, none⟩
      [.node ⟨"identifier", 4, 5, true, false, false, some "name"⟩ [],
       .node ⟨"declaration_list", 6, 16, true, false, false, some "body"⟩
        [.node ⟨"mod_item", 8, 14, true, false, false, none⟩
          [.node ⟨"identifier", 12, 13, true, false, false, some "name"⟩ []]]],
     .node ⟨"function_item", 17, 33, true, false, false, none⟩
      [.node ⟨"function_modifiers", 17, 23, true, false, false, none⟩
        [.node ⟨"unsafe", 17, 23, false, false, false, none⟩ []]],
     .node ⟨"mod_item", 34, 40, true, false, false, none⟩
      [.node ⟨"identifier", 38, 39, true, false, false, some "name"⟩ []]]

/-- An unsafe function of two lines. -/
def innerText : String :=
  "unsafe fn g() \x7b\n\x7d\n"

/-- The tree of this function. -/
def innerTree : Syntax.Tree :=
  .node ⟨"source_file", 0, 18, true, false, false, none⟩
    [.node ⟨"function_item", 0, 17, true, false, false, none⟩
      [.node ⟨"function_modifiers", 0, 6, true, false, false, none⟩
        [.node ⟨"unsafe", 0, 6, false, false, false, none⟩ []]]]

/-- Only these two texts hold constructs. -/
def nestedParser : Parser := fun data =>
  if data = nestedText.toUTF8 then nestedTree
  else if data = innerText.toUTF8 then innerTree
  else .node ⟨"source_file", 0, 0, true, false, false, none⟩ []

/-- The files of the crate; the last module is empty. -/
def nestedFiles : Files.Tree where
  entries :=
    [(["w"], .directory), (["w", "main.rs"], .file nestedText.toUTF8), (["w", "a"], .directory),
     (["w", "a", "b.rs"], .file innerText.toUTF8), (["w", "c"], .directory),
     (["w", "c", "mod.rs"], .file .empty)]
  working := ["w"]

theorem inRange_nestedParser (data : ByteArray) : (nestedParser data).InRange data.size := by
  rw [nestedParser]
  split
  · rename_i equal
    rw [equal]
    decide
  · split
    · rename_i equal
      rw [equal]
      decide
    · intro head member
      obtain rfl := List.mem_singleton.mp member
      exact ⟨le_refl _, le_refl _, Int.natCast_nonneg _⟩

theorem hidesNoModule_nestedParser (data : ByteArray) : (nestedParser data).HidesNoModule := by
  rw [nestedParser]
  split
  · decide
  · split <;> decide

end UnsafeCensus.Crate
