/-
**The file of a module.**

A module leads to the first of its candidates that is a file. It is found there unless a candidate that is
tried before has a name that is too long to be asked for: such a candidate is no file, but asking for it
fails.

* `isFileAt`, `isTooLong`: what a path leads to, and whether it can be asked for;
* `Found`, `Tried`: where a module leads, and that the candidates before can be asked for;
* `leads_iff`: a module is found exactly where it leads when these can be asked for;
* `Found.regular`: the path of the file of a module can be read back from its text;
* `not_tried_longDeclaration`: a module in a directory of its own name, which is too long with an ending.
-/

import Mathlib
import UnsafeCensus.Proofs.Crate.Branch
import UnsafeCensus.Proofs.Files.Walk
import UnsafeCensus.Proofs.Text.Utf8

namespace UnsafeCensus.Crate

open Files Source Syntax

/-! ### The file of a module -/

/-- Whether a path leads to a file. -/
def isFileAt (tree : Files.Tree) (path : Path) : Bool :=
  !path.text.toList.contains '\x00'
    && match tree.stat path.text with
      | .ok (_, .file _) => true
      | _ => false

/-- Whether a path has a name on its way that is too long to be asked for. -/
def isTooLong (tree : Files.Tree) (path : Path) : Bool :=
  !path.text.toList.contains '\x00'
    && match tree.stat path.text with
      | .error .nameTooLong => true
      | _ => false

variable {parser : Parser} {tree : Files.Tree} {file path directory : Path}
  {declaration : Declaration}

/-- Asking for a file tells whether it is there, except at a name that is too long. -/
theorem isSource_eq (tree : Files.Tree) (path : Path) :
    isSource tree path
      = if isTooLong tree path then .error (.file .nameTooLong path.text)
        else .ok (isFileAt tree path) := by
  rw [isSource, isTooLong, isFileAt]
  by_cases null : path.text.toList.contains '\x00' = true
  · rw [if_pos null, null]
    rfl
  · have plain := Bool.eq_false_iff.mpr null
    rw [if_neg null, plain, Files.Tree.isFile]
    cases there : tree.stat path.text with
    | ok result =>
      obtain ⟨place, entry⟩ := result
      cases entry <;> rfl
    | error trouble =>
      -- A walk meets no other trouble.
      rcases Files.Tree.stat_eq_error there with absent | ⟨rfl, _⟩
      · cases trouble <;> first | rfl | cases absent
      · rfl

theorem isFileAt_of_isTooLong (long : isTooLong tree path = true) : isFileAt tree path = false := by
  rw [isTooLong, Bool.and_eq_true] at long
  rw [isFileAt, long.1, Bool.true_and]
  cases there : tree.stat path.text with
  | ok result =>
    rw [there] at long
    cases long.2
  | error trouble => rfl

/-- The first file among some paths is found unless a path before it is too long. -/
theorem firstSource_eq_ok_iff {paths : List Path} :
    firstSource tree paths = .ok (some path) ↔
      paths.find? (isFileAt tree) = some path
        ∧ ∀ tried ∈ paths.takeWhile (fun path => !isFileAt tree path), isTooLong tree tried = false := by
  induction paths with
  | nil => exact ⟨nofun, nofun⟩
  | cons first rest hypothesis =>
    rw [firstSource, isSource_eq]
    by_cases long : isTooLong tree first = true
    · have absent := isFileAt_of_isTooLong long
      rw [if_pos long, List.takeWhile_cons_of_pos (by rw [absent]; rfl)]
      refine ⟨nofun, fun ⟨_, tried⟩ => ?_⟩
      rw [tried first List.mem_cons_self] at long
      cases long
    · rw [if_neg long]
      by_cases there : isFileAt tree first = true
      · rw [List.find?_cons_of_pos there, List.takeWhile_cons_of_neg (by rw [there]; decide), there]
        simp [bind, Except.bind, pure, Except.pure]
      · have absent := Bool.eq_false_iff.mpr there
        rw [List.find?_cons_of_neg there, List.takeWhile_cons_of_pos (by rw [absent]; rfl), absent,
          List.forall_mem_cons, ← Bool.not_eq_true, and_iff_right long]
        exact hypothesis

/-- The file of a module is the first candidate that is one, unless a candidate before it is too long. -/
theorem moduleFile_eq_ok_iff :
    moduleFile tree file directory declaration = .ok path ↔
      (candidates file directory declaration).find? (isFileAt tree) = some path
        ∧ ∀ tried ∈ (candidates file directory declaration).takeWhile
            (fun path => !isFileAt tree path), isTooLong tree tried = false := by
  rw [← firstSource_eq_ok_iff, moduleFile]
  cases firstSource tree (candidates file directory declaration) with
  | error failure => exact ⟨nofun, nofun⟩
  | ok found =>
    cases found with
    | none => exact ⟨nofun, nofun⟩
    | some found => simp [bind, Except.bind, pure, Except.pure]

/-- A module of a file leads to the first of its candidates that is a file. -/
def Found (tree : Files.Tree) (file : Path) (declaration : Declaration) (path : Path) : Prop :=
  ∃ directory, declaration.directory = some directory
    ∧ (candidates file directory declaration).find? (isFileAt tree) = some path

/-- No candidate of a module that is tried before its file is too long. -/
def Tried (tree : Files.Tree) (file : Path) (declaration : Declaration) : Prop :=
  ∀ directory, declaration.directory = some directory →
    ∀ tried ∈ (candidates file directory declaration).takeWhile (fun path => !isFileAt tree path),
      isTooLong tree tried = false

theorem leads_iff :
    Leads tree file declaration path ↔ Found tree file declaration path ∧ Tried tree file declaration := by
  constructor
  · rintro ⟨directory, known, leads⟩
    obtain ⟨found, tried⟩ := moduleFile_eq_ok_iff.mp leads
    refine ⟨⟨directory, known, found⟩, fun directory' known' => ?_⟩
    obtain rfl := Option.some.inj (known.symm.trans known')
    exact tried
  · rintro ⟨⟨directory, known, found⟩, tried⟩
    exact ⟨directory, known, moduleFile_eq_ok_iff.mpr ⟨found, tried directory known⟩⟩

theorem Found.unique {second : Path} (first : Found tree file declaration path)
    (other : Found tree file declaration second) : path = second := by
  obtain ⟨directory, known, found⟩ := first
  obtain ⟨directory', known', found'⟩ := other
  obtain rfl := Option.some.inj (known.symm.trans known')
  exact Option.some.inj (found.symm.trans found')

/-- The file that a module leads to is one of the files of the tree. -/
theorem Found.mem_filePlaces (found : Found tree file declaration path) (regular : path.Regular) :
    path.absolute tree.working ∈ tree.filePlaces := by
  obtain ⟨_, _, found⟩ := found
  have there := List.find?_some found
  rw [isFileAt, Bool.and_eq_true] at there
  cases stat : tree.stat path.text with
  | error trouble =>
    rw [stat] at there
    cases there.2
  | ok result =>
    obtain ⟨place, entry⟩ := result
    rw [stat] at there
    cases entry with
    | directory | special => cases there.2
    | file data =>
      rw [← Files.Tree.stat_eq_ok_place regular stat]
      exact Files.Tree.mem_filePlaces_iff.mpr ⟨data, Files.Tree.entryAt?_of_stat stat rfl⟩

/-! ### Regular paths -/

theorem regular_of_mem_candidates (regularFile : file.Regular) (regular : directory.Regular)
    (candidate : path ∈ candidates file directory declaration) : path.Regular := by
  rw [candidates] at candidate
  split at candidate
  · rw [List.mem_singleton.mp candidate]
    exact Path.regular_joinText (Path.regular_parent regularFile) _
  · rcases List.mem_pair.mp candidate with rfl | rfl
    · exact Path.regular_joinText regular _
    · exact Path.regular_joinText (Path.regular_joinText regular _) _

theorem Found.regular (regularFile : file.Regular)
    (regular : ∀ directory ∈ declaration.directory, directory.Regular)
    (found : Found tree file declaration path) : path.Regular := by
  obtain ⟨directory, known, found⟩ := found
  exact regular_of_mem_candidates regularFile (regular directory known)
    (List.mem_of_find?_eq_some found)

theorem regular_moduleDirectory (regular : path.Regular) : (moduleDirectory path).Regular := by
  rw [moduleDirectory]
  split
  · exact Path.regular_parent regular
  · exact Path.regular_joinText (Path.regular_parent regular) _

/-! ### A name that is too long with an ending -/

/-- A name that a directory may have, but with an ending no file. -/
def longName : String :=
  String.ofList (List.replicate 253 'a')

/-- The bytes of a module of this name. -/
def longText : ByteArray :=
  "mod ".toUTF8 ++ ⟨(List.replicate 253 0x61).toArray⟩ ++ ";\n".toUTF8

/-- The tree of this module. -/
def longTree : Syntax.Tree :=
  .node ⟨"source_file", 0, 259, true, false, false, none⟩
    [.node ⟨"mod_item", 0, 258, true, false, false, none⟩
      [.node ⟨"identifier", 4, 257, true, false, false, some "name"⟩ []]]

/-- The bytes of the file of the module. -/
def longInner : ByteArray :=
  "unsafe fn f() \x7b\x7d\n".toUTF8

/-- The file of the module is in a directory of its name. -/
def longFiles : Files.Tree where
  entries :=
    [(["w"], .directory), (["w", "main.rs"], .file longText), (["w", longName], .directory),
     (["w", longName, "mod.rs"], .file longInner)]
  working := ["w"]

/-- The module as it is declared in the root file. -/
def longDeclaration : Declaration :=
  ⟨longName, some ⟨.here, []⟩, none⟩

/-- The first candidate of the module. -/
def longFirst : Files.Path :=
  ⟨.here, [longName ++ ".rs"]⟩

/-- The second candidate of the module. -/
def longSecond : Files.Path :=
  ⟨.here, [longName, "mod.rs"]⟩

theorem toList_longName : longName.toList = List.replicate 253 'a' :=
  String.toList_ofList

theorem size_longName : longName.utf8ByteSize = 253 := by
  decide +kernel

theorem size_longText : longText.size = 259 := by
  decide +kernel

/-- The letters of the name are all the same. -/
theorem not_mem_toList_longName {letter : Char} (other : letter ≠ 'a') :
    letter ∉ longName.toList := by
  rw [toList_longName]
  exact fun member => other (List.eq_of_mem_replicate member)

theorem decode_replicate (count : Nat) :
    Utf8.decode (List.replicate count 0x61) = List.replicate count 'a' := by
  induction count with
  | zero => rfl
  | succ count hypothesis => exact congrArg ('a' :: ·) hypothesis

theorem modules_longTree :
    longTree.modules longText ⟨.here, []⟩ = [longDeclaration] := by
  have bytes : (longText.extract 4 257).toList = List.replicate 253 0x61 := by
    rw [Utf8.toList_eq_toList_data, ByteArray.data_extract, Array.toList_extract, longText,
      ByteArray.toList_data_append, ByteArray.toList_data_append, List.extract_eq_take_drop,
      List.append_assoc, List.drop_left' (by decide)]
    exact List.take_left' List.length_replicate
  have name : (Syntax.Tree.node ⟨"identifier", 4, 257, true, false, false, some "name"⟩ []).textOf
      longText = longName := by
    have start : clampBound longText.size 4 = 4 := by rw [size_longText]; rfl
    have stop : clampBound longText.size 257 = 257 := by rw [size_longText]; rfl
    simp only [Syntax.Tree.textOf, Syntax.Tree.head, start, stop, bytes, decode_replicate]
    rfl
  rw [longDeclaration, ← name]
  rfl

theorem ofText_longName : Path.ofText longName = ⟨.here, [longName]⟩ :=
  Path.ofText_of_isStep (isStep_of_size longName (by rw [size_longName]; decide)).1
    (not_mem_toList_longName (by decide))

theorem size_longName_append : (longName ++ ".rs").utf8ByteSize = 256 := by
  rw [String.utf8ByteSize_append, size_longName]
  rfl

theorem ofText_longName_append : Path.ofText (longName ++ ".rs") = longFirst := by
  refine Path.ofText_of_isStep (isStep_of_size _ (by rw [size_longName_append]; decide)).1 ?_
  rw [String.toList_append, List.mem_append, not_or]
  exact ⟨not_mem_toList_longName (by decide), by simp⟩

theorem ofText_directoryModule : Path.ofText directoryModule = ⟨.here, ["mod.rs"]⟩ :=
  Path.ofText_of_isStep (by decide) (by simp [directoryModule])

theorem candidates_longDeclaration (file : Files.Path) :
    candidates file ⟨.here, []⟩ longDeclaration = [longFirst, longSecond] := by
  simp only [candidates, longDeclaration, Path.joinText, ofText_longName, ofText_longName_append,
    ofText_directoryModule]
  rfl

theorem regular_longFirst : longFirst.Regular := by
  rw [← ofText_longName_append]
  exact Path.regular_ofText _

theorem regular_longSecond : longSecond.Regular := by
  have regular := Path.regular_joinText (Path.regular_ofText longName) directoryModule
  rwa [ofText_longName, Path.joinText, ofText_directoryModule] at regular

theorem not_null_mem_longFirst : '\x00' ∉ longFirst.text.toList := by
  have letters : longFirst.letters = longName.toList ++ ".rs".toList := by
    rw [Path.letters, longFirst, List.map_cons, List.map_nil, List.intercalate_singleton,
      String.toList_append]
  refine Path.not_mem_toList_text rfl (by decide) ?_
  rw [letters, List.mem_append, not_or]
  exact ⟨not_mem_toList_longName (by decide), by simp⟩

theorem isTooLong_longFirst : isTooLong longFiles longFirst = true := by
  have plain : ¬ longFirst.text.toList.contains '\x00' = true := by
    rw [List.contains_iff_mem]
    exact not_null_mem_longFirst
  have there : longFiles.stat longFirst.text = .error .nameTooLong := by
    have size := size_longName_append
    obtain ⟨step, proper⟩ := isStep_of_size (longName ++ ".rs") (by omega)
    refine (Files.Tree.stat_text regular_longFirst rfl (List.cons_ne_nil _ _)).trans ?_
    exact Files.Tree.walk_cons_of_long rfl step proper (by rw [size]; decide)
  rw [isTooLong, Bool.eq_false_iff.mpr plain, there]
  rfl

theorem not_null_mem_longSecond : '\x00' ∉ longSecond.text.toList := by
  have letters : longSecond.letters = longName.toList ++ (['/'] ++ "mod.rs".toList) := by
    rw [Path.letters, longSecond, List.map_cons, List.map_cons, List.map_nil,
      List.intercalate_cons_cons, List.intercalate_singleton, List.append_assoc]
  refine Path.not_mem_toList_text rfl (by decide) ?_
  rw [letters, List.mem_append, not_or]
  exact ⟨not_mem_toList_longName (by decide), by simp⟩

theorem stat_longSecond : longFiles.stat longSecond.text
    = .ok (["w", longName, "mod.rs"], .file longInner) := by
  obtain ⟨step, proper⟩ := isStep_of_size longName (by rw [size_longName]; decide)
  have other : "main.rs" ≠ longName := by
    intro equal
    exact absurd (congrArg String.utf8ByteSize equal) (by rw [size_longName]; decide)
  have directory : longFiles.entryAt? (["w"] ++ [longName]) = some .directory := by
    simp [Files.Tree.entryAt?, longFiles, other]
  have file : longFiles.entryAt? (["w"] ++ [longName] ++ ["mod.rs"]) = some (.file longInner) := by
    simp [Files.Tree.entryAt?, longFiles]
  have working : longFiles.working = ["w"] := rfl
  have root : longFiles.entryAt? ["w"] = some .directory := rfl
  refine (Files.Tree.stat_text regular_longSecond rfl (List.cons_ne_nil _ _)).trans ?_
  rw [longSecond, working, root, Option.getD_some,
    Files.Tree.walk_cons_of_entryAt? rfl step proper (by rw [size_longName]; decide) directory,
    Files.Tree.walk_cons_of_entryAt? rfl (by decide) (by decide) (by decide) file]
  rfl

theorem isFileAt_longSecond : isFileAt longFiles longSecond = true := by
  have plain : ¬ longSecond.text.toList.contains '\x00' = true := by
    rw [List.contains_iff_mem]
    exact not_null_mem_longSecond
  rw [isFileAt, Bool.eq_false_iff.mpr plain, stat_longSecond]
  rfl

/-- The module leads to its second candidate. -/
theorem found_longDeclaration_iff :
    Found longFiles file longDeclaration path ↔ path = longSecond := by
  have absent : ¬ isFileAt longFiles longFirst = true := by
    rw [isFileAt_of_isTooLong isTooLong_longFirst]
    exact Bool.false_ne_true
  have found : (candidates file ⟨.here, []⟩ longDeclaration).find? (isFileAt longFiles)
      = some longSecond := by
    rw [candidates_longDeclaration, List.find?_cons_of_neg absent,
      List.find?_cons_of_pos isFileAt_longSecond]
  constructor
  · rintro ⟨directory, ⟨⟩, found'⟩
    exact Option.some.inj (found'.symm.trans found)
  · rintro rfl
    exact ⟨_, rfl, found⟩

/-- The module is not found where it leads. -/
theorem not_tried_longDeclaration : ¬ Tried longFiles file longDeclaration := by
  intro tried
  have absent := isFileAt_of_isTooLong isTooLong_longFirst
  have first := tried ⟨.here, []⟩ rfl longFirst
  rw [candidates_longDeclaration, List.takeWhile_cons_of_pos (by rw [absent]; rfl),
    isTooLong_longFirst] at first
  exact absurd (first List.mem_cons_self) (by decide)

end UnsafeCensus.Crate
