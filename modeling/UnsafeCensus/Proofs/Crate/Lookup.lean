/-
**Where the file of a module is looked for.**

A module without a path attribute is looked for in the directory of the modules of its file, followed by the
names of the modules around it. A path attribute is seen from the directory of the file instead, whatever stands
around the module. Both places are the same only outside all modules, in a file whose modules are looked for
beside it: a root file or one with the name of a directory's module. The letters that mark a raw name stay in the
name of the file.

* `Path.within`: a path followed by names;
* `IsPlain`: a name that is one step of a path;
* `modulesAround`, `directoryBelow_eq`: the names of the modules around a site lead to its directory;
* `Reached.directory_eq`, `Reached.stands`: where the modules of a file that is reached are looked for;
* `candidates_joinText_iff`: when a path attribute is seen from the place of its module;
* `disjoint_candidates_raw`: a raw name has no file in common with the name itself;
* `modules_looked_up`: where the modules of the files of a crate are looked for.
-/

import Mathlib
import UnsafeCensus.Grammar.Grammar
import UnsafeCensus.Proofs.Crate.Reach

namespace UnsafeCensus.Files

/-! ### A path followed by names -/

namespace Path

variable {path : Path} {text : String}

/-- A path followed by names. -/
def within (path : Path) (names : List String) : Path :=
  { path with names := path.names ++ names }

@[simp] theorem within_nil (path : Path) : path.within [] = path := by
  rw [within, List.append_nil]

@[simp] theorem within_within (path : Path) (first second : List String) :
    (path.within first).within second = path.within (first ++ second) := by
  simp only [within, List.append_assoc]

@[simp] theorem within_inj {first second : List String} :
    path.within first = path.within second ↔ first = second := by
  simp [within]

@[simp] theorem within_eq_self {names : List String} : path.within names = path ↔ names = [] := by
  rw [← within_inj, within_nil]

/-- A text that starts in the working directory leads on from a path. -/
theorem joinText_of_here (path : Path) (relative : (ofText text).anchor = .here) :
    path.joinText text = path.within (ofText text).names :=
  if_pos relative

theorem slash_not_mem_name (regular : path.Regular) : '/' ∉ path.name.toList := by
  rw [name]
  cases last : path.names.getLast? with
  | none => simp
  | some name => exact (regular name (List.mem_of_getLast? last)).2

theorem slash_not_mem_stem (regular : path.Regular) : '/' ∉ path.stem.toList := by
  have free := slash_not_mem_name regular
  unfold stem
  dsimp only
  split
  · rw [String.toList_ofList]
    exact fun member => free (List.mem_of_mem_take member)
  · exact free

end Path

/-- A name that is one step of a path. -/
def IsPlain (name : String) : Prop :=
  isStep name = true ∧ '/' ∉ name.toList

instance (name : String) : Decidable (IsPlain name) :=
  inferInstanceAs (Decidable (_ ∧ _))

namespace IsPlain

variable {name : String}

theorem joinText_eq (plain : IsPlain name) (path : Path) : path.joinText name = path.within [name] := by
  have read := Path.ofText_of_isStep plain.1 plain.2
  rw [path.joinText_of_here (by rw [read]), read]

theorem size_pos (plain : IsPlain name) : 0 < name.utf8ByteSize := by
  rw [Nat.pos_iff_ne_zero, Ne, String.utf8ByteSize_eq_zero_iff]
  rintro rfl
  exact absurd plain.1 (by decide)

/-- Two texts without a slash that are not short are one step together. -/
theorem append {first second : String} (long : 2 < first.utf8ByteSize + second.utf8ByteSize)
    (free : '/' ∉ first.toList) (free' : '/' ∉ second.toList) : IsPlain (first ++ second) := by
  refine ⟨(isStep_of_size _ ?_).1, ?_⟩
  · rwa [String.utf8ByteSize_append]
  · rw [String.toList_append, List.mem_append, not_or]
    exact ⟨free, free'⟩

theorem source (plain : IsPlain name) : IsPlain (name ++ ".rs") := by
  have ending : ".rs".utf8ByteSize = 3 := rfl
  exact append (by omega) plain.2 (by simp)

theorem raw (plain : IsPlain name) : IsPlain ("r#" ++ name) := by
  have size := plain.size_pos
  have mark : "r#".utf8ByteSize = 2 := rfl
  exact append (by omega) (by simp) plain.2

end IsPlain

end UnsafeCensus.Files

namespace UnsafeCensus.Crate

open Files Syntax

variable {parser : Parser} {tree : Files.Tree} {file path directory : Path} {data : ByteArray}

/-! ### The modules around a site -/

/-- The names of the modules among some nodes, the nearest first, from the outermost to the innermost. -/
def modulesAround (data : ByteArray) (above : List Syntax.Tree) : List String :=
  ((above.filter fun outer => outer.type == "mod_item").map (nameOf data)).reverse

theorem modulesAround_cons (data : ByteArray) (outer : Syntax.Tree) (above : List Syntax.Tree) :
    modulesAround data (outer :: above)
      = modulesAround data above ++ if outer.type == "mod_item" then [nameOf data outer] else [] := by
  by_cases module : (outer.type == "mod_item") = true <;> simp [modulesAround, module]

/-- The names of the modules around lead to the directory of what is declared below them. -/
theorem directoryBelow_eq {above : List Syntax.Tree} (plain : ∀ name ∈ modulesAround data above, IsPlain name) :
    directoryBelow data directory above = directory.within (modulesAround data above) := by
  induction above with
  | nil => exact (Path.within_nil directory).symm
  | cons outer above hypothesis =>
    rw [modulesAround_cons, List.forall_mem_append] at plain
    rw [modulesAround_cons, directoryBelow_cons, hypothesis plain.1]
    split
    · rename_i module
      rw [if_pos module, List.forall_mem_singleton] at plain
      rw [plain.2.joinText_eq, Path.within_within]
    · rw [List.append_nil]

/-- What is declared at a site without a body is loaded. -/
theorem declaration_mem_declarations {source : Syntax.Tree} {site : Site} (member : site ∈ source.sites)
    (bodiless : isBodiless site.node = true) (data : ByteArray) (directory : Path) :
    site.declaration data directory ∈ declarations data { directory := some directory } source :=
  (perm_declarations data directory [] [] _ source rfl rfl).mem_iff.mpr
    (List.mem_map_of_mem (List.mem_filter.mpr ⟨member, bodiless⟩))

/-! ### The directory of the modules of a file -/

/-- The modules of a file are looked for in the directory of the file or below it. -/
theorem exists_moduleDirectory_eq (regular : path.Regular) :
    ∃ names, moduleDirectory path = path.parent.within names := by
  rw [moduleDirectory]
  split
  · exact ⟨[], (Path.within_nil _).symm⟩
  · exact ⟨_, path.parent.joinText_of_here (Path.anchor_ofText (Path.slash_not_mem_stem regular))⟩

variable {last lastDirectory : Path} {address : List Nat}

/-- At no address only the first file is reached. -/
theorem Reached.eq_of_nil (reached : Reached parser tree path directory [] last lastDirectory) :
    last = path ∧ lastDirectory = directory := by
  cases reached
  exact ⟨rfl, rfl⟩

/-- Each file but the first one has a directory of modules of its own. -/
theorem Reached.directory_eq (reached : Reached parser tree path directory address last lastDirectory) :
    lastDirectory = if address = [] then directory else moduleDirectory last := by
  induction reached with
  | here path directory => rfl
  | @further _ _ child last _ _ _ _ address _ _ _ onward hypothesis =>
    rw [if_neg (List.cons_ne_nil _ _), hypothesis]
    split
    · rename_i none
      subst none
      rw [onward.eq_of_nil.1]
    · rfl

/-- The modules of a file that is reached are looked for in the directory of the file or below it, when this
holds for the first file. -/
theorem Reached.stands (reached : Reached parser tree path directory address last lastDirectory)
    (regularPath : path.Regular) (regularDirectory : directory.Regular) {names : List String}
    (first : directory = path.parent.within names) : ∃ names, lastDirectory = last.parent.within names := by
  rw [reached.directory_eq]
  by_cases none : address = []
  · subst none
    rw [if_pos rfl, reached.eq_of_nil.1]
    exact ⟨names, first⟩
  · rw [if_neg none]
    exact exists_moduleDirectory_eq (reached.regular regularPath regularDirectory)

/-! ### Candidates -/

variable {declaration : Declaration} {value name : String}

/-- A path attribute is seen from the place of its module exactly where this is the directory of the file. -/
theorem candidates_joinText_iff {names around : List String} (named : declaration.file = some value)
    (relative : (Path.ofText value).anchor = .here) (stands : directory = file.parent.within names) :
    candidates file (directory.within around) declaration = [(directory.within around).joinText value]
      ↔ around = [] ∧ directory = file.parent := by
  have only : candidates file (directory.within around) declaration = [file.parent.joinText value] := by
    rw [candidates, named]
  rw [only, List.singleton_inj, Path.joinText_of_here _ relative, Path.joinText_of_here _ relative, stands,
    Path.within_within, Path.within_within, Path.within_inj, Path.within_eq_self, eq_comm, ← List.append_assoc,
    List.append_left_eq_self, List.append_eq_nil_iff, and_comm]

/-- A module without a path attribute is looked for by its name. -/
theorem candidates_eq_of_plain (unnamed : declaration.file = none) (plain : IsPlain declaration.name) :
    candidates file directory declaration
      = [directory.within [declaration.name ++ ".rs"], directory.within [declaration.name, directoryModule]] := by
  have inner : IsPlain directoryModule := by decide
  rw [candidates, unnamed]
  dsimp only
  rw [plain.source.joinText_eq, plain.joinText_eq, inner.joinText_eq, Path.within_within]
  rfl

/-- **A raw name** has no candidate in common with the name itself. -/
theorem disjoint_candidates_raw (unnamed : declaration.file = none) (plain : IsPlain name)
    (marked : declaration.name = "r#" ++ name) :
    (candidates file directory declaration).Disjoint
      (candidates file directory { declaration with name := name }) := by
  have other : "r#" ++ name ≠ name := by
    intro same
    have size := congrArg String.utf8ByteSize same
    rw [String.utf8ByteSize_append] at size
    have mark : "r#".utf8ByteSize = 2 := rfl
    omega
  have bare : candidates file directory { declaration with name := name }
      = [directory.within [name ++ ".rs"], directory.within [name, directoryModule]] :=
    candidates_eq_of_plain unnamed plain
  rw [candidates_eq_of_plain unnamed (marked ▸ plain.raw), bare, marked]
  intro candidate raw bare
  simp only [List.mem_cons, List.not_mem_nil, or_false] at raw bare
  rcases raw with rfl | rfl <;> simp [other] at bare

/-- **Where modules are looked for.** At each place of a file of a crate, inside any modules: a module without a
path attribute is looked for in the directory of the modules of the file, followed by the names of the modules
around it, and never under the same name without the mark of a raw one. A path attribute is seen from the
directory of the file; it is seen from the place of the module only when no module is around it and the modules of
the file are looked for beside it. -/
theorem modules_looked_up {root : String}
    (reached : Reached parser tree (.ofText root) (Path.ofText root).parent address file directory)
    (data : ByteArray) {site : Site} (member : site ∈ (parser data).sites)
    (bodiless : isBodiless site.node = true)
    (plain : ∀ name ∈ modulesAround data site.above, IsPlain name) :
    let place := directory.within (modulesAround data site.above)
    let declaration := site.declaration data directory
    directory = (if address = [] then file.parent else moduleDirectory file)
      ∧ declaration ∈ declarations data { directory := some directory } (parser data)
      ∧ declaration.directory = some place
      ∧ (declaration.file = none → IsPlain declaration.name →
        candidates file place declaration
          = [place.within [declaration.name ++ ".rs"], place.within [declaration.name, "mod.rs"]])
      ∧ (∀ value, declaration.file = some value →
        candidates file place declaration = [file.parent.joinText value]
          ∧ ((Path.ofText value).anchor = .here →
            (candidates file place declaration = [place.joinText value]
              ↔ modulesAround data site.above = [] ∧ directory = file.parent)))
      ∧ ∀ name, declaration.file = none → IsPlain name → declaration.name = "r#" ++ name →
        (candidates file place declaration).Disjoint
          (candidates file place { declaration with name := name }) := by
  intro place declaration
  have regular := Path.regular_ofText root
  obtain ⟨names, stands⟩ :=
    reached.stands regular (Path.regular_parent regular) (Path.within_nil _).symm
  refine ⟨?_, declaration_mem_declarations member bodiless data directory,
    congrArg some (directoryBelow_eq plain), fun unnamed plain => candidates_eq_of_plain unnamed plain,
    fun value named => ⟨by rw [candidates, named], fun relative => ?_⟩,
    fun name unnamed plain marked => disjoint_candidates_raw unnamed plain marked⟩
  · rw [reached.directory_eq]
    by_cases none : address = []
    · subst none
      rw [reached.eq_of_nil.1]
    · rw [if_neg none, if_neg none]
  · exact candidates_joinText_iff named relative stands

/-! ### A module inside a module, and a raw name -/

/-- A module with a path attribute inside a module, and a module with a raw name. -/
def outerText : ByteArray :=
  "mod outer \x7b\n    #[path = \"p.rs\"]\n    mod inner;\n\x7d\nmod r#type;\n".toUTF8

/-- The path attribute inside the module is seen from the directory of the root file. -/
theorem modules_looked_up_inner :
    let root := Path.ofText "main.rs"
    Reached Grammar.parse (.empty []) root root.parent [] root root.parent
      ∧ ∃ site ∈ (Grammar.parse outerText).sites, isBodiless site.node = true
        ∧ (∀ name ∈ modulesAround outerText site.above, IsPlain name)
        ∧ modulesAround outerText site.above = ["outer"]
        ∧ candidates root (root.parent.within ["outer"]) (site.declaration outerText root.parent)
          = [⟨.here, ["p.rs"]⟩] := by
  intro root
  have found : ∃ site ∈ (Grammar.parse outerText).sites, isBodiless site.node = true
      ∧ (∀ name ∈ modulesAround outerText site.above, IsPlain name)
      ∧ modulesAround outerText site.above = ["outer"]
      ∧ pathAttribute? outerText site.before = some "p.rs" := by
    decide +kernel
  obtain ⟨site, member, bodiless, plain, around, named⟩ := found
  have start : Reached Grammar.parse (.empty []) root root.parent [] root root.parent := .here _ _
  have beside : root.parent.joinText "p.rs" = ⟨.here, ["p.rs"]⟩ := by decide +kernel
  obtain ⟨_, _, _, _, seen, _⟩ := modules_looked_up start outerText member bodiless plain
  have only := (seen "p.rs" named).1
  rw [around, beside] at only
  exact ⟨start, site, member, bodiless, plain, around, only⟩

/-- **What is looked up elsewhere.** The path attribute inside the module is not seen from the place of the module,
and the raw name is not looked for like the name itself. -/
theorem looked_up_elsewhere :
    (∃ site ∈ (Grammar.parse outerText).sites, isBodiless site.node = true
        ∧ modulesAround outerText site.above = ["outer"]
        ∧ pathAttribute? outerText site.before = some "p.rs"
        ∧ candidates (.ofText "main.rs") ⟨.here, ["outer"]⟩ (site.declaration outerText ⟨.here, []⟩)
          ≠ [Path.joinText ⟨.here, ["outer"]⟩ "p.rs"])
      ∧ ∃ site ∈ (Grammar.parse outerText).sites, isBodiless site.node = true
        ∧ pathAttribute? outerText site.before = none
        ∧ nameOf outerText site.node = "r#" ++ "type"
        ∧ candidates (.ofText "main.rs") ⟨.here, []⟩ (site.declaration outerText ⟨.here, []⟩)
          ≠ candidates (.ofText "main.rs") ⟨.here, []⟩
              { site.declaration outerText ⟨.here, []⟩ with name := "type" } := by
  decide +kernel

end UnsafeCensus.Crate
