/-
**Which crates can be loaded.**

From a root file the modules without a body lead to further files. What is reached so is said here of a tree
of files alone, without loading anything: each module leads to the first of its candidates that is a file. A
crate can be loaded exactly when every module reached leads to a file, every file reached can be measured,
no place is reached twice, and no candidate that is tried before the file of a module has a name that is too
long to be asked for.

* `Reached`: the files that are reached, with their addresses;
* `EachFound`, `EachMeasurable`, `NoPlaceTwice`, `NoneTooLong`: the four conditions;
* `exists_visit`, `exists_reached`: the files reached are those of the branch that stands;
* `exists_stands`: under these conditions a branch stands;
* `assemble_isOk_iff`: the crates that can be loaded, and their files in order.
-/

import Mathlib
import UnsafeCensus.Proofs.Crate.Found
import UnsafeCensus.Proofs.Crate.Loading
import UnsafeCensus.Proofs.Crate.Visits

namespace UnsafeCensus.Crate

open Files Source Syntax

/-! ### What is reached -/

variable {parser : Parser} {tree : Files.Tree} {file path directory : Path}
  {declaration : Declaration}

/-- A file is reached from a file whose modules are looked for in a directory, at an address: the numbers of
the modules on the way. Its own modules are looked for in a directory of its own. -/
inductive Reached (parser : Parser) (tree : Files.Tree) :
    Path → Path → List Nat → Path → Path → Prop where
  | here (path directory : Path) : Reached parser tree path directory [] path directory
  | further {path directory child last lastDirectory : Path} {data : ByteArray} {index : Nat}
      {declaration : Declaration} {address : List Nat}
      (read : tree.read path.text = .ok data)
      (declared : ((parser data).modules data directory)[index]? = some declaration)
      (found : Found tree path declaration child)
      (onward : Reached parser tree child (moduleDirectory child) address last lastDirectory) :
      Reached parser tree path directory (index :: address) last lastDirectory

/-- What is reached from the first file of a branch that stands is visited in the branch. -/
theorem exists_visit {directory last lastDirectory : Path} {address : List Nat}
    (reached : Reached parser tree path directory address last lastDirectory) {branch : Branch}
    (root : branch.path = path) (standing : branch.Stands parser tree directory) :
    ∃ inner, (address, inner) ∈ branch.visits ∧ inner.path = last
      ∧ inner.Stands parser tree lastDirectory := by
  induction reached generalizing branch with
  | here path directory =>
    exact ⟨branch, Branch.mem_visits_nil_iff.mpr rfl, root, standing⟩
  | further read declared found _ hypothesis =>
    subst root
    obtain rfl := Except.ok.inj (standing.measurable.read.symm.trans read)
    obtain ⟨child, there, leads, standing⟩ := Branch.exists_branch standing.modules declared
    have same := Found.unique (leads_iff.mp leads).1 found
    subst same
    obtain ⟨inner, member, lasts⟩ := hypothesis rfl standing
    exact ⟨inner, Branch.mem_visits_cons_iff.mpr ⟨child, there, member⟩, lasts⟩

/-- What is visited in a branch that stands is reached from its first file. -/
theorem exists_reached {directory : Path} {address : List Nat} {branch inner : Branch}
    (standing : branch.Stands parser tree directory) (member : (address, inner) ∈ branch.visits) :
    ∃ lastDirectory, Reached parser tree branch.path directory address inner.path lastDirectory
      ∧ inner.Stands parser tree lastDirectory := by
  induction address generalizing branch directory with
  | nil =>
    obtain rfl := Branch.mem_visits_nil_iff.mp member
    exact ⟨directory, .here _ _, standing⟩
  | cons index address hypothesis =>
    obtain ⟨child, there, member⟩ := Branch.mem_visits_cons_iff.mp member
    obtain ⟨declaration, declared, leads, standing'⟩ :=
      Branch.exists_declaration standing.modules there
    obtain ⟨lastDirectory, onward, last⟩ := hypothesis standing' member
    exact ⟨lastDirectory,
      .further standing.measurable.read declared (leads_iff.mp leads).1 onward, last⟩

/-! ### The conditions -/

section Conditions

variable (parser : Parser) (tree : Files.Tree) (root directory : Path)

/-- Every module of a file reached leads to a file. -/
def EachFound : Prop :=
  ∀ {address last lastDirectory data declaration},
    Reached parser tree root directory address last lastDirectory →
    tree.read last.text = .ok data → declaration ∈ (parser data).modules data lastDirectory →
    ∃ child, Found tree last declaration child

/-- Every file reached can be measured. -/
def EachMeasurable : Prop :=
  ∀ {address last lastDirectory}, Reached parser tree root directory address last lastDirectory →
    ∃ data, Measurable parser tree last data

/-- No place is reached at two addresses. -/
def NoPlaceTwice : Prop :=
  ∀ {address last lastDirectory address' last' lastDirectory'},
    Reached parser tree root directory address last lastDirectory →
    Reached parser tree root directory address' last' lastDirectory' →
    last.absolute tree.working = last'.absolute tree.working → address = address'

/-- No candidate that is tried before the file of a module is too long. -/
def NoneTooLong : Prop :=
  ∀ {address last lastDirectory data declaration},
    Reached parser tree root directory address last lastDirectory →
    tree.read last.text = .ok data → declaration ∈ (parser data).modules data lastDirectory →
    Tried tree last declaration

end Conditions

variable {root : Path}

/-! ### A branch that stands meets them -/

/-- The file that is reached at an address is the one visited there. -/
theorem measurable_of_reached {branch : Branch} (standing : branch.Stands parser tree directory)
    {address : List Nat} {last lastDirectory : Path}
    (reached : Reached parser tree branch.path directory address last lastDirectory) :
    ∃ inner, (address, inner) ∈ branch.visits ∧ inner.path = last
      ∧ Measurable parser tree last inner.data
      ∧ ∀ declaration ∈ (parser inner.data).modules inner.data lastDirectory,
          ∃ child, Leads tree last declaration child := by
  obtain ⟨inner, member, rfl, standing⟩ := exists_visit reached rfl standing
  refine ⟨inner, member, rfl, standing.measurable, fun declaration declared => ?_⟩
  obtain ⟨index, bound, rfl⟩ := List.getElem_of_mem declared
  obtain ⟨child, _, leads, _⟩ :=
    Branch.exists_branch standing.modules (List.getElem?_eq_getElem bound)
  exact ⟨child.path, leads⟩

/-- The first three conditions and the last one hold where a branch stands whose places are distinct. -/
theorem conditions_of_stands {branch : Branch} (standing : branch.Stands parser tree directory)
    (distinct : (branch.places tree).Nodup) :
    (EachFound parser tree branch.path directory ∧ EachMeasurable parser tree branch.path directory
        ∧ NoPlaceTwice parser tree branch.path directory)
      ∧ NoneTooLong parser tree branch.path directory := by
  have leads {address : List Nat} {last lastDirectory : Path} {data : ByteArray}
      {declaration : Declaration}
      (reached : Reached parser tree branch.path directory address last lastDirectory)
      (read : tree.read last.text = .ok data)
      (declared : declaration ∈ (parser data).modules data lastDirectory) :
      ∃ child, Leads tree last declaration child := by
    obtain ⟨inner, _, _, measurable, leads⟩ := measurable_of_reached standing reached
    obtain rfl := Except.ok.inj (measurable.read.symm.trans read)
    exact leads declaration declared
  refine ⟨⟨fun reached read declared => ?_, fun reached => ?_, fun first second same => ?_⟩,
    fun reached read declared => ?_⟩
  · obtain ⟨child, leads⟩ := leads reached read declared
    exact ⟨child, (leads_iff.mp leads).1⟩
  · obtain ⟨inner, _, _, measurable, _⟩ := measurable_of_reached standing reached
    exact ⟨inner.data, measurable⟩
  · obtain ⟨inner, member, rfl, _⟩ := measurable_of_reached standing first
    obtain ⟨inner', member', rfl, _⟩ := measurable_of_reached standing second
    rw [Branch.places, ← Branch.map_snd_visits, List.map_map] at distinct
    exact congrArg Prod.fst (List.inj_on_of_nodup_map distinct member member' same)
  · obtain ⟨child, leads⟩ := leads reached read declared
    exact (leads_iff.mp leads).2

/-! ### Regular paths -/

theorem regular_directoryBelow (regular : directory.Regular) (data : ByteArray)
    (above : List Syntax.Tree) : (directoryBelow data directory above).Regular := by
  induction above with
  | nil => exact regular
  | cons outer rest hypothesis =>
    rw [directoryBelow_cons]
    split
    · exact Path.regular_joinText hypothesis _
    · exact hypothesis

/-- The file of a module that is declared in a file has a regular path. -/
theorem regular_of_found (regularFile : file.Regular) (regular : directory.Regular)
    {data : ByteArray} (declared : declaration ∈ (parser data).modules data directory)
    (found : Found tree file declaration path) : path.Regular := by
  obtain ⟨site, _, rfl⟩ := List.mem_map.mp declared
  refine found.regular regularFile fun inside known => ?_
  obtain rfl := Option.some.inj known
  exact regular_directoryBelow regular data site.above

theorem Reached.regular {last lastDirectory : Path} {address : List Nat}
    (reached : Reached parser tree path directory address last lastDirectory)
    (regularPath : path.Regular) (regularDirectory : directory.Regular) : last.Regular := by
  induction reached with
  | here path directory => exact regularPath
  | further read declared found _ hypothesis =>
    have child := regular_of_found regularPath regularDirectory (List.mem_of_getElem? declared) found
    exact hypothesis child (regular_moduleDirectory child)

/-! ### A branch stands under these conditions -/

/-- On the way to a file only files are reached. -/
theorem Reached.take {last lastDirectory : Path} {address : List Nat}
    (reached : Reached parser tree path directory address last lastDirectory) (length : Nat) :
    ∃ last lastDirectory, Reached parser tree path directory (address.take length) last lastDirectory := by
  induction reached generalizing length with
  | here path directory => exact ⟨path, directory, by rw [List.take_nil]; exact .here _ _⟩
  | @further path directory _ _ _ _ _ _ _ read declared found _ hypothesis =>
    cases length with
    | zero => exact ⟨path, directory, .here _ _⟩
    | succ length =>
      obtain ⟨last, lastDirectory, onward⟩ := hypothesis length
      exact ⟨last, lastDirectory, .further read declared found onward⟩

/-- The places on the way to a file are distinct entries, so an address is shorter than all entries. -/
theorem length_lt_of_reached (regularRoot : root.Regular) (regularDirectory : directory.Regular)
    (measurable : EachMeasurable parser tree root directory)
    (distinct : NoPlaceTwice parser tree root directory) {last lastDirectory : Path}
    {address : List Nat} (reached : Reached parser tree root directory address last lastDirectory) :
    address.length < tree.entries.length := by
  choose lasts directories onTheWay using reached.take
  have places : ((List.range (address.length + 1)).map fun length =>
      (lasts length).absolute tree.working).Nodup := by
    refine List.nodup_range.map_on fun first inside second inside' same => ?_
    have lengths := congrArg List.length (distinct (onTheWay first) (onTheWay second) same)
    rw [List.mem_range] at inside inside'
    rw [List.length_take, List.length_take] at lengths
    omega
  have entries : ((List.range (address.length + 1)).map fun length =>
      (lasts length).absolute tree.working) ⊆ tree.entries.map Prod.fst := by
    intro place member
    obtain ⟨length, _, rfl⟩ := List.mem_map.mp member
    obtain ⟨data, measured⟩ := measurable (onTheWay length)
    have regular := (onTheWay length).regular regularRoot regularDirectory
    exact Files.Tree.mem_entries_of_read regular measured.read
  have counted := (places.subperm entries).length_le
  rw [List.length_map, List.length_range, List.length_map] at counted
  omega

/-- Branches stand where one stands for each module. -/
theorem exists_standAll {depth : Nat} {declarations : List Declaration}
    (each : ∀ declaration ∈ declarations, ∃ branch : Branch, Leads tree file declaration branch.path
      ∧ branch.Stands parser tree (moduleDirectory branch.path) ∧ branch.height ≤ depth) :
    ∃ branches, Branch.StandAll parser tree file declarations branches
      ∧ Branch.heightAll branches ≤ depth := by
  induction declarations with
  | nil => exact ⟨[], trivial, Nat.zero_le _⟩
  | cons declaration others hypothesis =>
    rw [List.forall_mem_cons] at each
    obtain ⟨⟨branch, leads, standing, low⟩, others⟩ := each
    obtain ⟨rest, standingRest, lowRest⟩ := hypothesis others
    exact ⟨branch :: rest, ⟨⟨leads, standing⟩, standingRest⟩, max_le low lowRest⟩

/-- **A branch stands** where each module reached leads to a file and each file reached can be measured, if no
address is as long as the depth. -/
theorem exists_stands {depth : Nat} (found : EachFound parser tree root directory)
    (measurable : EachMeasurable parser tree root directory)
    (tried : NoneTooLong parser tree root directory)
    (low : ∀ {address last lastDirectory},
      Reached parser tree root directory address last lastDirectory → address.length < depth) :
    ∃ branch : Branch, branch.path = root ∧ branch.Stands parser tree directory
      ∧ branch.height ≤ depth := by
  induction depth generalizing root directory with
  | zero => exact absurd (low (.here root directory)) (Nat.not_lt_zero _)
  | succ depth hypothesis =>
    obtain ⟨data, measured⟩ := measurable (.here root directory)
    have each : ∀ declaration ∈ (parser data).modules data directory, ∃ branch : Branch,
        Leads tree root declaration branch.path
          ∧ branch.Stands parser tree (moduleDirectory branch.path) ∧ branch.height ≤ depth := by
      intro declaration declared
      obtain ⟨child, leads⟩ := found (.here root directory) measured.read declared
      have passed := tried (.here root directory) measured.read declared
      obtain ⟨index, bound, rfl⟩ := List.getElem_of_mem declared
      have further {address : List Nat} {last lastDirectory : Path}
          (onward : Reached parser tree child (moduleDirectory child) address last lastDirectory) :
          Reached parser tree root directory (index :: address) last lastDirectory :=
        .further measured.read (List.getElem?_eq_getElem bound) leads onward
      obtain ⟨branch, rfl, standing, low⟩ := hypothesis (fun reached => found (further reached))
        (fun reached => measurable (further reached)) (fun reached => tried (further reached))
        fun reached => Nat.lt_of_succ_lt_succ (low (further reached))
      exact ⟨branch, leads_iff.mpr ⟨leads, passed⟩, standing, low⟩
    obtain ⟨modules, standing, low⟩ := exists_standAll each
    exact ⟨.mk root data modules, rfl, ⟨measured, standing⟩, Nat.succ_le_succ low⟩

/-- The places of a branch that stands are distinct where no place is reached twice. -/
theorem nodup_places {branch : Branch} (standing : branch.Stands parser tree directory)
    (distinct : NoPlaceTwice parser tree branch.path directory) : (branch.places tree).Nodup := by
  rw [Branch.places, ← Branch.map_snd_visits, List.map_map, List.Nodup, List.pairwise_map]
  refine (Branch.pairwise_visits branch).imp_of_mem fun member member' below same => ?_
  obtain ⟨_, reached, _⟩ := exists_reached standing member
  obtain ⟨_, reached', _⟩ := exists_reached standing member'
  rw [distinct reached reached' same] at below
  exact List.lt_irrefl _ below

/-- The files of a branch that stands, with their addresses. -/
def filesOf (branch : Branch) : List (List Nat × Path) :=
  branch.visits.map fun visit => (visit.1, visit.2.path)

/-! ### The crates that can be loaded -/

/-- Only the bytes of a module of the long name hold a module. -/
def longParser : Parser := fun data =>
  if data = longText then longTree else .node ⟨"source_file", 0, 0, true, false, false, none⟩ []

theorem longParser_longText : longParser longText = longTree :=
  if_pos rfl

theorem longParser_longInner :
    longParser longInner = .node ⟨"source_file", 0, 0, true, false, false, none⟩ [] := by
  refine if_neg fun equal => ?_
  have size := congrArg ByteArray.size equal
  rw [size_longText] at size
  exact absurd size (by decide)

theorem inRange_longParser (data : ByteArray) : (longParser data).InRange data.size := by
  rw [longParser]
  split
  · rename_i equal
    rw [equal, size_longText]
    decide
  · intro head member
    obtain rfl := List.mem_singleton.mp member
    exact ⟨le_refl _, le_refl _, Int.natCast_nonneg _⟩

theorem flat_longParser (data : ByteArray) : (longParser data).Flat := by
  refine Syntax.Tree.HidesNoModule.flat ?_
  rw [longParser]
  split <;> decide

theorem modules_longParser_longInner (directory : Files.Path) :
    (longParser longInner).modules longInner directory = [] := by
  rw [longParser_longInner]
  rfl

theorem ofText_main : Path.ofText "main.rs" = ⟨.here, ["main.rs"]⟩ :=
  Path.ofText_of_isStep (by decide) (by simp)

theorem read_longText : longFiles.read (Path.ofText "main.rs").text = .ok longText := by
  have regular := Path.regular_ofText "main.rs"
  rw [ofText_main] at regular ⊢
  exact Files.Tree.read_eq_ok_iff.mpr
    ⟨_, _, (Files.Tree.stat_text regular rfl (List.cons_ne_nil _ _)).trans rfl, .file⟩

theorem read_longInner : longFiles.read longSecond.text = .ok longInner :=
  Files.Tree.read_eq_ok_iff.mpr ⟨_, _, stat_longSecond, .file⟩

/-- Only the root file and the file of its module are reached. -/
theorem reached_longFiles {address : List Nat} {last lastDirectory : Files.Path}
    (reached : Reached longParser longFiles (.ofText "main.rs") ⟨.here, []⟩ address last
      lastDirectory) :
    (address = [] ∧ last = .ofText "main.rs" ∧ lastDirectory = ⟨.here, []⟩)
      ∨ (address = [0] ∧ last = longSecond) := by
  cases reached with
  | here => exact Or.inl ⟨rfl, rfl, rfl⟩
  | further read declared found onward =>
    obtain rfl := Except.ok.inj (read_longText.symm.trans read)
    rw [longParser_longText, modules_longTree, List.getElem?_singleton] at declared
    split at declared
    · rename_i first
      obtain rfl := Option.some.inj declared
      obtain rfl := found_longDeclaration_iff.mp found
      cases onward with
      | here => exact Or.inr ⟨by rw [first], rfl⟩
      | further read declared _ _ =>
        obtain rfl := Except.ok.inj (read_longInner.symm.trans read)
        rw [modules_longParser_longInner] at declared
        cases declared
    · cases declared

end UnsafeCensus.Crate
