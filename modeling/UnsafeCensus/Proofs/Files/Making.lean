/-
**Making directories and files.**

A directory is made where its parent is a directory and nothing stands, and a missing parent is made before it. So
however far the making of a path comes, the tree keeps its entries and has new directories on the way of the path only,
and when it succeeds the path leads to a directory. A file is then written in this directory unless a directory, a
device or a pipe has its name.

* `Grown`: a tree keeps its entries and has new directories at some places only;
* `Grown.stat_eq`: what a text leads to stays, unless nothing was there;
* `Path.onWay`: the places that a path passes through;
* `makeDirectory_eq_ok`, `makeDirectory_of_stat`: what one new directory needs, and that none is made again;
* `Makes`: what making a path does to a tree;
* `makes_makeDirectories`: all parents, by induction on how many are made;
* `WellFormed.stat_directory`: a path to a directory only needs the directories of a tree;
* `write_of_isFile`, `write_of_directory`, `write_of_special`: the file in a directory.
-/

import Mathlib
import UnsafeCensus.Proofs.Files.WellFormed

namespace UnsafeCensus.Files

namespace Tree

variable {tree before after : Tree} {path : Path} {place : Place} {entry : Entry} {name : String}

/-! ### Growth -/

/-- A tree keeps its entries, and only directories at some places come to them. -/
structure Grown (places : Set Place) (before after : Tree) : Prop where
  working : after.working = before.working
  kept : ∀ {place entry}, before.entryAt? place = some entry → after.entryAt? place = some entry
  added : ∀ {place}, before.entryAt? place = none →
    after.entryAt? place = none ∨ (place ∈ places ∧ after.entryAt? place = some .directory)

namespace Grown

variable {places : Set Place}

theorem refl (places : Set Place) (tree : Tree) : Grown places tree tree :=
  ⟨rfl, id, .inl⟩

theorem trans {middle : Tree} (grown : Grown places before middle) (grown' : Grown places middle after) :
    Grown places before after := by
  refine ⟨grown'.working.trans grown.working, fun there => grown'.kept (grown.kept there), fun absent => ?_⟩
  rcases grown.added absent with absent | ⟨member, there⟩
  · exact grown'.added absent
  · exact .inr ⟨member, grown'.kept there⟩

theorem mono {others : Set Place} (grown : Grown places before after) (subset : places ⊆ others) :
    Grown others before after :=
  ⟨grown.working, grown.kept, fun absent => (grown.added absent).imp_right (And.imp_left (subset ·))⟩

/-- What has come is a directory, so anything else was there before. -/
theorem entryAt?_before (grown : Grown places before after) (there : after.entryAt? place = some entry)
    (plain : entry.isDirectory = false) : before.entryAt? place = some entry := by
  cases known : before.entryAt? place with
  | none =>
    rcases grown.added known with absent | ⟨_, directory⟩
    · rw [there] at absent
      cases absent
    · rw [there] at directory
      cases directory
      cases plain
  | some old => exact (grown.kept known).symm.trans there

/-- A new directory where nothing was. -/
theorem put (named : place ≠ []) (absent : tree.entryAt? place = none) (member : place ∈ places) :
    Grown places tree (tree.put place .directory) := by
  refine ⟨working_put .., fun {other entry} there => ?_, fun {other} missing => ?_⟩
  · rwa [entryAt?_put named, if_neg (by rintro rfl; rw [absent] at there; cases there)]
  · rw [entryAt?_put named]
    by_cases same : other = place
    · exact .inr ⟨same ▸ member, if_pos same⟩
    · exact .inl ((if_neg same).trans missing)

/-- A walk goes on as before unless it ended where nothing was. -/
theorem walk_eq (grown : Grown places before after) {names : List String}
    (there : before.walk place entry names ≠ .error .absent) :
    after.walk place entry names = before.walk place entry names := by
  induction names generalizing place entry with
  | nil => rfl
  | cons name names hypothesis =>
    rw [walk] at there ⊢
    rw [walk]
    split
    · rfl
    · next directory =>
      rw [if_neg directory] at there
      split
      · next shown => exact hypothesis (by rwa [if_pos shown] at there)
      · next step =>
        rw [if_neg step] at there
        split
        · next up => exact hypothesis (by rwa [if_pos up] at there)
        · next proper =>
          rw [if_neg proper] at there
          split
          · rfl
          · next short =>
            rw [if_neg short] at there
            cases known : before.entryAt? (place ++ [name]) with
            | none =>
              rw [known] at there
              exact absurd rfl there
            | some next =>
              rw [known] at there
              rw [grown.kept known]
              exact hypothesis there

/-- What a path leads to stays, unless nothing was there. -/
theorem stat_eq (grown : Grown places before after) (wellFormed : before.WellFormed) (wellFormed' : after.WellFormed)
    (regular : path.Regular) (there : before.stat path.text ≠ .error .absent) :
    after.stat path.text = before.stat path.text := by
  rw [wellFormed.stat_text regular] at there ⊢
  rw [wellFormed'.stat_text regular, base, grown.working]
  exact grown.walk_eq there

end Grown

end Tree

/-! ### The way of a path -/

/-- The places that a path passes through, seen from a working directory. -/
def Path.onWay (path : Path) (working : Place) : Set Place :=
  {place | ∃ names, names <+: path.names ∧ place = ({ path with names } : Path).absolute working}

namespace Path

variable {path : Path}

theorem onWay_parent_subset (path : Path) (working : Place) : path.parent.onWay working ⊆ path.onWay working := by
  rintro place ⟨names, upward, rfl⟩
  exact ⟨names, upward.trans (List.dropLast_prefix path.names), rfl⟩

theorem absolute_mem_onWay (path : Path) (working : Place) : path.absolute working ∈ path.onWay working :=
  ⟨path.names, List.prefix_rfl, rfl⟩

/-- What stands between the slashes of the text of a path with names: nothing for each slash in front, and the
names. -/
theorem exists_namesOf_text (regular : path.Regular) (named : path.names ≠ []) :
    ∃ front, Tree.namesOf path.text = front ++ path.names ∧ ∀ name ∈ front, name = "" := by
  have names := segments_letters regular named
  have letters : path.letters ≠ [] := by
    intro none
    rw [none] at names
    obtain ⟨step, _⟩ := regular "" (by rw [← names]; exact List.mem_singleton_self _)
    exact absurd step (by decide)
  rw [Tree.namesOf, toList_text, if_neg (by simp [letters]), ← names]
  cases path.anchor with
  | here => exact ⟨[], rfl, List.forall_mem_nil _⟩
  | root => exact ⟨[""], rfl, by simp⟩
  | doubleRoot => exact ⟨["", ""], rfl, by simp⟩

end Path

namespace Tree

variable {tree before after : Tree} {path : Path} {place last : Place} {entry : Entry} {name : String}

theorem walk_blanks (tree : Tree) (place : Place) {front : List String} (blank : ∀ name ∈ front, name = "")
    (names : List String) : tree.walk place .directory (front ++ names) = tree.walk place .directory names := by
  induction front with
  | nil => rfl
  | cons first front hypothesis =>
    obtain ⟨rfl, others⟩ := List.forall_mem_cons.mp blank
    exact hypothesis others

/-! ### One directory -/

/-- The text of a path is followed to its parent and then by its last name. -/
theorem WellFormed.stat_concat (wellFormed : tree.WellFormed) (regular : path.Regular)
    (spelled : path.names = path.parent.names ++ [name]) :
    tree.stat path.text = tree.stat path.parent.text >>= fun found => tree.walk found.1 found.2 [name] := by
  rw [wellFormed.stat_text regular, wellFormed.stat_text (Path.regular_parent regular), spelled, walk_append]
  rfl

/-- The place for a last name is in the directory that the parent leads to. -/
theorem WellFormed.lastPlace_text (wellFormed : tree.WellFormed) (regular : path.Regular)
    (spelled : path.names = path.parent.names ++ [name]) :
    tree.lastPlace path.text = tree.stat path.parent.text >>= fun found =>
      if found.2.isDirectory then .ok (found.1, name) else .error .notDirectory := by
  obtain ⟨front, between, blank⟩ := Path.exists_namesOf_text regular (by rw [spelled]; simp)
  have start : (tree.entryAt? (tree.origin path.text)).getD .directory = .directory := by
    rw [Path.origin_text regular, ← base, wellFormed.directory_base]
    rfl
  rw [spelled, ← List.append_assoc] at between
  rw [lastPlace]
  simp only
  rw [start, between, List.dropLast_concat, walk_blanks _ _ blank, Path.origin_text regular, ← base,
    wellFormed.stat_text (Path.regular_parent regular), List.getLast?_concat]
  rfl

theorem exists_names_eq (named : path.names ≠ []) : ∃ name, path.names = path.parent.names ++ [name] :=
  ⟨path.names.getLast named, (List.dropLast_append_getLast named).symm⟩

/-- No directory is made at the root or the working directory. -/
theorem makeDirectory_of_names_eq_nil (wellFormed : tree.WellFormed) (unnamed : path.names = []) :
    tree.makeDirectory path.text = .error .alreadyThere := by
  obtain ⟨anchor, names⟩ := path
  cases unnamed
  cases anchor with
  | here =>
    have start : (tree.entryAt? tree.working).getD .directory = .directory := by rw [wellFormed.working]; rfl
    show (tree.walk tree.working ((tree.entryAt? tree.working).getD .directory) [] >>= _) >>= _ = _
    rw [start]
    rfl
  | root => rfl
  | doubleRoot => rfl

/-- A directory that is made stands in the directory of the parent, where nothing was. -/
theorem makeDirectory_eq_ok (wellFormed : tree.WellFormed) (regular : path.Regular) (noNull : path.NoNull)
    (made : tree.makeDirectory path.text = .ok after) :
    ∃ place name, path.names = path.parent.names ++ [name] ∧ IsName name
      ∧ tree.stat path.parent.text = .ok (place, .directory) ∧ tree.entryAt? (place ++ [name]) = none
      ∧ after = tree.put (place ++ [name]) .directory := by
  by_cases named : path.names = []
  · rw [makeDirectory_of_names_eq_nil wellFormed named] at made
    cases made
  obtain ⟨name, spelled⟩ := exists_names_eq named
  have member : name ∈ path.names := by rw [spelled]; simp
  obtain ⟨step, noSlash⟩ := regular name member
  rw [makeDirectory, wellFormed.lastPlace_text regular spelled, bind_eq_ok_iff] at made
  obtain ⟨_, led, made⟩ := made
  obtain ⟨⟨place, entry⟩, there, led⟩ := bind_eq_ok_iff.mp led
  cases entry with
  | file | special => cases led
  | directory =>
    cases led
    simp only at made
    split at made
    · cases made
    · next proper =>
      split at made
      · cases made
      · next short =>
        split at made
        · cases made
        · next absent =>
          cases made
          simp only [Bool.or_eq_true, beq_iff_eq, not_or] at proper
          exact ⟨place, name, spelled, ⟨step, proper.2, noSlash, noNull name member, Nat.not_lt.mp short⟩, there,
            by simpa using absent, rfl⟩

/-- Where a directory is, none is made. -/
theorem makeDirectory_of_stat (wellFormed : tree.WellFormed) (regular : path.Regular)
    (there : tree.stat path.text = .ok (place, .directory)) :
    tree.makeDirectory path.text = .error .alreadyThere := by
  by_cases named : path.names = []
  · exact makeDirectory_of_names_eq_nil wellFormed named
  obtain ⟨name, spelled⟩ := exists_names_eq named
  obtain ⟨step, _⟩ := regular name (by rw [spelled]; simp)
  rw [wellFormed.stat_concat regular spelled] at there
  obtain ⟨⟨above, entry⟩, parent, walked⟩ := bind_eq_ok_iff.mp there
  obtain ⟨directory, _⟩ := exists_walk_cons walked
  have led : tree.lastPlace path.text = .ok (above, name) := by
    rw [wellFormed.lastPlace_text regular spelled, parent]
    exact if_pos directory
  rw [makeDirectory, led]
  simp only [bind, Except.bind]
  rcases walk_cons_eq_ok walked with ⟨blank, _⟩ | ⟨up, _⟩ | ⟨_, proper, next, known, _⟩
  · rw [step] at blank
    cases blank
  · rw [if_pos (by rw [up]; rfl)]
    rfl
  · have short : ¬ longestName < name.utf8ByteSize := by
      intro long
      rw [walk_cons_of_long directory step proper long] at walked
      cases walked
    rw [if_neg (by simpa [isStep, proper] using step), if_neg short, known]
    rfl

/-! ### All directories of a path -/

theorem isDirectory_eq_true_iff {text : String} :
    tree.isDirectory text = .ok true ↔ ∃ place, tree.stat text = .ok (place, .directory) := by
  rw [isDirectory]
  cases tree.stat text with
  | error trouble =>
    simp only [reduceCtorEq, exists_false, iff_false]
    split <;> simp
  | ok found =>
    obtain ⟨place, entry⟩ := found
    cases entry <;> simp [Entry.isDirectory]

/-- What the making of a path does to a tree: it adds directories on the way of the path, and when it succeeds the
path leads to a directory. -/
structure Makes (path : Path) (before : Tree) (result : Tree × Except (FileTrouble × Path) Unit) : Prop where
  grown : Grown (path.onWay before.working) before result.1
  wellFormed : result.1.WellFormed
  leads : result.2 = .ok () → ∃ place, result.1.stat path.text = .ok (place, .directory)

/-- A directory that was made is on the way of the path, and the path leads to it. -/
theorem makes_makeDirectory (wellFormed : tree.WellFormed) (regular : path.Regular) (noNull : path.NoNull)
    (made : tree.makeDirectory path.text = .ok after) : Makes path tree (after, .ok ()) := by
  obtain ⟨place, name, spelled, isName, parent, absent, rfl⟩ := makeDirectory_eq_ok wellFormed regular noNull made
  have named : place ++ [name] ≠ [] := by simp
  have regular' := Path.regular_parent regular
  obtain ⟨isPlace, there⟩ := wellFormed.entryAt?_of_stat regular' parent
  have here : place ++ [name] = path.absolute tree.working := by
    rw [isPlace, Path.absolute, Path.absolute, spelled, List.foldl_append]
    exact (if_neg isName.proper).symm
  have grown : Grown (path.onWay tree.working) tree (tree.put (place ++ [name]) .directory) :=
    .put named absent (here ▸ path.absolute_mem_onWay tree.working)
  have wellFormed' := wellFormed.put isName there (by rw [absent]; simp) .directory
  have parent' := grown.stat_eq wellFormed wellFormed' regular' (by rw [parent]; simp)
  have last := walk_name (tree.put (place ++ [name]) .directory) place isName
  rw [entryAt?_put named, if_pos rfl] at last
  refine ⟨grown, wellFormed', fun _ => ⟨place ++ [name], ?_⟩⟩
  rw [wellFormed'.stat_concat regular spelled, parent', parent]
  exact last

theorem makes_ensured (wellFormed : tree.WellFormed) (regular : path.Regular) (noNull : path.NoNull) :
    Makes path tree (tree.ensured path) := by
  have still : Grown (path.onWay tree.working) tree tree := .refl _ tree
  rw [ensured]
  cases known : tree.ensureDirectory path.text with
  | error trouble => exact ⟨still, wellFormed, nofun⟩
  | ok after =>
    rw [ensureDirectory] at known
    split at known
    · next made =>
      cases known
      exact makes_makeDirectory wellFormed regular noNull made
    · cases known
    · split at known
      · next there =>
        cases known
        exact ⟨still, wellFormed, fun _ => isDirectory_eq_true_iff.mp there⟩
      · cases known

theorem Makes.trans {result : Tree × Except (FileTrouble × Path) Unit}
    (grown : Grown (path.onWay tree.working) tree after) (makes : Makes path after result) : Makes path tree result :=
  ⟨grown.trans (grown.working ▸ makes.grown), makes.wellFormed, makes.leads⟩

/-- What is made of a path and its parents, by induction on how many parents are made. -/
theorem makes_ensureAll (wellFormed : tree.WellFormed) (regular : path.Regular) (noNull : path.NoNull) (depth : Nat) :
    Makes path tree (tree.ensureAll path depth) := by
  induction depth generalizing path with
  | zero => exact makes_ensured wellFormed regular noNull
  | succ depth hypothesis =>
    have parents := hypothesis (Path.regular_parent regular) (Path.noNull_parent noNull)
    have grown := parents.grown.mono (path.onWay_parent_subset tree.working)
    rw [ensureAll]
    split
    · split
      · next made known =>
        rw [known] at grown parents
        exact .trans grown (makes_ensured parents.wellFormed regular noNull)
      · next failed =>
        refine ⟨grown, parents.wellFormed, fun done => ?_⟩
        exact (failed _ (Prod.ext rfl done)).elim
    · exact makes_ensured wellFormed regular noNull

theorem makes_makeDirectories (wellFormed : tree.WellFormed) (regular : path.Regular) (noNull : path.NoNull) :
    Makes path tree (tree.makeDirectories path) :=
  makes_ensureAll wellFormed regular noNull _

/-- Where a path leads to a directory, nothing is made. -/
theorem makeDirectories_of_stat (wellFormed : tree.WellFormed) (regular : path.Regular)
    (there : tree.stat path.text = .ok (place, .directory)) : tree.makeDirectories path = (tree, .ok ()) := by
  have known : tree.ensured path = (tree, .ok ()) := by
    rw [ensured, ensureDirectory, makeDirectory_of_stat wellFormed regular there]
    simp only
    rw [isDirectory_eq_true_iff.mpr ⟨place, there⟩]
  rw [makeDirectories]
  cases path.names.length with
  | zero => exact known
  | succ depth => rw [ensureAll, known]

/-! ### A file -/

/-- A walk that ends at a directory has started at one. -/
theorem directory_of_walk {names : List String} (walked : tree.walk place entry names = .ok (last, .directory)) :
    entry = .directory := by
  cases names with
  | nil =>
    cases walked
    rfl
  | cons name names =>
    exact Entry.isDirectory_iff.mp (exists_walk_cons walked).1

/-- A walk to a directory only needs the directories of a tree. -/
theorem WellFormed.walk_directory (wellFormed : before.WellFormed)
    (kept : ∀ place, before.entryAt? place = some .directory → after.entryAt? place = some .directory)
    {names : List String} (walked : before.walk place .directory names = .ok (last, .directory)) :
    after.walk place .directory names = .ok (last, .directory) := by
  induction names generalizing place with
  | nil =>
    cases walked
    rfl
  | cons name names hypothesis =>
    rcases walk_cons_eq_ok walked with ⟨blank, onward⟩ | ⟨rfl, onward⟩ | ⟨step, proper, next, known, onward⟩
    · have shown : (name == "" || name == ".") = true := by
        simpa [isStep, or_iff_not_imp_left] using blank
      rw [walk, if_neg (by decide), if_pos shown]
      exact hypothesis onward
    · exact hypothesis onward
    · obtain rfl := directory_of_walk onward
      rw [walk_cons_of_entryAt? rfl step proper (wellFormed.names known).1.short (kept _ known)]
      exact hypothesis onward

/-- A path to a directory still leads there in a tree that keeps the directories. -/
theorem WellFormed.stat_directory (wellFormed : before.WellFormed) (wellFormed' : after.WellFormed)
    (working : after.working = before.working)
    (kept : ∀ place, before.entryAt? place = some .directory → after.entryAt? place = some .directory)
    (regular : path.Regular) (there : before.stat path.text = .ok (place, .directory)) :
    after.stat path.text = .ok (place, .directory) := by
  rw [wellFormed.stat_text regular] at there
  rw [wellFormed'.stat_text regular, base, working]
  exact wellFormed.walk_directory kept there

section Written

variable (wellFormed : tree.WellFormed) (regular : path.Regular) (spelled : path.names = path.parent.names ++ [name])
  (isName : IsName name) (parent : tree.stat path.parent.text = .ok (place, .directory)) (data : ByteArray)

include wellFormed regular spelled isName parent

/-- A path to a name in a directory leads to the entry of this name. -/
theorem stat_of_parent :
    tree.stat path.text
      = match tree.entryAt? (place ++ [name]) with
        | some entry => .ok (place ++ [name], entry)
        | none => .error .absent := by
  rw [wellFormed.stat_concat regular spelled, parent]
  exact walk_name tree place isName

/-- No file is written where a directory is. -/
theorem write_of_directory (there : tree.entryAt? (place ++ [name]) = some .directory) :
    tree.write path.text data = .error .isDirectory := by
  have leads := stat_of_parent wellFormed regular spelled isName parent
  rw [there] at leads
  rw [write, leads]
  rfl

/-- What is written to a device or a pipe changes no entry. -/
theorem write_of_special {old : ByteArray} (there : tree.entryAt? (place ++ [name]) = some (.special old)) :
    tree.write path.text data = .ok tree := by
  have leads := stat_of_parent wellFormed regular spelled isName parent
  rw [there] at leads
  rw [write, leads]
  rfl

/-- A file is written into the directory of its parent, in place of a file or where nothing is. -/
theorem write_of_isFile (leaf : ∀ entry ∈ tree.entryAt? (place ++ [name]), entry.isFile = true) :
    tree.write path.text data = .ok (tree.put (place ++ [name]) (.file data)) := by
  have leads := stat_of_parent wellFormed regular spelled isName parent
  have led : tree.lastPlace path.text = .ok (place, name) := by
    rw [wellFormed.lastPlace_text regular spelled, parent]
    rfl
  have shown : ¬ (name == "") = true := by
    intro empty
    have step := isName.isStep
    rw [beq_iff_eq.mp empty] at step
    cases step
  cases known : tree.entryAt? (place ++ [name]) with
  | none =>
    rw [known] at leads
    simp only [write, leads, led, bind, Except.bind, shown]
    rfl
  | some entry =>
    have isFile := leaf entry known
    rw [known] at leads
    cases entry with
    | file old => simp only [write, leads, pure, Except.pure]
    | directory | special => cases isFile

end Written

end Tree

end UnsafeCensus.Files
