/-
**Well-formed trees.**

In a well-formed tree everything stands in a directory, under a name that can stand between slashes. So the text of a
path is followed name by name, what it leads to is the entry at its place, and an entry is found by the text of its
place. A path may lead nowhere although something stands at its place, when it goes up out of what is missing.

* `entryAt?_put`, `put_put`: the entries after one is put at a place;
* `WellFormed`: every entry stands in a directory, under a proper name;
* `WellFormed.stat_text`: the text of a path is followed name by name;
* `WellFormed.entryAt?_of_stat`, `WellFormed.stat_root`: what a path leads to is an entry, and each entry is found;
* `UpFromThere`: a path goes up only out of what is there;
* `WellFormed.entryAt?_of_absent`: where such a path leads nowhere, nothing stands at its place.
-/

import Mathlib
import UnsafeCensus.Proofs.Attempt
import UnsafeCensus.Proofs.Files.Spelling

namespace UnsafeCensus.Files

/-! ### Characters of value zero -/

namespace Path

/-- No name has a character of value zero. -/
def NoNull (path : Path) : Prop :=
  ∀ name ∈ path.names, '\x00' ∉ name.toList

variable {path : Path}

theorem noNull_parent (noNull : path.NoNull) : path.parent.NoNull :=
  fun name member => noNull name (List.mem_of_mem_dropLast member)

/-- No character of value zero is in the text of a path exactly when none is in its names. -/
theorem noNull_iff (regular : path.Regular) : '\x00' ∉ path.text.toList ↔ path.NoNull := by
  have anchor : '\x00' ∉ path.anchor.text.toList := by cases path.anchor <;> decide
  have text : '\x00' ∉ path.text.toList ↔ '\x00' ∉ path.letters := by
    rw [toList_text]
    split
    · next none =>
      rw [(List.append_eq_nil_iff.mp none).2]
      decide
    · simp [anchor]
  rw [text]
  constructor
  · intro absent name member
    have named : path.names ≠ [] := by
      rintro none
      rw [none] at member
      cases member
    rw [← segments_letters regular named] at member
    obtain ⟨segment, inside, rfl⟩ := List.mem_map.mp member
    rw [String.toList_ofList]
    exact fun null => absent (mem_of_mem_segments inside null)
  · intro noNull null
    rcases mem_intercalate null with slash | ⟨part, inside, null⟩
    · exact absurd slash (by decide)
    · obtain ⟨name, member, rfl⟩ := List.mem_map.mp inside
      exact noNull name member null

end Path

namespace Tree

variable {tree before after : Tree} {place last other : Place} {entry found : Entry} {name : String}

/-! ### Entries -/

/-- The entry that stands first at a place below the root. -/
theorem entryAt?_of_ne (named : place ≠ []) (tree : Tree) :
    tree.entryAt? place = (tree.entries.find? fun old => old.1 == place).map Prod.snd :=
  if_neg (by simpa using named)

theorem find?_eq_none_of_absent (named : place ≠ []) (absent : ¬ (tree.entryAt? place).isSome = true) :
    (tree.entries.find? fun old => old.1 == place) = none := by
  rwa [entryAt?_of_ne named, Option.isSome_map, Bool.not_eq_true, Option.isSome_eq_false_iff,
    Option.isNone_iff_eq_none] at absent

/-- The entries with another one at a place. -/
theorem find?_replaced (entries : List (Place × Entry)) (place : Place) (entry : Entry) (other : Place) :
    ((entries.map fun old => if old.1 == place then (place, entry) else old).find? fun old => old.1 == other)
      = (entries.find? fun old => old.1 == other).map fun old => if old.1 == place then (place, entry) else old := by
  rw [List.find?_map]
  congr 2
  funext old
  rw [Function.comp_apply]
  split
  · next same => rw [← beq_iff_eq.mp same]
  · rfl

/-- Putting an entry at a place below the root changes what is there and nothing else. -/
theorem entryAt?_put (named : place ≠ []) (tree : Tree) (entry : Entry) (other : Place) :
    (tree.put place entry).entryAt? other = if other = place then some entry else tree.entryAt? other := by
  by_cases root : other = []
  · rw [if_neg (by rintro rfl; exact named root), root]
    rfl
  rw [entryAt?_of_ne root, entryAt?_of_ne root, put]
  split
  · next there =>
    rw [find?_replaced]
    by_cases same : other = place
    · rw [if_pos same, same]
      obtain ⟨old, search⟩ := Option.isSome_iff_exists.mp
        (by rwa [entryAt?_of_ne named, Option.isSome_map] at there)
      have here : (old.1 == place) = true := by simpa using List.find?_some search
      rw [search, Option.map_some, if_pos here]
      rfl
    · rw [if_neg same]
      cases search : tree.entries.find? fun old => old.1 == other with
      | none => rfl
      | some old =>
        have here : old.1 = other := by simpa using List.find?_some search
        rw [Option.map_some, if_neg (by rw [here]; simpa using same)]
  · next absent =>
    have missing := find?_eq_none_of_absent named absent
    by_cases same : other = place
    · rw [if_pos same, same, List.find?_append, missing]
      simp
    · rw [if_neg same, List.find?_append]
      have apart : ([(place, entry)].find? fun old => old.1 == other) = none := by simpa using Ne.symm same
      rw [apart, Option.or_none]

@[simp] theorem working_put (tree : Tree) (place : Place) (entry : Entry) :
    (tree.put place entry).working = tree.working := by
  rw [put]
  split <;> rfl

/-- An entry that is put where it has been put already changes nothing. -/
theorem put_put (named : place ≠ []) (tree : Tree) (entry : Entry) :
    (tree.put place entry).put place entry = tree.put place entry := by
  have there : ((tree.put place entry).entryAt? place).isSome = true := by
    rw [entryAt?_put named, if_pos rfl]
    rfl
  rw [put, if_pos there]
  have same : ∀ old ∈ (tree.put place entry).entries, (if old.1 == place then (place, entry) else old) = old := by
    intro old member
    split
    · next here =>
      rw [put] at member
      split at member
      · obtain ⟨older, _, rfl⟩ := List.mem_map.mp member
        split at here
        · next known => rw [if_pos known]
        · next known => exact absurd here known
      · next absent =>
        rcases List.mem_append.mp member with known | known
        · exact absurd here (List.find?_eq_none.mp (find?_eq_none_of_absent named absent) old known)
        · exact (List.mem_singleton.mp known).symm
    · rfl
  show Tree.mk _ _ = _
  rw [List.map_congr_left same, List.map_id']

/-! ### Well-formed trees -/

/-- A name that can stand between slashes: no dots alone, no slash, no character of value zero, not too long. -/
structure IsName (name : String) : Prop where
  isStep : isStep name = true
  proper : name ≠ ".."
  noSlash : '/' ∉ name.toList
  noNull : '\x00' ∉ name.toList
  short : name.utf8ByteSize ≤ longestName

/-- Everything stands in a directory, under a name that can stand between slashes. -/
structure WellFormed (tree : Tree) : Prop where
  working : tree.entryAt? tree.working = some .directory
  names : ∀ {place name entry}, tree.entryAt? (place ++ [name]) = some entry →
    IsName name ∧ tree.entryAt? place = some .directory

/-- A tree with nothing but a working directory below the root. -/
theorem wellFormed_empty (isName : IsName name) : (empty [name]).WellFormed := by
  have only {place : Place} {entry : Entry} (named : place ≠ [])
      (there : (empty [name]).entryAt? place = some entry) : place = [name] ∧ entry = .directory := by
    rw [entryAt?_of_ne named] at there
    obtain ⟨old, search, rfl⟩ := Option.map_eq_some_iff.mp there
    obtain rfl := List.mem_singleton.mp (List.mem_of_find?_eq_some search)
    have here : [name] = place := by simpa using List.find?_some search
    exact ⟨here.symm, rfl⟩
  refine ⟨?_, fun {place name' entry} there => ?_⟩
  · show (empty [name]).entryAt? [name] = _
    rw [entryAt?_of_ne (List.cons_ne_nil name [])]
    simp [empty]
  · obtain ⟨same, _⟩ := only (by simp) there
    rw [← List.nil_append [name]] at same
    obtain ⟨rfl, rfl⟩ := List.append_singleton_inj.mp same
    exact ⟨isName, rfl⟩

/-- What is above an entry is a directory. -/
theorem WellFormed.above (wellFormed : tree.WellFormed) {names : List String} (some : names ≠ [])
    (there : tree.entryAt? (place ++ names) = .some entry) : tree.entryAt? place = .some .directory := by
  induction names using List.reverseRecOn generalizing entry with
  | nil => exact absurd rfl some
  | append_singleton names name hypothesis =>
    rw [← List.append_assoc] at there
    obtain ⟨_, directory⟩ := wellFormed.names there
    by_cases none : names = []
    · rwa [none, List.append_nil] at directory
    · exact hypothesis none directory

/-- The names on the way to an entry can stand between slashes. -/
theorem WellFormed.isName (wellFormed : tree.WellFormed) (there : tree.entryAt? place = some entry) :
    ∀ name ∈ place, IsName name := by
  induction place using List.reverseRecOn generalizing entry with
  | nil => exact nofun
  | append_singleton place name hypothesis =>
    obtain ⟨proper, directory⟩ := wellFormed.names there
    intro other member
    rcases List.mem_append.mp member with known | known
    · exact hypothesis directory other known
    · exact List.mem_singleton.mp known ▸ proper

/-- A well-formed tree stays one when an entry is put into a directory where no directory is. -/
theorem WellFormed.put (wellFormed : tree.WellFormed) (isName : IsName name)
    (parent : tree.entryAt? place = some .directory) (leaf : tree.entryAt? (place ++ [name]) ≠ some .directory)
    (entry : Entry) : (tree.put (place ++ [name]) entry).WellFormed := by
  have named : place ++ [name] ≠ [] := by simp
  have kept (other : Place) (directory : tree.entryAt? other = some .directory) :
      (tree.put (place ++ [name]) entry).entryAt? other = some .directory := by
    rw [entryAt?_put named, if_neg (by rintro rfl; exact leaf directory), directory]
  refine ⟨?_, fun {other name' found} there => ?_⟩
  · rw [working_put]
    exact kept _ wellFormed.working
  · rw [entryAt?_put named] at there
    split at there
    · next same =>
      obtain ⟨rfl, rfl⟩ := List.append_singleton_inj.mp same
      exact ⟨isName, kept _ parent⟩
    · obtain ⟨isName', directory⟩ := wellFormed.names there
      exact ⟨isName', kept _ directory⟩

/-! ### Walks -/

/-- A walk over some names and more is a walk over the first and then over the others. -/
theorem walk_append (tree : Tree) (place : Place) (entry : Entry) (names others : List String) :
    tree.walk place entry (names ++ others)
      = tree.walk place entry names >>= fun found => tree.walk found.1 found.2 others := by
  induction names generalizing place entry with
  | nil => rfl
  | cons name names hypothesis =>
    rw [List.cons_append, walk, walk]
    split
    · rfl
    · split
      · exact hypothesis _ _
      · split
        · exact hypothesis _ _
        · split
          · rfl
          · split
            · exact hypothesis _ _
            · rfl

/-- One name leads from a directory to the entry of this name, if there is one. -/
theorem walk_name (tree : Tree) (place : Place) (isName : IsName name) :
    tree.walk place .directory [name]
      = match tree.entryAt? (place ++ [name]) with
        | some entry => .ok (place ++ [name], entry)
        | none => .error .absent := by
  have shown : ¬ (name == "" || name == ".") = true := by simpa [Files.isStep] using isName.isStep
  rw [walk, if_neg (by decide), if_neg shown, if_neg (by simpa using isName.proper),
    if_neg (Nat.not_lt.mpr isName.short)]
  rfl

namespace WellFormed

variable {path : Path}

theorem directory_base (wellFormed : tree.WellFormed) (path : Path) :
    tree.entryAt? (tree.base path) = some .directory := by
  rw [base]
  split
  · exact wellFormed.working
  · rfl

/-- The text of a path is followed name by name from where the path starts. -/
theorem stat_text (wellFormed : tree.WellFormed) (regular : path.Regular) :
    tree.stat path.text = tree.walk (tree.base path) .directory path.names := by
  by_cases named : path.names = []
  · obtain ⟨anchor, names⟩ := path
    cases named
    cases anchor with
    | here =>
      show tree.walk tree.working ((tree.entryAt? tree.working).getD .directory) ["."] = _
      rw [wellFormed.working]
      rfl
    | root => rfl
    | doubleRoot => rfl
  · rw [stat_text_named regular named, wellFormed.directory_base]
    rfl

/-- In a well-formed tree a walk ends at an entry. -/
theorem entryAt?_of_walk (wellFormed : tree.WellFormed) {names : List String}
    (started : tree.entryAt? place = some entry) (walked : tree.walk place entry names = .ok (last, found)) :
    tree.entryAt? last = some found := by
  induction names generalizing place entry with
  | nil =>
    cases walked
    exact started
  | cons name rest hypothesis =>
    rcases walk_cons_eq_ok walked with ⟨_, onward⟩ | ⟨_, onward⟩ | ⟨_, _, next, known, onward⟩
    · exact hypothesis started onward
    · refine hypothesis ?_ onward
      cases place using List.reverseRecOn with
      | nil => rfl
      | append_singleton above name =>
        rw [List.dropLast_concat]
        exact (wellFormed.names started).2
    · exact hypothesis known onward

/-- What a path leads to is the entry at its place. -/
theorem entryAt?_of_stat (wellFormed : tree.WellFormed) (regular : path.Regular)
    (there : tree.stat path.text = .ok (last, found)) :
    last = path.absolute tree.working ∧ tree.entryAt? last = some found := by
  refine ⟨stat_eq_ok_place regular there, ?_⟩
  rw [wellFormed.stat_text regular] at there
  exact wellFormed.entryAt?_of_walk (wellFormed.directory_base path) there

/-- Names that are those of places lead down to an entry. -/
theorem walk_down (wellFormed : tree.WellFormed) {names : List String}
    (there : tree.entryAt? (place ++ names) = some entry) :
    tree.walk place ((tree.entryAt? place).getD .directory) names = .ok (place ++ names, entry) := by
  induction names generalizing place with
  | nil =>
    rw [List.append_nil] at there ⊢
    rw [there]
    rfl
  | cons name names hypothesis =>
    have directory := wellFormed.above (List.cons_ne_nil name names) there
    rw [List.append_cons] at there ⊢
    obtain ⟨next, known⟩ : ∃ next, tree.entryAt? (place ++ [name]) = some next := by
      by_cases none : names = []
      · rw [none, List.append_nil] at there
        exact ⟨_, there⟩
      · exact ⟨_, wellFormed.above none there⟩
    have isName := (wellFormed.names known).1
    have onward := hypothesis there
    rw [known] at onward
    rw [directory, walk_cons_of_entryAt? rfl isName.isStep isName.proper isName.short known]
    exact onward

/-- An entry is found by the names on the way to it from the root. -/
theorem stat_root (wellFormed : tree.WellFormed) (there : tree.entryAt? place = some entry) :
    tree.stat (Path.mk .root place).text = .ok (place, entry) := by
  have regular : (Path.mk .root place).Regular := fun name member =>
    ⟨(wellFormed.isName there name member).isStep, (wellFormed.isName there name member).noSlash⟩
  rw [wellFormed.stat_text regular]
  exact wellFormed.walk_down there

end WellFormed

/-- A name leads nowhere from a directory that has no entry of it. -/
theorem walk_name_eq_absent (walked : tree.walk place entry [name] = .error .absent) :
    entry = .directory ∧ Files.isStep name = true ∧ name ≠ ".." ∧ tree.entryAt? (place ++ [name]) = none := by
  rw [walk] at walked
  split at walked
  · cases walked
  · next directory =>
    split at walked
    · cases walked
    · next shown =>
      split at walked
      · cases walked
      · next proper =>
        split at walked
        · cases walked
        · split at walked
          · cases walked
          · next absent =>
            exact ⟨Entry.isDirectory_iff.mp (by simpa using directory),
              by simpa [Files.isStep] using shown, by simpa using proper, absent⟩

/-- A walk that ends where nothing is leads to something that has no entry of the next name. -/
theorem exists_walk_absent {names : List String} (walked : tree.walk place entry names = .error .absent) :
    ∃ front name back last found, names = front ++ name :: back
      ∧ tree.walk place entry front = .ok (last, found) ∧ tree.walk last found [name] = .error .absent := by
  induction names using List.reverseRecOn with
  | nil => cases walked
  | append_singleton names name hypothesis =>
    rw [walk_append] at walked
    cases known : tree.walk place entry names with
    | error trouble =>
      rw [known] at walked
      cases walked
      obtain ⟨front, name', back, last, found, rfl, rest⟩ := hypothesis known
      exact ⟨front, name', back ++ [name], last, found, by simp, rest⟩
    | ok result =>
      rw [known] at walked
      exact ⟨names, name, [], result.1, result.2, rfl, known, walked⟩

/-! ### Where nothing is -/

variable {path : Path}

/-- What is followed to an entry holds no character of value zero. -/
theorem WellFormed.noNull_of_walk (wellFormed : tree.WellFormed) {names : List String}
    (walked : tree.walk place entry names = .ok (last, found)) : ∀ name ∈ names, '\x00' ∉ name.toList := by
  induction names generalizing place entry with
  | nil => exact nofun
  | cons name names hypothesis =>
    rw [List.forall_mem_cons]
    rcases walk_cons_eq_ok walked with ⟨blank, onward⟩ | ⟨rfl, onward⟩ | ⟨_, _, next, known, onward⟩
    · refine ⟨?_, hypothesis onward⟩
      simp only [isStep, Bool.and_eq_false_iff, bne_eq_false_iff_eq] at blank
      rcases blank with rfl | rfl <;> decide
    · exact ⟨by decide, hypothesis onward⟩
    · exact ⟨(wellFormed.names known).1.noNull, hypothesis onward⟩

theorem WellFormed.noNull_of_stat (wellFormed : tree.WellFormed) (regular : path.Regular)
    (there : tree.stat path.text = .ok (last, found)) : path.NoNull := by
  rw [wellFormed.stat_text regular] at there
  exact wellFormed.noNull_of_walk there

/-- Steps that do not go up are names of places. -/
theorem foldl_step {names : List String} (down : ".." ∉ names) (place : Place) :
    names.foldl Path.step place = place ++ names := by
  induction names generalizing place with
  | nil => rw [List.append_nil]; rfl
  | cons name names hypothesis =>
    rw [List.mem_cons, not_or] at down
    rw [List.foldl_cons, Path.step, if_neg (Ne.symm down.1), hypothesis down.2, List.append_assoc]
    rfl

/-- The path goes up only out of what is there: nothing that stands before a double dot is missing. -/
def UpFromThere (tree : Tree) (path : Path) : Prop :=
  ∀ names, names ++ [".."] <+: path.names → tree.stat ({ path with names } : Path).text ≠ .error .absent

/-- Where a path that goes up only out of what is there leads nowhere, nothing stands at its place. -/
theorem WellFormed.entryAt?_of_absent (wellFormed : tree.WellFormed) (regular : path.Regular)
    (up : tree.UpFromThere path) (missing : tree.stat path.text = .error .absent) :
    tree.entryAt? (path.absolute tree.working) = none := by
  rw [wellFormed.stat_text regular] at missing
  obtain ⟨front, name, back, last, found, spelled, walked, missing⟩ := exists_walk_absent missing
  obtain ⟨_, _, proper, absent⟩ := walk_name_eq_absent missing
  -- Behind the name that is missing the path goes down, so its place is under the missing one.
  have down : ".." ∉ back := by
    intro member
    obtain ⟨middle, others, rfl⟩ := List.append_of_mem member
    have upward : (front ++ name :: middle) ++ [".."] <+: path.names := ⟨others, by simp [spelled]⟩
    have regular' : ({ path with names := front ++ name :: middle } : Path).Regular := fun other known =>
      regular other (upward.subset (List.mem_append_left _ known))
    refine up _ upward ?_
    rw [wellFormed.stat_text regular', List.append_cons, walk_append, walk_append]
    show (tree.walk (tree.base path) .directory front >>= _) >>= _ = _
    rw [walked]
    show tree.walk last found [name] >>= _ = _
    rw [missing]
    rfl
  have steps : front.filter isStep = front := List.filter_eq_self.mpr fun other known =>
    (regular other (by rw [spelled]; exact List.mem_append_left _ known)).1
  have here : path.absolute tree.working = last ++ [name] ++ back := by
    have led := walk_eq_ok_place walked
    rw [steps] at led
    rw [Path.absolute, ← base, spelled, List.foldl_append, ← led, List.foldl_cons, Path.step, if_neg proper,
      foldl_step down]
  by_contra there
  obtain ⟨entry, there⟩ := Option.ne_none_iff_exists'.mp there
  rw [here] at there
  by_cases none : back = []
  · rw [none, List.append_nil, absent] at there
    cases there
  · rw [wellFormed.above none there] at absent
    cases absent

end Tree

end UnsafeCensus.Files
