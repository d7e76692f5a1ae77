/-
**Where a path leads.**

A path whose names hold no slash is read back from its text name by name. So what its text leads to in a
tree of files stands at the place that its names give, and this place is one of the tree when a file is
there.

* `Path.Regular`: no name is empty, a single dot, or holds a slash;
* `filter_namesOf_text`: the names of the text of a regular path are its names;
* `absolute_eq`: the place of a regular path is known from its text;
* `walk_eq_ok_place`, `walk_eq_error`: a walk ends where its names lead, or fails where nothing is or at a
  name that is too long;
* `Entry.Reads`, `read_eq_ok_iff`: what is read from an entry that is no directory;
* `entryAt?_of_read`: what can be read at a path stands at the place of the path;
* `filePlaces`, `readPlaces`: the places of the files of a tree and of all that is read, which are finitely many.
-/

import Mathlib
import UnsafeCensus.Files.Tree

namespace UnsafeCensus.Files

/-! ### Names between slashes -/

theorem segments_eq_splitOn (letters : List Char) : segments letters = letters.splitOn '/' := by
  induction letters with
  | nil => rfl
  | cons letter rest hypothesis =>
    rw [List.splitOn_cons_eq_if_modifyHead, ← hypothesis, segments, List.foldr_cons]
    by_cases slash : (letter == '/') = true
    · rw [if_pos slash, if_pos slash]
      rfl
    · rw [if_neg slash, if_neg slash, ← segments]
      cases known : segments rest with
      | nil => exact absurd (hypothesis ▸ known) (List.splitOn_ne_nil '/' rest)
      | cons first others => rfl

/-- What stands between slashes holds none. -/
theorem slash_not_mem_of_mem_segments {letters segment : List Char}
    (member : segment ∈ segments letters) : '/' ∉ segment := by
  rw [segments_eq_splitOn] at member
  induction letters generalizing segment with
  | nil =>
    obtain rfl := List.mem_singleton.mp member
    exact List.not_mem_nil
  | cons letter rest hypothesis =>
    rw [List.splitOn_cons_eq_if_modifyHead] at member
    by_cases slash : (letter == '/') = true
    · rw [if_pos slash, List.mem_cons] at member
      rcases member with rfl | member
      · exact List.not_mem_nil
      · exact hypothesis member
    · rw [if_neg slash] at member
      cases known : rest.splitOn '/' with
      | nil => exact absurd known (List.splitOn_ne_nil '/' rest)
      | cons first others =>
        rw [known] at member hypothesis
        rw [List.modifyHead_cons, List.mem_cons] at member
        rcases member with rfl | member
        · rw [List.mem_cons, not_or]
          exact ⟨fun equal => slash (by rw [equal, beq_self_eq_true]),
            hypothesis List.mem_cons_self⟩
        · exact hypothesis (List.mem_cons_of_mem _ member)

/-! ### Regular paths -/

/-- Whether a name between slashes is a step of a path. -/
def isStep (name : String) : Bool :=
  name != "" && name != "."

/-- A name of three bytes or more is a step that does not go up. -/
theorem isStep_of_size (name : String) (size : 2 < name.utf8ByteSize) :
    isStep name = true ∧ name ≠ ".." := by
  refine ⟨?_, ?_⟩
  · rw [isStep, Bool.and_eq_true, bne_iff_ne, bne_iff_ne]
    constructor <;> rintro rfl <;> exact absurd size (by decide)
  · rintro rfl
    exact absurd size (by decide)

namespace Path

/-- No name is empty, a single dot, or holds a slash. -/
def Regular (path : Path) : Prop :=
  ∀ name ∈ path.names, isStep name = true ∧ '/' ∉ name.toList

theorem regular_ofText (text : String) : (ofText text).Regular := by
  intro name member
  obtain ⟨between, step⟩ := List.mem_filter.mp member
  obtain ⟨segment, inside, rfl⟩ := List.mem_map.mp between
  rw [String.toList_ofList]
  exact ⟨step, slash_not_mem_of_mem_segments inside⟩

variable {path second : Path}

theorem regular_join (regular : path.Regular) (regular' : second.Regular) :
    (path.join second).Regular := by
  rw [join]
  split
  · intro name member
    exact (List.mem_append.mp member).elim (regular name) (regular' name)
  · exact regular'

theorem regular_joinText (regular : path.Regular) (text : String) : (path.joinText text).Regular :=
  regular_join regular (regular_ofText text)

theorem regular_parent (regular : path.Regular) : path.parent.Regular :=
  fun name member => regular name (List.mem_of_mem_dropLast member)

/-! ### The text of a path -/

/-- The letters of the names of a path with slashes between them. -/
def letters (path : Path) : List Char :=
  ['/'].intercalate (path.names.map String.toList)

theorem toList_text (path : Path) :
    path.text.toList
      = if path.anchor.text.toList ++ path.letters = [] then ['.']
        else path.anchor.text.toList ++ path.letters := by
  have whole : (path.anchor.text ++ "/".intercalate path.names).toList
      = path.anchor.text.toList ++ path.letters := by
    rw [String.toList_append, String.toList_intercalate]
    rfl
  rw [text, ← whole]
  by_cases empty : path.anchor.text ++ "/".intercalate path.names = ""
  · rw [empty]
    rfl
  · rw [if_neg (by simpa using empty), if_neg fun nil => empty (String.toList_eq_nil_iff.mp nil)]

/-- The text of a path seen from the working directory holds no more characters than its letters and a dot. -/
theorem not_mem_toList_text {path : Path} {letter : Char} (anchored : path.anchor = .here)
    (proper : letter ≠ '.') (absent : letter ∉ path.letters) : letter ∉ path.text.toList := by
  rw [toList_text, anchored]
  show letter ∉ if path.letters = [] then ['.'] else path.letters
  split
  · exact fun member => proper (List.mem_singleton.mp member)
  · exact absent

/-- What stands between the slashes among the letters of a regular path are its names. -/
theorem segments_letters (regular : path.Regular) (named : path.names ≠ []) :
    (segments path.letters).map String.ofList = path.names := by
  have free : ∀ segment ∈ path.names.map String.toList, '/' ∉ segment := by
    intro segment member
    obtain ⟨name, inside, rfl⟩ := List.mem_map.mp member
    exact (regular name inside).2
  rw [segments_eq_splitOn, letters, List.splitOn_intercalate '/' free (by simpa using named),
    List.map_map]
  simp [Function.comp_def]

/-- The steps among the letters of a regular path are its names. -/
theorem filter_segments_letters (regular : path.Regular) :
    ((segments path.letters).map String.ofList).filter isStep = path.names := by
  by_cases named : path.names = []
  · rw [letters, named]
    rfl
  · rw [segments_letters regular named]
    exact List.filter_eq_self.mpr fun name member => (regular name member).1

/-- The steps of the text of a regular path are its names. -/
theorem filter_namesOf_text (regular : path.Regular) :
    (Tree.namesOf path.text).filter isStep = path.names := by
  have steps := filter_segments_letters regular
  rw [Tree.namesOf, toList_text]
  by_cases empty : path.anchor.text.toList ++ path.letters = []
  · rw [if_pos empty]
    rw [(List.append_eq_nil_iff.mp empty).2] at steps
    rw [← steps]
    rfl
  · rw [if_neg empty]
    cases known : path.anchor with
    | here => exact steps
    | root =>
      have split : segments (Anchor.root.text.toList ++ path.letters)
          = [] :: segments path.letters := rfl
      rw [split, List.map_cons, List.filter_cons_of_neg (by decide)]
      exact steps
    | doubleRoot =>
      have split : segments (Anchor.doubleRoot.text.toList ++ path.letters)
          = [] :: [] :: segments path.letters := rfl
      rw [split, List.map_cons, List.map_cons, List.filter_cons_of_neg (by decide),
        List.filter_cons_of_neg (by decide)]
      exact steps

/-- The letters of a regular path do not start with a slash. -/
theorem head?_letters_ne (regular : path.Regular) : path.letters.head? ≠ some '/' := by
  rw [letters]
  cases known : path.names with
  | nil => exact nofun
  | cons first others =>
    obtain ⟨step, free⟩ := regular first (by rw [known]; exact List.mem_cons_self)
    cases spelled : first.toList with
    | nil =>
      rw [String.toList_eq_nil_iff] at spelled
      rw [spelled] at step
      exact absurd step (by decide)
    | cons letter rest =>
      have front : (['/'].intercalate ((first :: others).map String.toList)).head? = some letter := by
        cases others <;> simp [List.intercalate_cons_cons, spelled]
      rw [front]
      rintro ⟨⟩
      rw [spelled] at free
      exact free List.mem_cons_self

/-- The text of a path starts where the path does. -/
theorem origin_text (regular : path.Regular) (tree : Tree) :
    tree.origin path.text = if path.anchor = .here then tree.working else [] := by
  have letters := head?_letters_ne regular
  rw [Tree.origin, toList_text]
  cases known : path.anchor with
  | here =>
    rw [if_pos rfl, if_neg]
    by_cases empty : path.letters = []
    · rw [empty]
      decide
    · simpa [Anchor.text, empty] using letters
  | root => rfl
  | doubleRoot => rfl

/-- The place of a regular path is read off its text. -/
theorem absolute_eq (regular : path.Regular) (tree : Tree) :
    path.absolute tree.working
      = ((Tree.namesOf path.text).filter isStep).foldl step (tree.origin path.text) := by
  rw [filter_namesOf_text regular, origin_text regular, absolute]

/-- A text without a slash is the path of something in the working directory. -/
theorem anchor_ofText {text : String} (free : '/' ∉ text.toList) : (ofText text).anchor = .here := by
  show Anchor.ofLetters text.toList = .here
  cases spelled : text.toList with
  | nil => rfl
  | cons letter rest =>
    rw [spelled, List.mem_cons, not_or] at free
    rw [Anchor.ofLetters.eq_def]
    split <;> simp_all

/-- A name without a slash is the path of one step. -/
theorem ofText_of_isStep {name : String} (step : isStep name = true) (free : '/' ∉ name.toList) :
    ofText name = ⟨.here, [name]⟩ := by
  have anchor : Anchor.ofLetters name.toList = .here := anchor_ofText free
  simp only [ofText, anchor, segments_eq_splitOn, List.splitOn_eq_singleton free, List.map_singleton,
    String.ofList_toList]
  exact congrArg (Path.mk .here) (List.filter_cons_of_pos step)

end Path

/-! ### Walks -/

theorem Entry.isDirectory_iff {entry : Entry} : entry.isDirectory = true ↔ entry = .directory := by
  cases entry <;> simp [isDirectory]

namespace Tree

variable {tree : Tree} {place last : Place} {entry found : Entry}

/-- What a walk that succeeds does with its first name. -/
theorem walk_cons_eq_ok {name : String} {rest : List String}
    (walked : tree.walk place entry (name :: rest) = .ok (last, found)) :
    (isStep name = false ∧ tree.walk place entry rest = .ok (last, found))
      ∨ (name = ".." ∧ tree.walk place.dropLast .directory rest = .ok (last, found))
      ∨ (isStep name = true ∧ name ≠ ".." ∧ ∃ next, tree.entryAt? (place ++ [name]) = some next
          ∧ tree.walk (place ++ [name]) next rest = .ok (last, found)) := by
  rw [walk] at walked
  by_cases directory : (!entry.isDirectory) = true
  · rw [if_pos directory] at walked
    cases walked
  · rw [if_neg directory] at walked
    by_cases blank : (name == "" || name == ".") = true
    · rw [if_pos blank] at walked
      exact Or.inl ⟨by rcases Bool.or_eq_true_iff.mp blank with equal | equal <;>
        rw [beq_iff_eq.mp equal] <;> rfl, walked⟩
    · have step : isStep name = true := by simpa [isStep] using blank
      rw [if_neg blank] at walked
      by_cases up : (name == "..") = true
      · rw [if_pos up] at walked
        exact Or.inr (Or.inl ⟨beq_iff_eq.mp up, walked⟩)
      · rw [if_neg up] at walked
        by_cases long : longestName < name.utf8ByteSize
        · rw [if_pos long] at walked
          cases walked
        · rw [if_neg long] at walked
          cases known : tree.entryAt? (place ++ [name]) with
          | none =>
            rw [known] at walked
            cases walked
          | some next =>
            rw [known] at walked
            exact Or.inr (Or.inr ⟨step, fun equal => up (beq_iff_eq.mpr equal), next, rfl, walked⟩)

/-- A walk goes on at the entry that its first name leads to. -/
theorem walk_cons_of_entryAt? {name : String} {rest : List String} {next : Entry}
    (directory : entry.isDirectory = true) (step : isStep name = true) (proper : name ≠ "..")
    (short : name.utf8ByteSize ≤ longestName) (there : tree.entryAt? (place ++ [name]) = some next) :
    tree.walk place entry (name :: rest) = tree.walk (place ++ [name]) next rest := by
  have shown : ¬ (name == "" || name == ".") = true := by simpa [isStep] using step
  rw [walk, directory, Bool.not_true, if_neg Bool.false_ne_true, if_neg shown,
    if_neg (by simpa using proper), if_neg (Nat.not_lt.mpr short), there]

theorem walk_cons_of_long {name : String} {rest : List String} (directory : entry.isDirectory = true)
    (step : isStep name = true) (proper : name ≠ "..") (long : longestName < name.utf8ByteSize) :
    tree.walk place entry (name :: rest) = .error .nameTooLong := by
  have shown : ¬ (name == "" || name == ".") = true := by simpa [isStep] using step
  rw [walk, directory, Bool.not_true, if_neg Bool.false_ne_true, if_neg shown,
    if_neg (by simpa using proper), if_pos long]

/-- A walk fails where nothing is or at a name that is too long. -/
theorem walk_eq_error {names : List String} {trouble : FileTrouble}
    (walked : tree.walk place entry names = .error trouble) :
    isAbsence trouble = true
      ∨ (trouble = .nameTooLong ∧ ∃ long ∈ names, longestName < long.utf8ByteSize) := by
  induction names generalizing place entry with
  | nil => cases walked
  | cons name rest hypothesis =>
    have later (place : Place) (entry : Entry) (onward : tree.walk place entry rest = .error trouble) :
        isAbsence trouble = true
          ∨ (trouble = .nameTooLong ∧ ∃ long ∈ name :: rest, longestName < long.utf8ByteSize) :=
      (hypothesis onward).imp_right fun ⟨kind, long, member, size⟩ =>
        ⟨kind, long, List.mem_cons_of_mem name member, size⟩
    rw [walk] at walked
    split at walked
    · cases walked
      exact Or.inl rfl
    · split at walked
      · exact later _ _ walked
      · split at walked
        · exact later _ _ walked
        · split at walked
          · rename_i long
            cases walked
            exact Or.inr ⟨rfl, name, List.mem_cons_self, long⟩
          · split at walked
            · exact later _ _ walked
            · cases walked
              exact Or.inl rfl

/-- A walk ends at the place that its steps lead to. -/
theorem walk_eq_ok_place {names : List String}
    (walked : tree.walk place entry names = .ok (last, found)) :
    last = (names.filter isStep).foldl Path.step place := by
  induction names generalizing place entry with
  | nil =>
    cases walked
    rfl
  | cons name rest hypothesis =>
    rcases walk_cons_eq_ok walked with ⟨blank, onward⟩ | ⟨up, onward⟩ | ⟨step, proper, _, _, onward⟩
    · rw [List.filter_cons_of_neg (by rw [blank]; exact Bool.false_ne_true)]
      exact hypothesis onward
    · rw [up, List.filter_cons_of_pos (by decide), List.foldl_cons, Path.step, if_pos rfl]
      exact hypothesis onward
    · rw [List.filter_cons_of_pos step, List.foldl_cons, Path.step, if_neg proper]
      exact hypothesis onward

/-- What a place holds, if it is no directory, is one of the entries. -/
theorem mem_entries_of_entryAt? (known : tree.entryAt? place = some entry)
    (plain : entry.isDirectory = false) : (place, entry) ∈ tree.entries := by
  rw [entryAt?] at known
  by_cases root : place.isEmpty = true
  · rw [if_pos root] at known
    cases known
    cases plain
  · rw [if_neg root, Option.map_eq_some_iff] at known
    obtain ⟨⟨place', entry'⟩, search, rfl⟩ := known
    have here : place' = place := by simpa using List.find?_some search
    rw [← here]
    exact List.mem_of_find?_eq_some search

/-- What a walk finds, if it is no directory, stands where the walk ends, if what it started at did. -/
theorem entryAt?_of_walk {names : List String} (plain : found.isDirectory = false)
    (started : entry.isDirectory = false → tree.entryAt? place = some entry)
    (walked : tree.walk place entry names = .ok (last, found)) : tree.entryAt? last = some found := by
  induction names generalizing place entry with
  | nil =>
    cases walked
    exact started plain
  | cons name rest hypothesis =>
    rcases walk_cons_eq_ok walked with ⟨_, onward⟩ | ⟨_, onward⟩ | ⟨_, _, next, known, onward⟩
    · exact hypothesis started onward
    · exact hypothesis (fun plain => Bool.noConfusion plain) onward
    · exact hypothesis (fun _ => known) onward

/-- What the text of a regular path leads to stands at the place of the path. -/
theorem stat_eq_ok_place {path : Path} (regular : path.Regular)
    (there : tree.stat path.text = .ok (last, found)) : last = path.absolute tree.working := by
  rw [stat] at there
  by_cases empty : path.text.isEmpty = true
  · rw [if_pos empty] at there
    cases there
  · rw [if_neg empty] at there
    rw [Path.absolute_eq regular]
    exact walk_eq_ok_place there

/-- The text of a regular path with names, seen from the working directory, is followed name by name. -/
theorem stat_text {path : Path} (regular : path.Regular) (anchored : path.anchor = .here)
    (named : path.names ≠ []) :
    tree.stat path.text
      = tree.walk tree.working ((tree.entryAt? tree.working).getD .directory) path.names := by
  have letters : path.letters ≠ [] := by
    intro none
    have names := Path.segments_letters regular named
    rw [none] at names
    obtain ⟨step, _⟩ := regular "" (by rw [← names]; exact List.mem_singleton_self _)
    exact absurd step (by decide)
  have spelled : path.text.toList = path.letters := by
    rw [Path.toList_text, anchored]
    exact if_neg letters
  have nonempty : ¬ path.text.isEmpty = true := by
    rw [String.isEmpty_iff, ← String.toList_eq_nil_iff, spelled]
    exact letters
  rw [stat, if_neg nonempty, Path.origin_text regular, if_pos anchored, namesOf, spelled,
    Path.segments_letters regular named]

/-- A text leads nowhere where nothing is or at a name that is too long. -/
theorem stat_eq_error {text : String} {trouble : FileTrouble}
    (there : tree.stat text = .error trouble) :
    isAbsence trouble = true
      ∨ (trouble = .nameTooLong ∧ ∃ long ∈ namesOf text, longestName < long.utf8ByteSize) := by
  rw [stat] at there
  by_cases empty : text.isEmpty = true
  · rw [if_pos empty] at there
    cases there
    exact Or.inl rfl
  · rw [if_neg empty] at there
    exact walk_eq_error there

/-- What a text leads to, if it is no directory, stands where the text leads. -/
theorem entryAt?_of_stat {text : String} (there : tree.stat text = .ok (last, found))
    (plain : found.isDirectory = false) : tree.entryAt? last = some found := by
  rw [stat] at there
  by_cases empty : text.isEmpty = true
  · rw [if_pos empty] at there
    cases there
  · rw [if_neg empty] at there
    refine entryAt?_of_walk plain (fun origin => ?_) there
    cases known : tree.entryAt? (tree.origin text) with
    | none =>
      rw [known] at origin
      cases origin
    | some entry => rfl

end Tree

/-! ### Reading -/

/-- What is read from an entry that is no directory. -/
inductive Entry.Reads (data : ByteArray) : Entry → Prop where
  | file : Reads data (.file data)
  | special : Reads data (.special data)

theorem Entry.Reads.isDirectory_eq {entry : Entry} {data : ByteArray} (reads : entry.Reads data) :
    entry.isDirectory = false := by
  cases reads <;> rfl

/-- An entry tells no more bytes than are read from it. -/
theorem Entry.Reads.size_le {entry : Entry} {data : ByteArray} (reads : entry.Reads data) :
    entry.size ≤ data.size := by
  cases reads
  · exact Nat.le_refl _
  · exact Nat.zero_le _

namespace Tree

variable {tree : Tree} {place : Place} {entry : Entry}

theorem read_eq_ok_iff {text : String} {data : ByteArray} :
    tree.read text = .ok data ↔ ∃ place entry, tree.stat text = .ok (place, entry) ∧ entry.Reads data := by
  rw [read]
  cases tree.stat text with
  | error trouble => exact ⟨nofun, nofun⟩
  | ok result =>
    obtain ⟨place, entry⟩ := result
    constructor
    · intro done
      refine ⟨place, entry, rfl, ?_⟩
      cases entry <;> cases done
      · exact .file
      · exact .special
    · rintro ⟨_, _, ⟨⟩, reads⟩
      cases reads <;> rfl

/-- What is told of the size of a text that can be read is no more than what is read. -/
theorem size_of_read {text : String} {data : ByteArray} (read : tree.read text = .ok data) :
    ∃ size, tree.size text = .ok size ∧ size ≤ data.size := by
  obtain ⟨place, entry, there, reads⟩ := read_eq_ok_iff.mp read
  exact ⟨entry.size, by rw [Tree.size, there]; rfl, reads.size_le⟩

/-- **What can be read** at a regular path stands at the place of the path. -/
theorem entryAt?_of_read {path : Path} (regular : path.Regular) {data : ByteArray}
    (read : tree.read path.text = .ok data) :
    ∃ entry, tree.entryAt? (path.absolute tree.working) = some entry ∧ entry.Reads data := by
  obtain ⟨last, entry, there, reads⟩ := read_eq_ok_iff.mp read
  refine ⟨entry, ?_, reads⟩
  rw [← stat_eq_ok_place regular there]
  exact entryAt?_of_stat there reads.isDirectory_eq

/-! ### The places of files -/

/-- The places of the entries of one kind. -/
def placesOf (tree : Tree) (kind : Entry → Bool) : Finset Place :=
  (tree.entries.map Prod.fst).toFinset.filter fun place => (tree.entryAt? place).any kind = true

/-- The places of the files of a tree. -/
def filePlaces (tree : Tree) : Finset Place :=
  tree.placesOf Entry.isFile

/-- The places of all that is read in a tree. -/
def readPlaces (tree : Tree) : Finset Place :=
  tree.placesOf fun entry => !entry.isDirectory

theorem mem_placesOf {kind : Entry → Bool} (there : tree.entryAt? place = some entry)
    (plain : entry.isDirectory = false) (holds : kind entry = true) : place ∈ tree.placesOf kind := by
  rw [placesOf, Finset.mem_filter, List.mem_toFinset, List.mem_map, there]
  exact ⟨⟨_, mem_entries_of_entryAt? there plain, rfl⟩, holds⟩

theorem mem_filePlaces_iff :
    place ∈ tree.filePlaces ↔ ∃ data, tree.entryAt? place = some (.file data) := by
  constructor
  · intro member
    obtain ⟨entry, known, file⟩ := (Option.any_eq_true _ _).mp (Finset.mem_filter.mp member).2
    cases entry with
    | file data => exact ⟨data, known⟩
    | directory | special => cases file
  · rintro ⟨data, known⟩
    exact mem_placesOf known rfl rfl

theorem mem_readPlaces_of_read {path : Path} (regular : path.Regular) {data : ByteArray}
    (read : tree.read path.text = .ok data) : path.absolute tree.working ∈ tree.readPlaces := by
  obtain ⟨entry, there, reads⟩ := entryAt?_of_read regular read
  exact mem_placesOf there reads.isDirectory_eq (by rw [reads.isDirectory_eq]; rfl)

theorem mem_entries_of_read {path : Path} (regular : path.Regular) {data : ByteArray}
    (read : tree.read path.text = .ok data) :
    path.absolute tree.working ∈ tree.entries.map Prod.fst :=
  List.mem_toFinset.mp (Finset.mem_filter.mp (mem_readPlaces_of_read regular read)).1

/-- There is no more to be read than there are entries. -/
theorem card_readPlaces_le (tree : Tree) : tree.readPlaces.card ≤ tree.entries.length := by
  calc tree.readPlaces.card ≤ (tree.entries.map Prod.fst).toFinset.card := Finset.card_filter_le _ _
    _ ≤ (tree.entries.map Prod.fst).length := List.toFinset_card_le _
    _ = tree.entries.length := List.length_map _

end Tree

end UnsafeCensus.Files
