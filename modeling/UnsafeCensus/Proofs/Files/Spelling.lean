/-
**A text and its path.**

The path of a text leaves out what is empty between slashes and single dots. Where a text leads to something
that is no directory, the text of its path leads to the same, and it holds no character that the text does not,
but slashes and a dot.

* `walk_filter`: a walk that succeeds only needs the steps among its names;
* `stat_text_named`: the text of a path with names is followed name by name;
* `stat_ofText`, `read_ofText`: what a text leads to, its path leads to;
* `Path.not_mem_ofText`: the characters of a path.
-/

import Mathlib
import UnsafeCensus.Proofs.Files.Walk

namespace UnsafeCensus.Files

namespace Tree

variable {tree : Tree} {place last : Place} {entry found : Entry}

/-- The first name of a walk leads somewhere whatever names follow, and only a step leads elsewhere. -/
theorem exists_walk_cons {name : String} {rest : List String}
    (walked : tree.walk place entry (name :: rest) = .ok (last, found)) :
    entry.isDirectory = true ∧ ∃ next nextEntry,
      (∀ others, tree.walk place entry (name :: others) = tree.walk next nextEntry others)
        ∧ (isStep name = false → next = place ∧ nextEntry = entry) := by
  have directory : entry.isDirectory = true := by
    by_contra file
    rw [walk, Bool.eq_false_iff.mpr file] at walked
    cases walked
  refine ⟨directory, ?_⟩
  rcases walk_cons_eq_ok walked with ⟨blank, _⟩ | ⟨rfl, _⟩ | ⟨step, proper, next, known, _⟩
  · have shown : (name == "" || name == ".") = true := by
      simpa [isStep, or_iff_not_imp_left] using blank
    refine ⟨place, entry, fun others => ?_, fun _ => ⟨rfl, rfl⟩⟩
    rw [walk, directory, Bool.not_true, if_neg Bool.false_ne_true, if_pos shown]
  · refine ⟨place.dropLast, .directory, fun others => ?_, fun blank => absurd blank (by decide)⟩
    rw [walk, directory]
    rfl
  · have short : name.utf8ByteSize ≤ longestName := by
      by_contra long
      rw [walk_cons_of_long directory step proper (not_le.mp long)] at walked
      cases walked
    refine ⟨place ++ [name], next, fun others => ?_, fun blank => ?_⟩
    · exact walk_cons_of_entryAt? directory step proper short known
    · rw [step] at blank
      cases blank

/-- A walk that succeeds only needs the steps among its names. -/
theorem walk_filter {names : List String}
    (walked : tree.walk place entry names = .ok (last, found)) :
    tree.walk place entry (names.filter isStep) = .ok (last, found) := by
  induction names generalizing place entry with
  | nil => exact walked
  | cons name rest hypothesis =>
    obtain ⟨_, next, nextEntry, onward, blank⟩ := exists_walk_cons walked
    rw [onward] at walked
    by_cases step : isStep name = true
    · rw [List.filter_cons_of_pos step, onward]
      exact hypothesis walked
    · obtain ⟨rfl, rfl⟩ := blank (Bool.eq_false_iff.mpr step)
      rw [List.filter_cons_of_neg step]
      exact hypothesis walked

/-- Without a step a walk stays in the directory where it starts. -/
theorem isDirectory_of_walk {names : List String} (blank : names.filter isStep = [])
    (some : names ≠ []) (walked : tree.walk place entry names = .ok (last, found)) :
    found.isDirectory = true := by
  cases names with
  | nil => exact absurd rfl some
  | cons name rest =>
    obtain ⟨directory, _⟩ := exists_walk_cons walked
    have stays := walk_filter walked
    rw [blank] at stays
    cases stays
    exact directory

/-- Where the names of a path start. -/
def base (tree : Tree) (path : Path) : Place :=
  if path.anchor = .here then tree.working else []

/-- The text of a path from a root is followed from there. -/
theorem stat_text_of_root {path : Path} {rest : List Char} (regular : path.Regular)
    (slash : path.text.toList = '/' :: rest) (rooted : path.anchor ≠ .here) :
    tree.stat path.text
      = tree.walk (tree.base path) ((tree.entryAt? (tree.base path)).getD .directory)
        (namesOf path.text) := by
  have nonempty : ¬ path.text.isEmpty = true := by
    rw [String.isEmpty_iff, ← String.toList_eq_nil_iff, slash]
    exact List.cons_ne_nil _ _
  rw [stat, if_neg nonempty, Path.origin_text regular, base, if_neg rooted]

/-- The text of a regular path with names is followed name by name. -/
theorem stat_text_named {path : Path} (regular : path.Regular) (named : path.names ≠ []) :
    tree.stat path.text
      = tree.walk (tree.base path) ((tree.entryAt? (tree.base path)).getD .directory) path.names := by
  have names := Path.segments_letters regular named
  cases anchor : path.anchor with
  | here =>
    rw [base, if_pos anchor]
    exact stat_text regular anchor named
  | root =>
    have spelled : path.text.toList = '/' :: path.letters := by
      rw [Path.toList_text, anchor]
      rfl
    have between : namesOf path.text = "" :: path.names := by
      rw [namesOf, spelled, ← names]
      rfl
    rw [stat_text_of_root regular spelled (by simp [anchor]), between, base, anchor]
    rfl
  | doubleRoot =>
    have spelled : path.text.toList = '/' :: '/' :: path.letters := by
      rw [Path.toList_text, anchor]
      rfl
    have between : namesOf path.text = "" :: "" :: path.names := by
      rw [namesOf, spelled, ← names]
      rfl
    rw [stat_text_of_root regular spelled (by simp [anchor]), between, base, anchor]
    rfl

theorem origin_eq_base (tree : Tree) (text : String) : tree.origin text = tree.base (.ofText text) := by
  show (if (text.toList.head? == some '/') = true then _ else _)
    = if Anchor.ofLetters text.toList = .here then _ else _
  cases text.toList with
  | nil => rfl
  | cons letter rest =>
    by_cases slash : letter = '/'
    · subst slash
      have rooted : Anchor.ofLetters ('/' :: rest) ≠ .here := by
        rw [Anchor.ofLetters.eq_def]
        split <;> simp_all
      rw [if_neg rooted]
      rfl
    · have relative : Anchor.ofLetters (letter :: rest) = .here := by
        rw [Anchor.ofLetters.eq_def]
        split <;> simp_all
      rw [if_pos relative, if_neg (by simpa using slash)]

/-- Where a text leads to what is no directory, the text of its path leads to the same. -/
theorem stat_ofText {text : String} (there : tree.stat text = .ok (last, found))
    (plain : found.isDirectory = false) : tree.stat (Path.ofText text).text = .ok (last, found) := by
  rw [stat] at there
  by_cases empty : text.isEmpty = true
  · rw [if_pos empty] at there
    cases there
  · rw [if_neg empty, origin_eq_base] at there
    have steps : (namesOf text).filter isStep = (Path.ofText text).names := rfl
    have named : (Path.ofText text).names ≠ [] := by
      intro none
      have some : namesOf text ≠ [] := by
        rw [namesOf, segments_eq_splitOn]
        simp
      have directory := isDirectory_of_walk (steps.trans none) some there
      rw [plain] at directory
      cases directory
    rw [stat_text_named (Path.regular_ofText text) named, ← steps]
    exact walk_filter there

/-- What is read at a text is read at its path as well. -/
theorem read_ofText {text : String} {data : ByteArray} (read : tree.read text = .ok data) :
    tree.read (Path.ofText text).text = .ok data := by
  rw [read_eq_ok_iff] at read ⊢
  obtain ⟨place, entry, there, reads⟩ := read
  exact ⟨place, entry, stat_ofText there reads.isDirectory_eq, reads⟩

end Tree

/-! ### The characters of a path -/

theorem mem_of_mem_segments {letters segment : List Char} {letter : Char}
    (inside : segment ∈ segments letters) (member : letter ∈ segment) : letter ∈ letters := by
  induction letters generalizing segment with
  | nil =>
    rw [List.mem_singleton.mp inside] at member
    cases member
  | cons first rest hypothesis =>
    by_cases slash : (first == '/') = true
    · rw [segments, List.foldr_cons, if_pos slash] at inside
      rcases List.mem_cons.mp inside with rfl | inside
      · cases member
      · exact List.mem_cons_of_mem _ (hypothesis inside member)
    · rw [segments, List.foldr_cons, if_neg slash, ← segments] at inside
      cases known : segments rest with
      | nil =>
        rw [known] at inside
        rw [List.mem_singleton.mp inside] at member
        exact List.mem_singleton.mp member ▸ List.mem_cons_self
      | cons next others =>
        rw [known] at inside hypothesis
        rcases List.mem_cons.mp inside with rfl | inside
        · rcases List.mem_cons.mp member with rfl | member
          · exact List.mem_cons_self
          · exact List.mem_cons_of_mem _ (hypothesis List.mem_cons_self member)
        · exact List.mem_cons_of_mem _ (hypothesis (List.mem_cons_of_mem _ inside) member)

theorem mem_intercalate {separator letter : Char} {parts : List (List Char)}
    (member : letter ∈ [separator].intercalate parts) :
    letter = separator ∨ ∃ part ∈ parts, letter ∈ part := by
  induction parts with
  | nil => cases member
  | cons first rest hypothesis =>
    cases rest with
    | nil => exact .inr ⟨first, List.mem_singleton_self _, by simpa using member⟩
    | cons second others =>
      rw [List.intercalate_cons_cons, List.append_assoc, List.mem_append, List.mem_append,
        List.mem_singleton] at member
      rcases member with member | same | member
      · exact .inr ⟨first, List.mem_cons_self, member⟩
      · exact .inl same
      · exact (hypothesis member).imp_right fun ⟨part, inside, held⟩ =>
          ⟨part, List.mem_cons_of_mem _ inside, held⟩

/-- A path holds no characters that its text does not, but slashes and a dot. -/
theorem Path.not_mem_ofText {text : String} {letter : Char} (slash : letter ≠ '/') (dot : letter ≠ '.')
    (absent : letter ∉ text.toList) : letter ∉ (ofText text).text.toList := by
  have names : letter ∉ (ofText text).letters := by
    intro member
    rcases mem_intercalate member with same | ⟨part, inside, member⟩
    · exact slash same
    · obtain ⟨name, named, rfl⟩ := List.mem_map.mp inside
      obtain ⟨segment, between, rfl⟩ := List.mem_map.mp (List.mem_of_mem_filter named)
      rw [String.toList_ofList] at member
      exact absent (mem_of_mem_segments between member)
  have anchor : letter ∉ (ofText text).anchor.text.toList := by
    cases (ofText text).anchor <;> simp [Anchor.text, slash]
  rw [toList_text]
  split
  · exact fun member => dot (List.mem_singleton.mp member)
  · exact fun member => (List.mem_append.mp member).elim anchor names

end UnsafeCensus.Files
