/-
**The files of a map divide its offsets.**

Files are added in turn to the map without a file. The offsets from zero to the next start then belong to one
file each, the end of a file to this file, also when the file has no bytes. A search among the starts finds
this file; no other offset is found, and files added later change nothing.

* `Map.Spans`, `Map.HeldAt`: an offset of the space that the files take, and one that a file holds;
* `Map.Partitioned`: the starts are kept, each file starts after the one before it, and each offset of the
  space is held by one file;
* `exists_part`: an offset of the space is that of a file, at a distance from its start;
* `lookup_cases`: what a search can give in any map;
* `Map.FindsOnce`, `Map.Refuses`: an offset that is found in one file, and one that is not found;
* `ofFiles_partition`: the division, and what is found of each offset.
-/

import Mathlib
import UnsafeCensus.Proofs.Source.Layout

namespace UnsafeCensus.Source

/-! ### Offsets and distances -/

/-- An offset of some files is that of one of them, at a distance up to its end. -/
theorem exists_part {files : Contents} {offset : Nat} (below : offset < span files) :
    ∃ before name data after distance, files = before ++ (name, data) :: after
      ∧ distance ≤ data.size ∧ offset = span before + distance := by
  induction files generalizing offset with
  | nil => exact absurd below (Nat.not_lt_zero _)
  | cons file rest hypothesis =>
    obtain ⟨name, data⟩ := file
    rw [span_cons] at below
    by_cases inside : offset ≤ data.size
    · exact ⟨[], name, data, rest, offset, rfl, inside, by simp⟩
    · have further : offset - (data.size + 1) < span rest := by
        simp only at below
        omega
      obtain ⟨before, name', data', after, distance, rfl, bounded, apart⟩ := hypothesis further
      refine ⟨(name, data) :: before, name', data', after, distance, rfl, bounded, ?_⟩
      rw [span_cons]
      simp only
      omega

theorem span_take_succ {files : Contents} {index : Nat} {file : String × ByteArray}
    (there : files[index]? = some file) :
    span (files.take (index + 1)) = span (files.take index) + file.2.size + 1 := by
  rw [List.take_add_one, there, Option.toList_some, span_append, span_cons, span_nil]
  omega

theorem contents_laidFrom (start : Int) (files : Contents) :
    (laidFrom start files).map (fun file => (file.name, file.data)) = files := by
  induction files generalizing start with
  | nil => rfl
  | cons file rest hypothesis =>
    rw [laidFrom, List.map_cons, hypothesis]
    rfl

theorem File.contains_iff {file : File} {offset : Int} :
    file.contains offset = true ↔ file.start ≤ offset ∧ offset ≤ file.stop := by
  simp [File.contains]

namespace Map

/-- An offset of the space that the files of a map take. -/
def Spans (map : Map) (offset : Int) : Prop :=
  0 ≤ offset ∧ offset < map.nextStart

/-- The file at an index holds an offset. -/
def HeldAt (map : Map) (offset : Int) (index : Nat) : Prop :=
  ∃ file, map.files[index]? = some file ∧ file.contains offset = true

/-- The files of a map stand one after the other and divide its offsets. -/
structure Partitioned (map : Map) : Prop where
  recorded : map.starts.toList = map.files.toList.map File.start
  first : ∀ file, map.files[0]? = some file → file.start = 0
  next : ∀ index file other, map.files[index]? = some file → map.files[index + 1]? = some other →
    other.start = file.stop + 1
  ordered : ∀ file ∈ map.files, file.start ≤ file.stop
  covered : ∀ offset, map.Spans offset ↔ ∃ index, map.HeldAt offset index
  apart : ∀ offset index other, map.HeldAt offset index → map.HeldAt offset other → index = other

/-! ### The division -/

theorem addAll_ofFiles (files more : Contents) :
    (ofFiles files).addAll more = ofFiles (files ++ more) := by
  rw [ofFiles, ofFiles, addAll, addAll, addAll, List.foldl_append]

theorem spans_ofFiles_iff {files : Contents} {offset : Int} :
    (ofFiles files).Spans offset ↔ 0 ≤ offset ∧ offset < span files := by
  rw [Spans, nextStart_ofFiles]

theorem heldAt_ofFiles_iff {files : Contents} {offset : Int} {index : Nat} :
    (ofFiles files).HeldAt offset index ↔ index < files.length
      ∧ span (files.take index) ≤ offset ∧ offset < span (files.take (index + 1)) := by
  rw [HeldAt, getElem?_ofFiles]
  cases there : files[index]? with
  | none =>
    rw [List.getElem?_eq_none_iff] at there
    constructor
    · rintro ⟨file, ⟨⟩, _⟩
    · rintro ⟨bound, _⟩
      omega
  | some file =>
    have bound := (List.getElem?_eq_some_iff.mp there).1
    have next := span_take_succ there
    simp only [Option.map_some, Option.some.injEq, exists_eq_left', File.contains_iff, File.stop,
      File.ofData]
    omega

theorem heldAt_unique {files : Contents} {offset : Int} {index other : Nat}
    (held : (ofFiles files).HeldAt offset index) (held' : (ofFiles files).HeldAt offset other) :
    index = other := by
  obtain ⟨_, low, high⟩ := heldAt_ofFiles_iff.mp held
  obtain ⟨_, low', high'⟩ := heldAt_ofFiles_iff.mp held'
  -- All files before an index end before the file there starts.
  rcases Nat.lt_trichotomy index other with less | same | greater
  · have ordered := span_take_mono files (show index + 1 ≤ other from less)
    omega
  · exact same
  · have ordered := span_take_mono files (show other + 1 ≤ index from greater)
    omega

theorem heldAt_part (before after : Contents) (name : String) {data : ByteArray} {distance : Nat}
    (inside : distance ≤ data.size) :
    (ofFiles (before ++ (name, data) :: after)).HeldAt (span before + distance : Nat)
      before.length := by
  rw [heldAt_ofFiles_iff, List.take_left, List.take_add_one, List.take_left]
  simp
  omega

theorem partitioned_ofFiles (files : Contents) : (ofFiles files).Partitioned where
  recorded := by rw [starts_ofFiles, Array.toList_map]
  first file there := by
    rw [getElem?_ofFiles, Option.map_eq_some_iff] at there
    obtain ⟨_, _, rfl⟩ := there
    rfl
  next index file other there further := by
    rw [getElem?_ofFiles, Option.map_eq_some_iff] at there further
    obtain ⟨content, there, rfl⟩ := there
    obtain ⟨_, _, rfl⟩ := further
    have start := span_take_succ there
    simp only [File.ofData, File.stop]
    omega
  ordered file _ := by
    rw [File.stop]
    omega
  covered offset := by
    rw [spans_ofFiles_iff]
    constructor
    · rintro ⟨nonnegative, below⟩
      obtain ⟨natural, rfl⟩ := Int.eq_ofNat_of_zero_le nonnegative
      obtain ⟨before, name, data, after, distance, rfl, inside, rfl⟩ :=
        exists_part (by exact_mod_cast below)
      exact ⟨before.length, heldAt_part before after name inside⟩
    · rintro ⟨index, held⟩
      obtain ⟨bound, low, high⟩ := heldAt_ofFiles_iff.mp held
      have last := span_take_mono files (show index + 1 ≤ files.length from bound)
      rw [List.take_length] at last
      omega
  apart offset index other := heldAt_unique

/-! ### What is found -/

/-- A search in any map finds a file of the map that holds the offset, or it is refused. -/
theorem lookup_cases (map : Map) (offset : Int) :
    (∃ file, map.lookup offset = .ok file
        ∧ ∃ index : Nat, map.files[index]? = some file ∧ file.contains offset = true)
      ∨ map.lookup offset = .error (.diagnosed (map.outside offset)) := by
  unfold lookup
  dsimp only
  split
  · rename_i file there
    obtain ⟨_, there⟩ := Option.ite_none_left_eq_some.mp there
    by_cases held : file.contains offset = true
    · exact Or.inl ⟨file, if_pos held, _, there, held⟩
    · exact Or.inr (if_neg held)
  · exact Or.inr rfl

theorem outside_carries (map : Map) (offset : Int) :
    (map.outside offset).family = .resolution
      ∧ Json.get? (map.outside offset).context.facts "offset" = some (.integer offset) :=
  ⟨rfl, rfl⟩

theorem resolve_eq_error {map : Map} {offset : Int} {failure : Failure}
    (missed : map.lookup offset = .error failure) : map.resolve offset = .error failure := by
  rw [resolve, missed]
  rfl

/-- An offset is found in the one file that holds it and located there, whatever files are added later. -/
def FindsOnce (map : Map) (offset : Int) : Prop :=
  ∃ (index : Nat) (file : File) (location : Location), map.files[index]? = some file
    ∧ file.contains offset = true
    ∧ (∀ other, map.HeldAt offset other → other = index)
    ∧ map.lookup offset = .ok file
    ∧ file.locate offset = .ok location
    ∧ map.resolve offset = .ok location
    ∧ ∀ more, (map.addAll more).resolve offset = .ok location

/-- An offset is not found, and the diagnostic carries it. -/
def Refuses (map : Map) (offset : Int) : Prop :=
  ∃ diagnostic, map.lookup offset = .error (.diagnosed diagnostic)
    ∧ map.resolve offset = .error (.diagnosed diagnostic)
    ∧ diagnostic.family = .resolution
    ∧ Json.get? diagnostic.context.facts "offset" = some (.integer offset)

theorem findsOnce_of_spans {files : Contents} {offset : Int} (spans : (ofFiles files).Spans offset) :
    (ofFiles files).FindsOnce offset := by
  obtain ⟨nonnegative, below⟩ := spans_ofFiles_iff.mp spans
  obtain ⟨natural, rfl⟩ := Int.eq_ofNat_of_zero_le nonnegative
  obtain ⟨before, name, data, after, distance, rfl, inside, rfl⟩ :=
    exists_part (by exact_mod_cast below)
  have found := lookup_ofFiles before after name inside
  rcases lookup_cases (ofFiles (before ++ (name, data) :: after)) (span before + distance : Nat) with
    ⟨file, known, index, there, held⟩ | refused
  · obtain rfl := Except.ok.inj (found.symm.trans known)
    refine ⟨index, _, located name data distance, there, held,
      fun other held' => heldAt_unique held' ⟨_, there, held⟩, found, ?_,
      resolve_ofFiles before after name inside, fun more => ?_⟩
    · exact_mod_cast locate_ofData name (span before) data distance
    · rw [addAll_ofFiles, List.append_assoc, List.cons_append]
      exact resolve_ofFiles before (after ++ more) name inside
  · rw [found] at refused
    cases refused

theorem refuses_of_not_spans {files : Contents} {offset : Int}
    (beyond : ¬ (ofFiles files).Spans offset) : (ofFiles files).Refuses offset := by
  rcases lookup_cases (ofFiles files) offset with ⟨file, _, index, there, held⟩ | refused
  · exact absurd (((partitioned_ofFiles files).covered offset).mpr ⟨index, file, there, held⟩) beyond
  · exact ⟨_, refused, resolve_eq_error refused, outside_carries _ offset⟩

/-- An offset that is resolved is that of a file, with the location of its distance there. -/
theorem exists_part_of_resolve {files : Contents} {offset : Nat} {location : Location}
    (found : (ofFiles files).resolve offset = .ok location) :
    ∃ before name data after distance, files = before ++ (name, data) :: after
      ∧ distance ≤ data.size ∧ offset = span before + distance
      ∧ location = located name data distance := by
  have spans : (ofFiles files).Spans offset := by
    by_contra beyond
    obtain ⟨_, _, refused, _⟩ := refuses_of_not_spans beyond
    rw [refused] at found
    cases found
  obtain ⟨_, below⟩ := spans_ofFiles_iff.mp spans
  obtain ⟨before, name, data, after, distance, rfl, inside, rfl⟩ :=
    exists_part (by exact_mod_cast below)
  have there := resolve_ofFiles before after name inside
  exact ⟨before, name, data, after, distance, rfl, inside, rfl,
    Except.ok.inj (found.symm.trans there)⟩

/-- **The files of a map divide its offsets.** Of the files that were added, each offset from zero to the next
start is held by one, which a search finds and in which the offset is located, also after further files; any
other offset is refused by a diagnostic that carries it. -/
theorem ofFiles_partition (files : Contents) :
    (ofFiles files).files.toList.map (fun file => (file.name, file.data)) = files
      ∧ (ofFiles files).Partitioned
      ∧ ∀ offset : Int,
          ((ofFiles files).Spans offset → (ofFiles files).FindsOnce offset)
            ∧ (¬ (ofFiles files).Spans offset → (ofFiles files).Refuses offset) := by
  refine ⟨?_, partitioned_ofFiles files, fun offset => ⟨findsOnce_of_spans, refuses_of_not_spans⟩⟩
  rw [files_ofFiles]
  exact contents_laidFrom 0 files

/-- The empty file in the middle owns the offset between its neighbours. -/
example : ((ofFiles [("a", "x\n".toUTF8), ("b", .empty), ("a", "y".toUTF8)]).resolve 3).toOption
    = some ⟨"b", 1, 0, Nat.le_refl 1⟩ := by decide +kernel

end Map

end UnsafeCensus.Source
