/-
**Files laid one after the other.**

A map holds files that were added in turn to the map without a file, so it is a function of the list of their
names and bytes. Each file takes one offset more than it has bytes.

* `Map.ofFiles`: the map of some files;
* `span`: how many offsets some files take;
* `nextStart_ofFiles`: the next file starts where the others end;
* `lookup_ofFiles`, `resolve_ofFiles`: an offset of a file, its end included, is found in this file, with the
  location that its distance has there;
* `lineCount_ofFiles`: the lines of all files are the sum of the lines of each.
-/

import Mathlib
import UnsafeCensus.Proofs.Source.Locations
import UnsafeCensus.Source.Map

namespace UnsafeCensus.Source

/-- The names and the bytes of files, in order. -/
abbrev Contents := List (String × ByteArray)

/-- How many offsets some files take: one for each byte and one for each end. -/
def span (files : Contents) : Nat :=
  (files.map fun file => file.2.size + 1).sum

@[simp] theorem span_nil : span [] = 0 := rfl

@[simp] theorem span_cons (file : String × ByteArray) (files : Contents) :
    span (file :: files) = file.2.size + 1 + span files := rfl

@[simp] theorem span_append (first second : Contents) :
    span (first ++ second) = span first + span second := by
  simp [span]

/-- The first files take no more offsets than all of them. -/
theorem span_take_mono (files : Contents) {first second : Nat} (ordered : first ≤ second) :
    span (files.take first) ≤ span (files.take second) := by
  have split := List.take_append_drop first (files.take second)
  rw [List.take_take, Nat.min_eq_left ordered] at split
  rw [← split, span_append]
  exact Nat.le_add_right _ _

/-- The files of some contents, the first one at an offset. -/
def laidFrom (start : Int) : Contents → List File
  | [] => []
  | (name, data) :: rest => File.ofData name start data :: laidFrom (start + data.size + 1) rest

theorem laidFrom_append (start : Int) (first second : Contents) :
    laidFrom start (first ++ second)
      = laidFrom start first ++ laidFrom (start + span first) second := by
  induction first generalizing start with
  | nil => simp [laidFrom]
  | cons file rest hypothesis =>
    obtain ⟨name, data⟩ := file
    have next : start + data.size + 1 + span rest = start + span ((name, data) :: rest) := by
      rw [span_cons]
      push_cast
      ring
    rw [List.cons_append, laidFrom, laidFrom, hypothesis, next, List.cons_append]

theorem length_laidFrom (start : Int) (files : Contents) :
    (laidFrom start files).length = files.length := by
  induction files generalizing start with
  | nil => rfl
  | cons file rest hypothesis => simp [laidFrom, hypothesis]

/-- A file of some contents stands after those before it. -/
theorem getElem?_laidFrom (start : Int) (files : Contents) (index : Nat) :
    (laidFrom start files)[index]?
      = files[index]?.map fun file => File.ofData file.1 (start + span (files.take index)) file.2 := by
  induction files generalizing start index with
  | nil => rfl
  | cons file rest hypothesis =>
    cases index with
    | zero => simp [laidFrom]
    | succ index =>
      simp only [laidFrom, List.getElem?_cons_succ, hypothesis, List.take_succ_cons, span_cons]
      push_cast
      simp only [add_assoc]

namespace Map

/-- The map with some files more. -/
def addAll (map : Map) (files : Contents) : Map :=
  files.foldl (fun map file => map.add file.1 file.2) map

/-- The map of some files. -/
def ofFiles (files : Contents) : Map :=
  empty.addAll files

theorem ofFiles_concat (files : Contents) (name : String) (data : ByteArray) :
    ofFiles (files ++ [(name, data)]) = (ofFiles files).add name data := by
  simp [ofFiles, addAll]

/-- A file more moves the next start by its bytes and its end. -/
theorem nextStart_add (map : Map) (name : String) (data : ByteArray) :
    (map.add name data).nextStart = map.nextStart + data.size + 1 := by
  simp [nextStart, add, nextFile, File.stop, File.ofData]

/-- The next file starts where the others end. -/
theorem nextStart_ofFiles (files : Contents) : (ofFiles files).nextStart = span files := by
  induction files using List.reverseRecOn with
  | nil => rfl
  | append_singleton before file hypothesis =>
    obtain ⟨name, data⟩ := file
    rw [ofFiles_concat, nextStart_add, hypothesis, span_append, span_cons, span_nil]
    push_cast
    ring

theorem files_ofFiles (files : Contents) : (ofFiles files).files.toList = laidFrom 0 files := by
  induction files using List.reverseRecOn with
  | nil => rfl
  | append_singleton before file hypothesis =>
    obtain ⟨name, data⟩ := file
    rw [ofFiles_concat, add, Array.toList_push, hypothesis, laidFrom_append, nextFile,
      nextStart_ofFiles]
    simp [laidFrom]

theorem size_ofFiles (files : Contents) : (ofFiles files).files.size = files.length := by
  rw [← Array.length_toList, files_ofFiles, length_laidFrom]

theorem getElem?_ofFiles (files : Contents) (index : Nat) :
    (ofFiles files).files[index]?
      = files[index]?.map fun file => File.ofData file.1 (span (files.take index)) file.2 := by
  rw [← Array.getElem?_toList, files_ofFiles, getElem?_laidFrom]
  simp only [zero_add]

/-- The starts that a map keeps are those of its files. -/
theorem starts_ofFiles (files : Contents) :
    (ofFiles files).starts = (ofFiles files).files.map File.start := by
  induction files using List.reverseRecOn with
  | nil => exact Array.map_empty.symm
  | append_singleton before file hypothesis =>
    obtain ⟨name, data⟩ := file
    rw [ofFiles_concat, add, hypothesis, Array.map_push]

theorem size_starts_ofFiles (files : Contents) : (ofFiles files).starts.size = files.length := by
  rw [starts_ofFiles, Array.size_map, size_ofFiles]

/-- The names of the files are those they were added under. -/
theorem names_ofFiles (files : Contents) : (ofFiles files).names = files.map Prod.fst := by
  rw [names, files_ofFiles]
  generalize (0 : Int) = start
  induction files generalizing start with
  | nil => rfl
  | cons file rest hypothesis =>
    rw [laidFrom, List.map_cons, hypothesis, List.map_cons]
    rfl

/-- A file starts after all files before it. -/
theorem startOf_ofFiles {files : Contents} {index : Nat} (bound : index < files.length) :
    (ofFiles files).startOf index = span (files.take index) := by
  rw [startOf, starts_ofFiles, Array.getElem?_map, getElem?_ofFiles,
    List.getElem?_eq_getElem bound]
  rfl

theorem startOf_ascending (files : Contents) :
    Ascending (ofFiles files).startOf (ofFiles files).starts.size := by
  intro first second ordered bound
  rw [size_starts_ofFiles] at bound
  rw [startOf_ofFiles bound, startOf_ofFiles (ordered.trans_lt bound)]
  exact_mod_cast span_take_mono files ordered

/-! ### Offsets of a file -/

variable (before after : Contents) (name : String) {data : ByteArray} {distance : Nat}

/-- The search among the starts ends right after the file of an offset. -/
theorem upperBound_ofFiles (inside : distance ≤ data.size) :
    upperBound (ofFiles (before ++ (name, data) :: after)).startOf
        (ofFiles (before ++ (name, data) :: after)).starts.size (span before + distance : Nat)
      = before.length + 1 := by
  have count : (ofFiles (before ++ (name, data) :: after)).starts.size
      = before.length + 1 + after.length := by
    rw [size_starts_ofFiles, List.length_append, List.length_cons]
    omega
  refine upperBound_eq (startOf_ascending _) (by omega) ?_ fun next => ?_
  · rw [startOf_ofFiles (by simp), List.take_left]
    omega
  · rw [size_starts_ofFiles] at next
    rw [startOf_ofFiles next, List.take_add_one, List.take_left]
    simp
    omega

/-- An offset of a file is found in this file. -/
theorem lookup_ofFiles (inside : distance ≤ data.size) :
    (ofFiles (before ++ (name, data) :: after)).lookup (span before + distance : Nat)
      = .ok (File.ofData name (span before) data) := by
  have found : (ofFiles (before ++ (name, data) :: after)).files[before.length]?
      = some (File.ofData name (span before) data) := by
    simp [getElem?_ofFiles]
  have held : (File.ofData name (span before) data).contains (span before + distance : Nat) := by
    simp [File.contains, File.stop, File.ofData, inside]
  simp only [lookup, upperBound_ofFiles before after name inside, Nat.add_one_ne_zero, if_false,
    Nat.add_sub_cancel, found, held, if_true]

/-- An offset of a file has the location of its distance there. -/
theorem resolve_ofFiles (inside : distance ≤ data.size) :
    (ofFiles (before ++ (name, data) :: after)).resolve (span before + distance : Nat)
      = .ok (located name data distance) := by
  have there := locate_ofData name (span before) data distance
  rw [resolve, lookup_ofFiles before after name inside]
  exact_mod_cast there

/-- The lines of all files are the sum of the lines of each. -/
theorem lineCount_ofFiles (files : Contents) :
    (ofFiles files).lineCount
      = (files.map fun file => (ofFiles [file]).lineCount).sum := by
  have single (start : Int) (file : String × ByteArray) :
      (File.ofData file.1 start file.2).lineCount = (ofFiles [file]).lineCount := by
    rw [lineCount, files_ofFiles]
    rfl
  rw [lineCount, files_ofFiles]
  generalize (0 : Int) = start
  induction files generalizing start with
  | nil => rfl
  | cons file rest hypothesis =>
    rw [laidFrom, List.map_cons, List.foldr_cons, hypothesis, List.map_cons, List.sum_cons,
      single start file]

end Map

end UnsafeCensus.Source
