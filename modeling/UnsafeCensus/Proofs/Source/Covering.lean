/-
**Extents of one file.**

An extent lies in one file when this file holds both its ends, the end of the file included. Extents of different
files have no offset in common.

* `Extent.Within`, `Extent.Follows`, `Extent.Apart`: how two extents can lie to each other;
* `Extent.Holds`, `Extent.Disjoint`: the offsets of an extent, and extents that share none;
* `Map.Covers`: a file holds both ends of an extent;
* `covers_ofFiles_iff`: what a file covers, by the places that the files before it take;
* `apart_of_covers`: extents of different files are apart;
* `exists_part_of_getElem?`: a file of a map stands after those before it;
* `exists_part_of_covers`: the ends of an extent are distances in its file.
-/

import Mathlib
import UnsafeCensus.Proofs.Source.Partition
import UnsafeCensus.Source.Extent

namespace UnsafeCensus.Source

namespace Extent

/-- An extent lies inside another. -/
def Within (inner outer : Extent) : Prop :=
  outer.start ≤ inner.start ∧ inner.stop ≤ outer.stop

/-- An extent lies inside an earlier one, or starts at or after its end. -/
def Follows (first second : Extent) : Prop :=
  second.Within first ∨ first.stop ≤ second.start

/-- Two extents have no offset in common, their ends included. -/
def Apart (first second : Extent) : Prop :=
  first.stop < second.start ∨ second.stop < first.start

instance (inner outer : Extent) : Decidable (inner.Within outer) :=
  inferInstanceAs (Decidable (_ ∧ _))

instance (first second : Extent) : Decidable (first.Follows second) :=
  inferInstanceAs (Decidable (_ ∨ _))

instance (first second : Extent) : Decidable (first.Apart second) :=
  inferInstanceAs (Decidable (_ ∨ _))

/-- An offset is one of an extent, from its start on and before its end. -/
def Holds (extent : Extent) (offset : Int) : Prop :=
  extent.start ≤ offset ∧ offset < extent.stop

instance (extent : Extent) (offset : Int) : Decidable (extent.Holds offset) :=
  inferInstanceAs (Decidable (_ ∧ _))

/-- Two extents share no offset; an extent without an offset shares none. -/
def Disjoint (first second : Extent) : Prop :=
  ∀ offset, ¬ (first.Holds offset ∧ second.Holds offset)

theorem disjoint_of_le {first second : Extent} (ordered : first.stop ≤ second.start) :
    first.Disjoint second := by
  rintro offset ⟨⟨_, before⟩, after, _⟩
  omega

end Extent

/-- The file at an index holds both ends of an extent. -/
def Map.Covers (map : Map) (index : Nat) (extent : Extent) : Prop :=
  map.HeldAt extent.start index ∧ map.HeldAt extent.stop index

/-- A file covers what starts at or after its start and stops up to its end. -/
theorem covers_ofFiles_iff {files : Contents} {index : Nat} {extent : Extent} :
    (Map.ofFiles files).Covers index extent ↔ index < files.length
      ∧ span (files.take index) ≤ extent.start ∧ extent.stop < span (files.take (index + 1)) := by
  have ordered := extent.ordered
  rw [Map.Covers, Map.heldAt_ofFiles_iff, Map.heldAt_ofFiles_iff]
  omega

/-- Extents that are covered by different files are apart. -/
theorem apart_of_covers {files : Contents} {index other : Nat} {first second : Extent}
    (covers : (Map.ofFiles files).Covers index first)
    (covers' : (Map.ofFiles files).Covers other second) (different : index ≠ other) :
    first.Apart second := by
  obtain ⟨_, low, high⟩ := covers_ofFiles_iff.mp covers
  obtain ⟨_, low', high'⟩ := covers_ofFiles_iff.mp covers'
  rw [Extent.Apart]
  -- The files before the later of the two end before it starts.
  rcases Nat.lt_or_gt_of_ne different with less | greater
  · have ordered := span_take_mono files (show index + 1 ≤ other from less)
    omega
  · have ordered := span_take_mono files (show other + 1 ≤ index from greater)
    omega

/-- A file of a map stands after those before it. -/
theorem exists_part_of_getElem? {files : Contents} {index : Nat} {file : File}
    (there : (Map.ofFiles files).files[index]? = some file) :
    ∃ before name data after, files = before ++ (name, data) :: after ∧ before.length = index
      ∧ file = File.ofData name (span before) data := by
  rw [Map.getElem?_ofFiles, Option.map_eq_some_iff] at there
  obtain ⟨⟨name, data⟩, there, rfl⟩ := there
  obtain ⟨bound, known⟩ := List.getElem?_eq_some_iff.mp there
  refine ⟨files.take index, name, data, files.drop (index + 1), ?_, ?_, rfl⟩
  · rw [← known, List.getElem_cons_drop, List.take_append_drop]
  · rw [List.length_take, Nat.min_eq_left bound.le]

/-- **The ends of an extent** that a file covers are distances in this file, in order and up to its end. -/
theorem exists_part_of_covers {files : Contents} {index : Nat} {file : File} {extent : Extent}
    (there : (Map.ofFiles files).files[index]? = some file)
    (covers : (Map.ofFiles files).Covers index extent) :
    ∃ before name data after first last, files = before ++ (name, data) :: after
      ∧ file = File.ofData name (span before) data ∧ first ≤ last ∧ last ≤ data.size
      ∧ extent.start = span before + first ∧ extent.stop = span before + last := by
  obtain ⟨⟨file', there', starts⟩, file'', there'', stops⟩ := covers
  obtain rfl := Option.some.inj (there.symm.trans there')
  obtain rfl := Option.some.inj (there.symm.trans there'')
  obtain ⟨before, name, data, after, rfl, _, rfl⟩ := exists_part_of_getElem? there
  obtain ⟨low, _⟩ := File.contains_iff.mp starts
  obtain ⟨_, high⟩ := File.contains_iff.mp stops
  have ordered := extent.ordered
  simp only [File.stop, File.ofData] at low high
  exact ⟨before, name, data, after, extent.start - span before, extent.stop - span before, rfl, rfl,
    by omega, by omega, by omega, by omega⟩

end UnsafeCensus.Source
