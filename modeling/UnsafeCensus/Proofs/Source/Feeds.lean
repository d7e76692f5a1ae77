/-
**Line feeds among the offsets of a map.**

From one distance of a file to another the line grows by the line feeds between them. So an extent of one file is
charged with its line feeds, and extents that share no offset are together charged with no more line feeds than the
files have, nor with more than their lines.

* `lineAt_eq_countP`: the line of a distance by the line feeds before it;
* `File.feedsIn`: the line feeds of a file in an extent;
* `lineAt_stop`: the line of the end of an extent;
* `feedsIn_le_lineCount`: a file has no more line feeds than lines;
* `Map.feedOffsets`: the offsets of all line feeds;
* `sum_countP_le`: extents that share no offset hold no offset twice.
-/

import Mathlib
import UnsafeCensus.Proofs.Source.Covering
import UnsafeCensus.Proofs.Source.Lines

namespace UnsafeCensus.Source

variable {data : ByteArray} {distance : Nat}

/-! ### The line feeds of one file -/

/-- As many places are those of line feeds as there are bytes of this kind. -/
theorem length_feeds (data : ByteArray) : (feeds data).length = (bytesOf data).count lineFeed := by
  have counted := length_feedsFrom (Nat.le_refl data.size)
  rw [bytesBefore_size] at counted
  rw [feeds_eq_append (Nat.le_refl data.size), List.length_append, counted]
  simp [feedsFrom]

theorem lt_of_mem_feedsFrom {place first count : Nat} (member : place ∈ feedsFrom data first count) :
    place < first + count := by
  have range := List.mem_of_mem_filter member
  rw [List.mem_range'_1] at range
  exact range.2

/-- The line of a distance is one more than the line feeds that stand before it. -/
theorem lineAt_eq_countP (inside : distance ≤ data.size) :
    lineAt data distance = (feeds data).countP (fun place => place < distance) + 1 := by
  have all : (feedsFrom data 0 distance).countP (fun place => place < distance)
      = (feedsFrom data 0 distance).length := by
    refine List.countP_eq_length.mpr fun place member => ?_
    have bound := lt_of_mem_feedsFrom member
    simpa using bound
  have none : (feedsFrom data distance (data.size - distance)).countP (fun place => place < distance)
      = 0 := by
    refine List.countP_eq_zero.mpr fun place member => ?_
    have bound := le_of_mem_feedsFrom member
    simpa using bound
  rw [lineAt_eq_length inside, feeds_eq_append inside, List.countP_append, all, none, Nat.add_zero]

/-- Of some places, those before a second bound are those before a first one and those between the two. -/
theorem countP_lt_add {first last : Nat} (ordered : first ≤ last) (places : List Nat) :
    places.countP (fun place => place < last)
      = places.countP (fun place => place < first)
        + places.countP (fun place => first ≤ place ∧ place < last) := by
  induction places with
  | nil => rfl
  | cons place rest hypothesis =>
    simp only [List.countP_cons, hypothesis, decide_eq_true_eq]
    split_ifs <;> omega

/-- The line feeds that a file has in an extent. -/
def File.feedsIn (file : File) (extent : Extent) : Nat :=
  (feeds file.data).countP fun place : Nat => extent.Holds (file.start + place)

/-- **The line of the end of an extent** is that of its start and one more for each line feed in it. -/
theorem lineAt_stop (name : String) {base first last : Nat} {extent : Extent} (ordered : first ≤ last)
    (inside : last ≤ data.size) (start : extent.start = base + first) (stop : extent.stop = base + last) :
    lineAt data last = lineAt data first + (File.ofData name base data).feedsIn extent := by
  have between : (File.ofData name base data).feedsIn extent
      = (feeds data).countP fun place => first ≤ place ∧ place < last := by
    unfold File.feedsIn
    refine List.countP_congr fun place _ => ?_
    simp only [Extent.Holds, File.ofData, start, stop, decide_eq_true_eq]
    omega
  rw [lineAt_eq_countP inside, lineAt_eq_countP (ordered.trans inside), between,
    countP_lt_add ordered]
  omega

/-- A file has no fewer lines than line feeds. -/
theorem length_feeds_le_lineCount (name : String) (start : Int) (data : ByteArray) :
    (feeds data).length ≤ (File.ofData name start data).lineCount := by
  rw [length_feeds, lineCount_ofData]
  exact Nat.le_add_right _ _

theorem feedsIn_le_lineCount (name : String) (start : Int) (data : ByteArray) (extent : Extent) :
    (File.ofData name start data).feedsIn extent ≤ (File.ofData name start data).lineCount :=
  List.countP_le_length.trans (length_feeds_le_lineCount name start data)

/-! ### The line feeds of all files -/

/-- Of extents that share no offset, one at most holds an offset. -/
theorem countP_holds_le_one {extents : List Extent} (disjoint : extents.Pairwise Extent.Disjoint)
    (offset : Int) : extents.countP (fun extent => extent.Holds offset) ≤ 1 := by
  induction disjoint with
  | nil => exact Nat.zero_le 1
  | @cons extent rest apart _ hypothesis =>
    by_cases held : extent.Holds offset
    · have others : rest.countP (fun extent => extent.Holds offset) = 0 := by
        refine List.countP_eq_zero.mpr fun other member => ?_
        have shared := apart other member offset
        simpa using fun held' => shared ⟨held, held'⟩
      rw [List.countP_cons_of_pos (by simpa using held), others]
    · rw [List.countP_cons_of_neg (by simpa using held)]
      exact hypothesis

/-- What is counted is a sum of ones. -/
theorem countP_eq_sum {α : Type} (held : α → Bool) (items : List α) :
    items.countP held = (items.map fun item => if held item then 1 else 0).sum := by
  induction items with
  | nil => rfl
  | cons item rest hypothesis =>
    rw [List.countP_cons, List.map_cons, List.sum_cons, hypothesis, Nat.add_comm]

/-- **Extents that share no offset** hold together no more of some offsets than there are. -/
theorem sum_countP_le {extents : List Extent} (disjoint : extents.Pairwise Extent.Disjoint)
    (offsets : List Int) :
    (extents.map fun extent => offsets.countP fun offset => extent.Holds offset).sum
      ≤ offsets.length := by
  induction offsets with
  | nil => simp
  | cons offset rest hypothesis =>
    have once := countP_holds_le_one disjoint offset
    rw [countP_eq_sum] at once
    simp only [List.countP_cons, List.sum_map_add, List.length_cons]
    exact Nat.add_le_add hypothesis once

namespace Map

/-- The offsets of the line feeds of all files. -/
def feedOffsets (map : Map) : List Int :=
  map.files.toList.flatMap fun file => (feeds file.data).map fun place : Nat => file.start + place

/-- All files have no fewer lines than line feeds. -/
theorem length_feedOffsets_le (files : Contents) :
    (ofFiles files).feedOffsets.length ≤ (ofFiles files).lineCount := by
  rw [feedOffsets, lineCount, files_ofFiles, List.length_flatMap]
  generalize (0 : Int) = start
  induction files generalizing start with
  | nil => exact le_rfl
  | cons file rest hypothesis =>
    obtain ⟨name, data⟩ := file
    rw [laidFrom, List.map_cons, List.map_cons, List.sum_cons, List.foldr_cons, List.length_map]
    exact Nat.add_le_add (length_feeds_le_lineCount name start data) (hypothesis _)

/-- A file has no more lines than all files have. -/
theorem lineCount_le {map : Map} {file : File} (member : file ∈ map.files.toList) :
    file.lineCount ≤ map.lineCount :=
  List.le_sum_of_mem (List.mem_map_of_mem member)

/-- The line feeds of one file in an extent are among those of all files. -/
theorem feedsIn_le {map : Map} {file : File} (member : file ∈ map.files.toList) (extent : Extent) :
    file.feedsIn extent ≤ map.feedOffsets.countP fun offset => extent.Holds offset := by
  rw [feedOffsets, List.countP_flatMap]
  refine le_trans (le_of_eq ?_) (List.le_sum_of_mem (List.mem_map_of_mem member))
  rw [Function.comp_apply, List.countP_map]
  rfl

end Map

end UnsafeCensus.Source
