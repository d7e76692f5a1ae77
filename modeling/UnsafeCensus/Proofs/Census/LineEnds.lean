/-
**Metrics under line ends of two bytes.**

Whether the lines of a unit end in a line feed or in a carriage return and a line feed, its regions have the
same rows and it has the same number of lines.

* `Extent.returned`: a region of some files after a carriage return was put in before each line feed;
* `ofRegions_returned`: the metrics stay.
-/

import Mathlib
import UnsafeCensus.Proofs.Census.Rows
import UnsafeCensus.Proofs.Source.LineEnds

namespace UnsafeCensus

namespace Source

/-- The extent whose two ends are moved by the carriage returns put in before them. -/
def Extent.returned (files : Contents) (extent : Extent) : Extent :=
  ⟨moved files extent.start, moved files extent.stop, moved_mono files extent.ordered⟩

end Source

namespace Census

open Source

variable {files : Contents}

/-- A region keeps its row. -/
theorem hasRow_returned {extent : Extent} (inside : extent.stop < span files) :
    ∃ row, HasRow files extent row ∧ HasRow (returnedAll files) (extent.returned files) row := by
  obtain ⟨start, there, there'⟩ := Map.resolve_moved (extent.ordered.trans_lt inside)
  obtain ⟨stop, ends, ends'⟩ := Map.resolve_moved inside
  exact ⟨Row.between start stop, Row.ofExtent_eq_ok_iff.mpr ⟨start, stop, there, ends, rfl⟩,
    Row.ofExtent_eq_ok_iff.mpr ⟨start, stop, there', ends', rfl⟩⟩

/-- Regions keep their rows. -/
theorem rows_returned {extents : List Extent} (inside : ∀ extent ∈ extents, extent.stop < span files) :
    ∃ rows, List.Forall₂ (HasRow files) extents rows
      ∧ List.Forall₂ (HasRow (returnedAll files)) (extents.map (Extent.returned files)) rows := by
  induction extents with
  | nil => exact ⟨[], .nil, .nil⟩
  | cons extent rest hypothesis =>
    obtain ⟨row, here, here'⟩ := hasRow_returned (inside extent List.mem_cons_self)
    obtain ⟨rows, others, others'⟩ :=
      hypothesis fun extent member => inside extent (List.mem_cons_of_mem _ member)
    exact ⟨row :: rows, .cons here others, .cons here' others'⟩

/-- **Metrics are the same under both line ends.** Of regions whose ends are offsets of some files there are
metrics, and the same metrics are found after a carriage return was put in before each line feed and each end
was moved by the carriage returns before it. -/
theorem ofRegions_returned (files : Contents) (extents : List Extent)
    (inside : ∀ extent ∈ extents, extent.stop < span files) :
    ∃ metrics, Metrics.ofRegions (Map.ofFiles files) extents = .ok metrics
      ∧ Metrics.ofRegions (Map.ofFiles (returnedAll files)) (extents.map (Extent.returned files))
          = .ok metrics := by
  obtain ⟨rows, here, here'⟩ := rows_returned inside
  refine ⟨⟨rows, some (Map.ofFiles files).lineCount⟩, ofRegions_eq_ok_iff.mpr ⟨here, rfl⟩,
    ofRegions_eq_ok_iff.mpr ⟨here', ?_⟩⟩
  rw [Map.lineCount_returnedAll]

/-- Two files, the second with characters of several bytes. -/
def listedFiles : Contents :=
  [("a.rs", "a\n\nb\n".toUTF8), ("b.rs", "é\n€x\r\nz".toUTF8)]

/-- Regions of which one ends and one starts at the last line feed of the first file. -/
def listedExtents : List Extent :=
  [⟨0, 4, by decide⟩, ⟨4, 13, by decide⟩, ⟨9, 15, by decide⟩]

/-- The regions move, and the rows stay. -/
theorem ofRegions_returned_listed :
    (∀ extent ∈ listedExtents, extent.stop < span listedFiles)
      ∧ listedExtents.map (fun extent => (extent.returned listedFiles).stop) = [6, 17, 20]
      ∧ ∃ metrics, Metrics.ofRegions (Map.ofFiles listedFiles) listedExtents = .ok metrics
          ∧ Metrics.ofRegions (Map.ofFiles (returnedAll listedFiles))
              (listedExtents.map (Extent.returned listedFiles)) = .ok metrics
          ∧ metrics.rows.map Row.text
              = ["a.rs:1:0-3:1  2", "a.rs:3:1-2:2  1", "b.rs:2:0-3:0  1"] := by
  have inside : ∀ extent ∈ listedExtents, extent.stop < span listedFiles := by decide +kernel
  obtain ⟨metrics, found, found'⟩ := ofRegions_returned listedFiles listedExtents inside
  have known : (Metrics.ofRegions (Map.ofFiles listedFiles) listedExtents).toOption.map
      (·.rows.map Row.text) = some ["a.rs:1:0-3:1  2", "a.rs:3:1-2:2  1", "b.rs:2:0-3:0  1"] := by
    decide +kernel
  rw [found] at known
  exact ⟨inside, by decide +kernel, metrics, found, found', Option.some.inj known⟩

end Census

end UnsafeCensus
