/-
**How many unsafe lines there can be.**

The row of an extent counts its line feeds, and one line if it has none. So an extent that is not empty counts no more
lines than its file has, and extents that share no offset count together no more than all files have, apart from those
that count for one line without a line feed.

* `exists_row_of_covers`: the row of an extent that a file covers, by its line feeds;
* `exists_metrics`: extents that files cover have metrics;
* `unsafeLines_le_sum`: unsafe lines are bounded by what each extent is charged with;
* `Percentage.UpTo`: a percentage of at most some hundreds, as a decimal and as a number of 64 bits;
* `Metrics.Told`: reports, the document and the gate come to an end without a failure;
* `rows_bounded`: the bounds of extents that are not empty;
* `unsafeLines_le_of_disjoint`: the bound of extents that share no offset.
-/

import Mathlib
import UnsafeCensus.Proofs.Census.Gate
import UnsafeCensus.Proofs.Census.Rows
import UnsafeCensus.Proofs.Source.ByteLines
import UnsafeCensus.Proofs.Source.Feeds

namespace UnsafeCensus.Census

open Source

variable {files : Contents} {extents : List Extent} {extent : Extent} {index : Nat} {file : File}

/-! ### The row of one extent -/

/-- Whether both ends of an extent are on one line. -/
def onOneLine (map : Map) (extent : Extent) : Bool :=
  match map.resolve extent.start, map.resolve extent.stop with
  | .ok start, .ok stop => start.file == stop.file && start.line == stop.line
  | _, _ => false

theorem onOneLine_of_row {map : Map} {row : Row} (found : Row.ofExtent map extent = .ok row) :
    onOneLine map extent = (row.start.file == row.stop.file && row.start.line == row.stop.line) := by
  obtain ⟨start, stop, resolved, resolved', rfl⟩ := Row.ofExtent_eq_ok_iff.mp found
  rw [onOneLine, resolved, resolved']
  rfl

/-- **The row of an extent** that a file covers: as many lines between its ends as it has line feeds. -/
theorem exists_row_of_covers (there : (Map.ofFiles files).files[index]? = some file)
    (covers : (Map.ofFiles files).Covers index extent) :
    ∃ row, Row.ofExtent (Map.ofFiles files) extent = .ok row
      ∧ row.lineCount = max 1 (file.feedsIn extent)
      ∧ (onOneLine (Map.ofFiles files) extent = true ↔ file.feedsIn extent = 0)
      ∧ (extent.start < extent.stop → row.lineCount ≤ file.lineCount) := by
  obtain ⟨before, name, data, after, first, last, rfl, rfl, ordered, inside, start, stop⟩ :=
    exists_part_of_covers there covers
  have lines := lineAt_stop name ordered inside start stop
  have found : Row.ofExtent (Map.ofFiles (before ++ (name, data) :: after)) extent
      = .ok (.between (located name data first) (located name data last)) := by
    obtain ⟨_, _, _⟩ := extent
    subst start stop
    exact hasRow_between before after name ordered inside
  have count : (Row.between (located name data first) (located name data last)).lineCount
      = max 1 ((File.ofData name (span before) data).feedsIn extent) := by
    show max 1 (lineAt data last - lineAt data first) = _
    rw [lines, Nat.add_sub_cancel_left]
  refine ⟨_, found, count, ?_, fun nonempty => ?_⟩
  · simp only [onOneLine_of_row found, Row.between, located, beq_self_eq_true, Bool.true_and, beq_iff_eq]
    omega
  · have bytes : data.size ≠ 0 := by omega
    rw [count]
    refine max_le ?_ (feedsIn_le_lineCount name _ data extent)
    rw [lineCount_eq name _ bytes]
    exact Nat.le_add_left 1 _

/-! ### The rows of several extents -/

/-- Extents that all have rows have metrics, with what is known of each row. -/
theorem exists_metrics {tells : Extent → Row → Prop}
    (each : ∀ extent ∈ extents, ∃ row, Row.ofExtent (Map.ofFiles files) extent = .ok row
      ∧ tells extent row) :
    ∃ metrics, Metrics.ofRegions (Map.ofFiles files) extents = .ok metrics
      ∧ metrics.lineCount = some (Map.ofFiles files).lineCount
      ∧ List.Forall₂ tells extents metrics.rows := by
  obtain ⟨rows, found⟩ := exists_forall₂ each
  exact ⟨⟨rows, some _⟩, ofRegions_eq_ok_iff.mpr ⟨found.imp fun _ _ both => both.1, rfl⟩, rfl,
    found.imp fun _ _ both => both.2⟩

/-- No row is without a line. -/
theorem Metrics.length_le_unsafeLines (metrics : Metrics) : metrics.rows.length ≤ metrics.unsafeLines := by
  rw [unsafeLines_eq_sum, ← List.length_map (f := Row.lineCount)]
  refine List.length_le_sum_of_one_le _ fun count member => ?_
  obtain ⟨row, _, rfl⟩ := List.mem_map.mp member
  exact row.positive

/-- **Unsafe lines are bounded** by what all extents are charged with, if each has no more lines than its charge. -/
theorem unsafeLines_le_sum {metrics : Metrics} {charge : Extent → Nat}
    (rows : List.Forall₂ (fun extent row => row.lineCount ≤ charge extent) extents metrics.rows) :
    metrics.unsafeLines ≤ (extents.map charge).sum := by
  rw [unsafeLines_eq_sum]
  refine List.Forall₂.sum_le_sum ?_
  rw [List.forall₂_map_left_iff, List.forall₂_map_right_iff]
  exact rows.flip

/-! ### What is told of metrics -/

/-- A percentage of at most some hundreds, written out and as a number of 64 bits. -/
structure Percentage.UpTo (percentage : Percentage) (times : Nat) : Prop where
  plus : percentage.negative = false
  hundredths : percentage.hundredths ≤ 100 * (100 * times)
  real : (Amount.real percentage.real).AtMost (.real (.ofRatio false (100 * times) 1))
  whole : 100 * times < 2 ^ 53 → (Amount.real percentage.real).AtMost (.whole (100 * times))

/-- Reports in all formats, the document and the gate under all limits come to an end without a failure. -/
structure Metrics.Told (metrics : Metrics) : Prop where
  report : ∀ format, ∃ text, (report metrics format).result = .ok text
  document : ∃ text, metrics.document = .ok text
  gate : ∀ limit, ∃ held, (exceeds metrics limit).result = .ok held

/-- **Only a percentage can fail** in what is told of metrics. -/
theorem told_of_percentage {metrics : Metrics} {percentage : Option Percentage}
    (computed : metrics.percentage = .ok percentage) : metrics.Told where
  report format := by
    unfold Census.report
    by_cases counts : format = .count
    · rw [if_pos counts]
      exact ⟨_, rfl⟩
    rw [if_neg counts]
    by_cases total : metrics.hasTotal = true
    · rw [if_pos total, Attempt.result_bind]
      show ∃ text, (metrics.percentage >>= _) = .ok text
      rw [computed]
      cases percentage <;> exact ⟨_, rfl⟩
    · rw [if_neg total]
      by_cases missed : format = .percentage
      · rw [if_pos missed]
        exact ⟨_, rfl⟩
      · rw [if_neg missed]
        exact ⟨_, rfl⟩
  document := by
    unfold Metrics.document Metrics.value
    rw [computed]
    exact ⟨_, rfl⟩
  gate limit := by
    cases limit with
    | none => exact ⟨false, rfl⟩
    | some limit =>
      rw [result_exceeds, computed]
      exact ⟨_, rfl⟩

variable {part total times : Nat}

/-- The percentage of a part of at most some times the total. -/
theorem Percentage.upTo_of_le {percentage : Percentage} (positive : 1 ≤ total) (few : part ≤ times * total)
    (computed : Percentage.of part (some (total : Int)) = .ok (some percentage)) :
    percentage.UpTo times := by
  rw [Percentage.of_natCast part positive] at computed
  split at computed
  · cases computed
  · obtain rfl := Option.some.inj (Except.ok.inj computed)
    have bound := hundredthsOf_le positive few
    have real : (Amount.real (Percentage.mk false (hundredthsOf (100 * part) total)).real).AtMost
        (.real (.ofRatio false (100 * times) 1)) := by
      refine Binary64.ofRatio_atMost (by decide) one_ne_zero ?_
      dsimp only
      omega
    exact ⟨rfl, bound, real, fun small =>
      (Amount.atMost_congr (Binary64.place?_ofRatio_whole small)).mp real⟩

/-- A part of a total has a percentage if it is below `10 ^ 24` times the total. -/
theorem Percentage.exists_of_le (positive : 1 ≤ total) (few : part ≤ times * total) (small : times < 10 ^ 24) :
    ∃ percentage, Percentage.of part (some (total : Int)) = .ok (some percentage) := by
  have bound := hundredthsOf_le positive few
  rw [Percentage.of_natCast part positive, if_neg (by omega)]
  exact ⟨_, rfl⟩

/-! ### Bounds of all rows -/

/-- **Bounds of rows.** The row of an extent that a file covers counts its line feeds, and one line if it has none;
that is no more than the lines of the file unless the extent is empty. So some extents that are not empty, each
covered by a file, have no fewer unsafe lines than there are of them, and no more than so many times all lines. Their
percentage is at most so many hundreds, and below `10 ^ 24` of them nothing that is told of it fails. -/
theorem rows_bounded :
    (∀ (files : Contents) (index : Nat) (file : File) (extent : Extent),
        (Map.ofFiles files).files[index]? = some file → (Map.ofFiles files).Covers index extent →
        ∃ row, Row.ofExtent (Map.ofFiles files) extent = .ok row
          ∧ row.lineCount = max 1 (file.feedsIn extent)
          ∧ (extent.start < extent.stop → row.lineCount ≤ file.lineCount))
      ∧ ∀ (files : Contents) (extents : List Extent), extents ≠ [] →
          (∀ extent ∈ extents,
            extent.start < extent.stop ∧ ∃ index, (Map.ofFiles files).Covers index extent) →
          ∃ metrics total, Metrics.ofRegions (Map.ofFiles files) extents = .ok metrics
            ∧ metrics.lineCount = some total ∧ 1 ≤ total
            ∧ extents.length ≤ metrics.unsafeLines ∧ metrics.unsafeLines ≤ extents.length * total
            ∧ (∀ percentage, metrics.percentage = .ok (some percentage) → percentage.UpTo extents.length)
            ∧ (extents.length < 10 ^ 24 →
              (∃ percentage, metrics.percentage = .ok (some percentage)) ∧ metrics.Told) := by
  refine ⟨fun files index file extent there covers => ?_, fun files extents some covered => ?_⟩
  · obtain ⟨row, found, count, _, bound⟩ := exists_row_of_covers there covers
    exact ⟨row, found, count, bound⟩
  have each : ∀ extent ∈ extents, ∃ row, Row.ofExtent (Map.ofFiles files) extent = .ok row
      ∧ row.lineCount ≤ (Map.ofFiles files).lineCount := by
    intro extent member
    obtain ⟨nonempty, index, covers⟩ := covered extent member
    obtain ⟨file, there, _⟩ := covers.1
    obtain ⟨row, found, _, _, bound⟩ := exists_row_of_covers there covers
    exact ⟨row, found, (bound nonempty).trans (Map.lineCount_le (Array.mem_of_getElem? there).val)⟩
  obtain ⟨metrics, measured, known, rows⟩ := exists_metrics each
  have total : 1 ≤ (Map.ofFiles files).lineCount := by
    obtain ⟨extent, member⟩ := List.exists_mem_of_ne_nil extents some
    obtain ⟨row, _, bound⟩ := each extent member
    exact row.positive.trans bound
  have most : metrics.unsafeLines ≤ extents.length * (Map.ofFiles files).lineCount := by
    have charged := unsafeLines_le_sum rows
    rwa [List.map_const', List.sum_replicate, smul_eq_mul] at charged
  refine ⟨metrics, _, measured, known, total, ?_, most, fun percentage computed => ?_, fun few => ?_⟩
  · rw [rows.length_eq]
    exact metrics.length_le_unsafeLines
  · rw [percentage_of_lineCount known] at computed
    exact Percentage.upTo_of_le total most computed
  · obtain ⟨percentage, computed⟩ := Percentage.exists_of_le total most few
    rw [← percentage_of_lineCount known] at computed
    exact ⟨⟨percentage, computed⟩, told_of_percentage computed⟩

/-- Two files, of three lines together. -/
def boundedFiles : Contents :=
  [("a.rs", "x\ny".toUTF8), ("b.rs", "ab".toUTF8)]

/-- So many bytes from an offset on. -/
def bytesFrom (start count : Nat) : Extent :=
  ⟨start, start + count, Nat.le_add_right start count⟩

/-- The two halves of each file. -/
def halves : List Extent :=
  [bytesFrom 0 2, bytesFrom 2 1, bytesFrom 4 1, bytesFrom 5 1]

/-- Each half is covered by its file. -/
theorem covered_halves : ∀ extent ∈ halves,
    extent.start < extent.stop ∧ ∃ index, (Map.ofFiles boundedFiles).Covers index extent := by
  intro extent member
  simp only [halves, List.mem_cons, List.not_mem_nil, or_false] at member
  rcases member with rfl | rfl | rfl | rfl
  · exact ⟨by decide, 0, covers_ofFiles_iff.mpr (by decide +kernel)⟩
  · exact ⟨by decide, 0, covers_ofFiles_iff.mpr (by decide +kernel)⟩
  · exact ⟨by decide, 1, covers_ofFiles_iff.mpr (by decide +kernel)⟩
  · exact ⟨by decide, 1, covers_ofFiles_iff.mpr (by decide +kernel)⟩

/-- The four halves count at least four lines of three, and at most twelve. -/
theorem rows_bounded_halves :
    (∃ file, (Map.ofFiles boundedFiles).files[0]? = some file
        ∧ (Map.ofFiles boundedFiles).Covers 0 (bytesFrom 0 2)
        ∧ ∃ row, Row.ofExtent (Map.ofFiles boundedFiles) (bytesFrom 0 2) = .ok row
          ∧ row.lineCount = 1 ∧ row.lineCount ≤ file.lineCount)
      ∧ halves ≠ []
      ∧ (∀ extent ∈ halves,
        extent.start < extent.stop ∧ ∃ index, (Map.ofFiles boundedFiles).Covers index extent)
      ∧ ∃ metrics, Metrics.ofRegions (Map.ofFiles boundedFiles) halves = .ok metrics
        ∧ metrics.lineCount = some 3 ∧ 4 ≤ metrics.unsafeLines ∧ metrics.unsafeLines ≤ 12
        ∧ (∃ percentage, metrics.percentage = .ok (some percentage) ∧ percentage.UpTo 4)
        ∧ metrics.Told := by
  obtain ⟨single, several⟩ := rows_bounded
  have there : (Map.ofFiles boundedFiles).files[0]? = some (File.ofData "a.rs" 0 "x\ny".toUTF8) := by
    rw [Map.getElem?_ofFiles]
    rfl
  have covers : (Map.ofFiles boundedFiles).Covers 0 (bytesFrom 0 2) :=
    covers_ofFiles_iff.mpr (by decide +kernel)
  have one : (File.ofData "a.rs" 0 "x\ny".toUTF8).feedsIn (bytesFrom 0 2) = 1 := by decide +kernel
  have three : (Map.ofFiles boundedFiles).lineCount = 3 := by decide +kernel
  obtain ⟨row, found, count, bound⟩ := single boundedFiles 0 _ _ there covers
  rw [one] at count
  obtain ⟨metrics, total, measured, known, _, least, most, upTo, told⟩ :=
    several boundedFiles halves (List.cons_ne_nil _ _) covered_halves
  obtain rfl : total = 3 := by
    have counted := (ofRegions_eq_ok_iff.mp measured).2
    rw [known, three] at counted
    exact Option.some.inj counted
  obtain ⟨⟨percentage, computed⟩, told⟩ := told (by decide)
  exact ⟨⟨_, there, covers, row, found, count, bound (by decide)⟩, List.cons_ne_nil _ _, covered_halves,
    metrics, measured, known, least, most, ⟨percentage, computed, upTo percentage computed⟩, told⟩

/-! ### Extents that share no offset -/

/-- **Extents that share no offset**, each covered by a file, have no more unsafe lines than there are lines, but for
one line for each of them with both ends on one line. -/
theorem unsafeLines_le_of_disjoint (files : Contents) (extents : List Extent)
    (disjoint : extents.Pairwise Extent.Disjoint)
    (covered : ∀ extent ∈ extents, ∃ index, (Map.ofFiles files).Covers index extent) :
    ∃ metrics total, Metrics.ofRegions (Map.ofFiles files) extents = .ok metrics
      ∧ metrics.lineCount = some total
      ∧ metrics.unsafeLines ≤ total + extents.countP (onOneLine (Map.ofFiles files)) := by
  have each : ∀ extent ∈ extents, ∃ row, Row.ofExtent (Map.ofFiles files) extent = .ok row
      ∧ row.lineCount
        ≤ ((Map.ofFiles files).feedOffsets.countP fun offset => extent.Holds offset)
          + if onOneLine (Map.ofFiles files) extent then 1 else 0 := by
    intro extent member
    obtain ⟨index, covers⟩ := covered extent member
    obtain ⟨file, there, _⟩ := covers.1
    obtain ⟨row, found, count, single, _⟩ := exists_row_of_covers there covers
    have among := Map.feedsIn_le (Array.mem_of_getElem? there).val extent
    refine ⟨row, found, ?_⟩
    rw [count]
    split_ifs with one <;> simp only [single] at one <;> omega
  obtain ⟨metrics, measured, known, rows⟩ := exists_metrics each
  refine ⟨metrics, _, measured, known, (unsafeLines_le_sum rows).trans ?_⟩
  rw [List.sum_map_add, ← countP_eq_sum]
  exact Nat.add_le_add_right ((sum_countP_le disjoint _).trans (Map.length_feedOffsets_le files)) _

/-- The four halves share no offset, and three of them have both ends on one line. -/
theorem unsafeLines_le_of_disjoint_halves :
    halves.Pairwise Extent.Disjoint
      ∧ (∀ extent ∈ halves, ∃ index, (Map.ofFiles boundedFiles).Covers index extent)
      ∧ halves.countP (onOneLine (Map.ofFiles boundedFiles)) = 3
      ∧ ∃ metrics total, Metrics.ofRegions (Map.ofFiles boundedFiles) halves = .ok metrics
        ∧ metrics.lineCount = some total ∧ metrics.unsafeLines ≤ total + 3 := by
  have disjoint : halves.Pairwise Extent.Disjoint := by
    have ordered : halves.Pairwise fun first second => first.stop ≤ second.start := by decide
    exact ordered.imp Extent.disjoint_of_le
  have covered : ∀ extent ∈ halves, ∃ index, (Map.ofFiles boundedFiles).Covers index extent :=
    fun extent member => (covered_halves extent member).2
  have single : halves.countP (onOneLine (Map.ofFiles boundedFiles)) = 3 := by decide +kernel
  obtain ⟨metrics, total, measured, known, bound⟩ :=
    unsafeLines_le_of_disjoint boundedFiles halves disjoint covered
  rw [single] at bound
  exact ⟨disjoint, covered, single, metrics, total, measured, known, bound⟩

end UnsafeCensus.Census
