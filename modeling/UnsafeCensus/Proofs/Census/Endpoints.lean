/-
**Counting extents of files ends at the first offset that no file holds.**

The two ends of each extent are resolved in turn, its start first. When files hold all of them there is one row
for each extent, which depends on this extent alone, also when it reaches from one file into another. Otherwise
the first end that no file holds is told of, and nothing is counted.

* `endpoints`: the ends of extents in the order in which they are resolved;
* `Counts`: what a row tells of an extent;
* `Scanned`, `scanned_cons`, `scanned_mapM`: what resolving extents in turn comes to, by one extent and by all;
* `Within`, `forall_within_iff`: extents whose ends files hold;
* `ofRegions_append`, `ofRegions_perm`: the rows of appended extents, and of extents in another order;
* `Counted`, `Misses`: what the metrics of extents tell, and the first end that no file holds;
* `ofRegions_endpoints`: the metrics of extents.
-/

import Mathlib
import UnsafeCensus.Proofs.Census.Rows
import UnsafeCensus.Proofs.Source.Partition

namespace UnsafeCensus.Census

open Outline Source

/-- The two ends of each extent, in the order in which they are resolved. -/
def endpoints (extents : List Extent) : List Int :=
  extents.flatMap fun extent => [(extent.start : Int), extent.stop]

theorem endpoints_cons (extent : Extent) (rest : List Extent) :
    endpoints (extent :: rest) = (extent.start : Int) :: (extent.stop : Int) :: endpoints rest :=
  rfl

theorem mem_endpoints_iff {offset : Int} {extents : List Extent} :
    offset ∈ endpoints extents ↔ ∃ extent ∈ extents, offset = extent.start ∨ offset = extent.stop := by
  simp [endpoints, List.mem_flatMap]

theorem nonneg_of_mem_endpoints {offset : Int} {extents : List Extent} (member : offset ∈ endpoints extents) :
    0 ≤ offset := by
  obtain ⟨extent, _, rfl | rfl⟩ := mem_endpoints_iff.mp member
  · exact Int.natCast_nonneg _
  · exact Int.natCast_nonneg _

/-! ### Rows -/

/-- What a row tells of an extent: where its ends are, and the lines between them, one at least. -/
structure Counts (files : Contents) (extent : Extent) (row : Row) : Prop where
  start : (Map.ofFiles files).resolve extent.start = .ok row.start
  stop : (Map.ofFiles files).resolve extent.stop = .ok row.stop
  lines : (row.lineCount : Int) = max 1 ((row.stop.line : Int) - row.start.line)

variable {files : Contents} {extent : Extent} {extents : List Extent}

theorem counts_iff {row : Row} : Counts files extent row ↔ HasRow files extent row := by
  refine Iff.trans ?_ Row.ofExtent_eq_ok_iff.symm
  constructor
  · rintro ⟨first, last, lines⟩
    refine ⟨row.start, row.stop, first, last, ?_⟩
    obtain ⟨start, stop, count, positive⟩ := row
    have same : count = max 1 (stop.line - start.line) := by
      simp only at lines
      omega
    subst same
    rfl
  · rintro ⟨start, stop, first, last, rfl⟩
    refine ⟨first, last, ?_⟩
    simp only [Row.between]
    omega

/-- An extent has one row. -/
theorem Counts.unique {row other : Row} (counts : Counts files extent row)
    (counts' : Counts files extent other) : row = other :=
  Except.ok.inj ((counts_iff.mp counts).symm.trans (counts_iff.mp counts'))

/-! ### One extent after the other -/

theorem resolve_eq_outside {offset : Int} (beyond : ¬ (Map.ofFiles files).Spans offset) :
    (Map.ofFiles files).resolve offset = .error (.diagnosed ((Map.ofFiles files).outside offset)) := by
  obtain ⟨_, missed, _⟩ := Map.refuses_of_not_spans beyond
  rcases Map.lookup_cases (Map.ofFiles files) offset with ⟨_, found, _⟩ | refused
  · rw [found] at missed
    cases missed
  · exact Map.resolve_eq_error refused

theorem exists_counts (first : (Map.ofFiles files).Spans extent.start)
    (last : (Map.ofFiles files).Spans extent.stop) : ∃ row, Counts files extent row := by
  obtain ⟨_, _, start, _, _, _, _, _, starts, _⟩ := Map.findsOnce_of_spans first
  obtain ⟨_, _, stop, _, _, _, _, _, stops, _⟩ := Map.findsOnce_of_spans last
  exact ⟨_, counts_iff.mpr (Row.ofExtent_eq_ok_iff.mpr ⟨start, stop, starts, stops, rfl⟩)⟩

theorem ofExtent_of_start_outside (beyond : ¬ (Map.ofFiles files).Spans extent.start) :
    Row.ofExtent (Map.ofFiles files) extent
      = .error (.diagnosed ((Map.ofFiles files).outside extent.start)) := by
  simp only [Row.ofExtent, Row.resolvedBy, Map.resolver, resolve_eq_outside beyond]
  rfl

theorem ofExtent_of_stop_outside (first : (Map.ofFiles files).Spans extent.start)
    (beyond : ¬ (Map.ofFiles files).Spans extent.stop) :
    Row.ofExtent (Map.ofFiles files) extent
      = .error (.diagnosed ((Map.ofFiles files).outside extent.stop)) := by
  obtain ⟨_, _, start, _, _, _, _, _, starts, _⟩ := Map.findsOnce_of_spans first
  simp only [Row.ofExtent, Row.resolvedBy, Map.resolver, starts, resolve_eq_outside beyond]
  rfl

/-- What resolving extents in turn comes to: a row for each of them, or the first end that no file holds. -/
inductive Scanned (files : Contents) (extents : List Extent) : Except Failure (List Row) → Prop where
  | counted {rows : List Row} (held : ∀ offset ∈ endpoints extents, (Map.ofFiles files).Spans offset)
      (counts : List.Forall₂ (Counts files) extents rows) : Scanned files extents (.ok rows)
  | refused {before after : List Int} {offset : Int} (split : endpoints extents = before ++ offset :: after)
      (held : ∀ other ∈ before, (Map.ofFiles files).Spans other)
      (beyond : ¬ (Map.ofFiles files).Spans offset) :
      Scanned files extents (.error (.diagnosed ((Map.ofFiles files).outside offset)))

/-- One extent more is resolved before the others. -/
theorem scanned_cons {others : Except Failure (List Row)} (scanned : Scanned files extents others)
    (extent : Extent) :
    Scanned files (extent :: extents) (do
      let row ← Row.ofExtent (Map.ofFiles files) extent
      let rows ← others
      return row :: rows) := by
  have ends := endpoints_cons extent extents
  by_cases first : (Map.ofFiles files).Spans extent.start
  · by_cases last : (Map.ofFiles files).Spans extent.stop
    · obtain ⟨row, counts⟩ := exists_counts first last
      rw [show Row.ofExtent (Map.ofFiles files) extent = .ok row from counts_iff.mp counts]
      cases scanned with
      | counted held rows =>
        refine .counted ?_ (.cons counts rows)
        rw [ends, List.forall_mem_cons, List.forall_mem_cons]
        exact ⟨first, last, held⟩
      | @refused before after offset split held beyond =>
        have later : endpoints (extent :: extents)
            = ((extent.start : Int) :: (extent.stop : Int) :: before) ++ offset :: after := by
          rw [ends, split, List.cons_append, List.cons_append]
        refine .refused later ?_ beyond
        rw [List.forall_mem_cons, List.forall_mem_cons]
        exact ⟨first, last, held⟩
    · have second : endpoints (extent :: extents)
          = [(extent.start : Int)] ++ (extent.stop : Int) :: endpoints extents := ends
      rw [ofExtent_of_stop_outside first last]
      exact .refused second (List.forall_mem_singleton.mpr first) last
  · rw [ofExtent_of_start_outside first]
    exact .refused (ends.trans (List.nil_append _).symm) nofun first

theorem scanned_mapM (files : Contents) (extents : List Extent) :
    Scanned files extents (extents.mapM (Row.ofExtent (Map.ofFiles files))) := by
  induction extents with
  | nil => exact .counted nofun .nil
  | cons extent rest hypothesis =>
    rw [List.mapM_cons]
    exact scanned_cons hypothesis extent

/-- The metrics of extents are made of what resolving them comes to. -/
theorem exists_scanned (files : Contents) (extents : List Extent) :
    ∃ found, Scanned files extents found
      ∧ Metrics.ofRegions (Map.ofFiles files) extents
        = found.map fun rows => ⟨rows, some (Map.ofFiles files).lineCount⟩ := by
  refine ⟨_, scanned_mapM files extents, ?_⟩
  show extents.mapM (Row.ofExtent (Map.ofFiles files)) >>= _ = _
  cases extents.mapM (Row.ofExtent (Map.ofFiles files)) with
  | error failure => rfl
  | ok rows => exact Metrics.of_natCast rows _

/-! ### The metrics -/

/-- An extent has both ends below the next start of files. -/
def Within (files : Contents) (extent : Extent) : Prop :=
  files ≠ [] ∧ (extent.start : Int) < (Map.ofFiles files).nextStart
    ∧ (extent.stop : Int) < (Map.ofFiles files).nextStart

theorem within_iff :
    Within files extent ↔ (Map.ofFiles files).Spans extent.start ∧ (Map.ofFiles files).Spans extent.stop := by
  constructor
  · rintro ⟨_, first, last⟩
    exact ⟨⟨Int.natCast_nonneg _, first⟩, Int.natCast_nonneg _, last⟩
  · rintro ⟨⟨nonnegative, first⟩, _, last⟩
    refine ⟨?_, first, last⟩
    rintro rfl
    exact absurd (nonnegative.trans_lt first) (lt_irrefl _)

theorem forall_within_iff :
    (∀ extent ∈ extents, Within files extent)
      ↔ ∀ offset ∈ endpoints extents, (Map.ofFiles files).Spans offset := by
  simp only [within_iff, mem_endpoints_iff]
  constructor
  · rintro inside offset ⟨extent, member, rfl | rfl⟩
    · exact (inside extent member).1
    · exact (inside extent member).2
  · intro inside extent member
    exact ⟨inside _ ⟨extent, member, .inl rfl⟩, inside _ ⟨extent, member, .inr rfl⟩⟩

/-- Extents that all have both ends below the next start are counted. -/
theorem ofRegions_of_within (inside : ∀ extent ∈ extents, Within files extent) :
    ∃ rows, List.Forall₂ (Counts files) extents rows
      ∧ Metrics.ofRegions (Map.ofFiles files) extents = .ok ⟨rows, some (Map.ofFiles files).lineCount⟩ := by
  obtain ⟨found, scanned, known⟩ := exists_scanned files extents
  rw [known]
  cases scanned with
  | counted held counts => exact ⟨_, counts, rfl⟩
  | refused split held beyond =>
    refine absurd (forall_within_iff.mp inside _ ?_) beyond
    rw [split]
    exact List.mem_append_right _ List.mem_cons_self

/-- Extents that are counted have both ends below the next start, and a row each. -/
theorem within_of_ofRegions {metrics : Metrics}
    (counted : Metrics.ofRegions (Map.ofFiles files) extents = .ok metrics) :
    (∀ extent ∈ extents, Within files extent) ∧ List.Forall₂ (Counts files) extents metrics.rows
      ∧ metrics.lineCount = some (Map.ofFiles files).lineCount := by
  obtain ⟨found, scanned, known⟩ := exists_scanned files extents
  rw [known] at counted
  cases scanned with
  | counted held counts =>
    cases counted
    exact ⟨forall_within_iff.mpr held, counts, rfl⟩
  | refused => cases counted

/-- Appended extents have the rows of the first and then those of the others. -/
theorem ofRegions_append {more : List Extent} {metrics added : Metrics}
    (counted : Metrics.ofRegions (Map.ofFiles files) extents = .ok metrics)
    (counted' : Metrics.ofRegions (Map.ofFiles files) more = .ok added) :
    Metrics.ofRegions (Map.ofFiles files) (extents ++ more)
        = .ok ⟨metrics.rows ++ added.rows, some (Map.ofFiles files).lineCount⟩ := by
  rw [ofRegions_eq_ok_iff] at *
  exact ⟨List.rel_append counted.1 counted'.1, rfl⟩

/-- Extents in another order have the same rows in another order. -/
theorem ofRegions_perm {others : List Extent} {metrics : Metrics}
    (counted : Metrics.ofRegions (Map.ofFiles files) extents = .ok metrics) (perm : extents.Perm others) :
    ∃ rows, metrics.rows.Perm rows
      ∧ Metrics.ofRegions (Map.ofFiles files) others
        = .ok ⟨rows, some (Map.ofFiles files).lineCount⟩ := by
  obtain ⟨inside, counts, _⟩ := within_of_ofRegions counted
  obtain ⟨rows, counts', counted'⟩ :=
    ofRegions_of_within fun extent member => inside extent (perm.mem_iff.mpr member)
  refine ⟨rows, ?_, counted'⟩
  exact List.rel_perm_imp (fun _ _ _ counts counts' => counts.unique counts') counts counts' perm

/-- What the metrics of extents tell: a row for each of them and the lines of all files, with the lines of the rows
added up in any order. -/
structure Counted (files : Contents) (extents : List Extent) (metrics : Metrics) : Prop where
  rows : List.Forall₂ (Counts files) extents metrics.rows
  positive : ∀ row ∈ metrics.rows, 1 ≤ row.lineCount
  total : metrics.lineCount = some (Map.ofFiles files).lineCount
  append : ∀ more added, Metrics.ofRegions (Map.ofFiles files) more = .ok added →
    ∃ both, Metrics.ofRegions (Map.ofFiles files) (extents ++ more) = .ok both
      ∧ both.unsafeLines = metrics.unsafeLines + added.unsafeLines
  perm : ∀ others, extents.Perm others →
    ∃ same, Metrics.ofRegions (Map.ofFiles files) others = .ok same ∧ same.unsafeLines = metrics.unsafeLines

theorem counted_of_ofRegions {metrics : Metrics}
    (counted : Metrics.ofRegions (Map.ofFiles files) extents = .ok metrics) : Counted files extents metrics := by
  obtain ⟨_, counts, total⟩ := within_of_ofRegions counted
  refine ⟨counts, fun row _ => row.positive, total, fun more added counted' => ?_, fun others perm => ?_⟩
  · refine ⟨_, ofRegions_append counted counted', ?_⟩
    simp only [unsafeLines_eq_sum, List.map_append, List.sum_append]
  · obtain ⟨rows, same, counted'⟩ := ofRegions_perm counted perm
    exact ⟨_, counted', ((same.map Row.lineCount).sum_eq).symm⟩

/-- The first end of extents that is not below the next start of files. -/
inductive Misses (files : Contents) (extents : List Extent) : Int → Prop where
  | intro {before after : List Int} {offset : Int} (split : endpoints extents = before ++ offset :: after)
      (below : ∀ other ∈ before, other < (Map.ofFiles files).nextStart)
      (beyond : (Map.ofFiles files).nextStart ≤ offset) : Misses files extents offset

theorem exists_misses (beyond : ¬ ∀ extent ∈ extents, Within files extent) :
    ∃ offset, Misses files extents offset
      ∧ Metrics.ofRegions (Map.ofFiles files) extents
        = .error (.diagnosed ((Map.ofFiles files).outside offset)) := by
  obtain ⟨found, scanned, known⟩ := exists_scanned files extents
  rw [forall_within_iff] at beyond
  cases scanned with
  | counted held => exact absurd held beyond
  | @refused before after offset split held beyond =>
    have ends : offset ∈ endpoints extents := by
      rw [split]
      exact List.mem_append_right _ List.mem_cons_self
    refine ⟨offset, .intro split (fun other member => (held other member).2) ?_, known⟩
    exact not_lt.mp fun below => beyond ⟨nonneg_of_mem_endpoints ends, below⟩

/-- **The metrics of extents** are there exactly when files hold both ends of each of them, with one row for each
extent. Otherwise the first end that no file holds is told of. -/
theorem ofRegions_endpoints (files : Contents) :
    (∀ extent row other, Counts files extent row → Counts files extent other → row = other)
      ∧ ∀ extents,
        ((∃ metrics, Metrics.ofRegions (Map.ofFiles files) extents = .ok metrics)
            ↔ ∀ extent ∈ extents, Within files extent)
          ∧ (∀ metrics, Metrics.ofRegions (Map.ofFiles files) extents = .ok metrics →
            Counted files extents metrics)
          ∧ (¬ (∀ extent ∈ extents, Within files extent) → ∃ offset diagnostic,
            Misses files extents offset
              ∧ Metrics.ofRegions (Map.ofFiles files) extents = .error (.diagnosed diagnostic)
              ∧ diagnostic = (Map.ofFiles files).outside offset ∧ diagnostic.family = .resolution
              ∧ Json.get? diagnostic.context.facts "offset" = some (.integer offset)) := by
  refine ⟨fun _ _ _ counts counts' => counts.unique counts', fun extents => ⟨⟨?inside, fun inside => ?counted⟩,
    fun metrics counted => counted_of_ofRegions counted, fun beyond => ?refused⟩⟩
  case inside =>
    rintro ⟨metrics, counted⟩
    exact (within_of_ofRegions counted).1
  case counted =>
    obtain ⟨rows, _, counted⟩ := ofRegions_of_within inside
    exact ⟨_, counted⟩
  case refused =>
    obtain ⟨offset, misses, refused⟩ := exists_misses beyond
    exact ⟨offset, _, misses, refused, rfl, Map.outside_carries _ offset⟩

/-- From the second line of a file to the first line of the next one it is one line. -/
example : (Metrics.ofRegions (.ofFiles [("a", "x\ny".toUTF8), ("b", "z".toUTF8)])
    [⟨2, 5, by decide⟩]).toOption.map Metrics.unsafeLines = some 1 := by decide +kernel

end UnsafeCensus.Census
