/-
**The document of metrics tells the metrics.**

A document is written in ASCII, and a reader of such documents gets back from it every row with its two locations
and its lines, in order, and the total or that there is none. The count of all lines and the percentage follow from
these and are not asked for.

* `Metrics.read?`: the metrics of a document, when a reader takes it;
* `Metrics.numbers`: the numbers in a document that are no percentage;
* `ofValue?_value`: the metrics of the value that is written;
* `document_tells_metrics`: the metrics of a document, and so metrics are told apart by their documents.
-/

import Mathlib
import UnsafeCensus.Census.Metrics
import UnsafeCensus.Proofs.Attempt
import UnsafeCensus.Proofs.Census.Listed
import UnsafeCensus.Proofs.Json.Written

namespace UnsafeCensus.Json.Value

/-- The member of an object. -/
def member? (name : String) : Value → Option Value
  | object members => get? members name
  | _ => none

/-- The characters of a text. -/
def characters? : Value → Option String
  | text points => some points.toString
  | _ => none

/-- A number that is none below zero. -/
def natural? : Value → Option Nat
  | integer (.ofNat value) => some value
  | _ => none

/-- The items of a list. -/
def items? : Value → Option (List Value)
  | list items => some items
  | _ => none

end UnsafeCensus.Json.Value

namespace UnsafeCensus.Census

open Source

/-! ### What a reader gets -/

/-- The location that an object tells. -/
def Row.locationOfValue? (value : Json.Value) : Option Location := do
  let file ← (← value.member? "filename").characters?
  let line ← (← value.member? "line").natural?
  let column ← (← value.member? "column").natural?
  locationOf? file line column

/-- The row that an object tells. -/
def Row.ofValue? (value : Json.Value) : Option Row := do
  let start ← locationOfValue? (← value.member? "start")
  let stop ← locationOfValue? (← value.member? "end")
  let lineCount ← (← value.member? "num_lines").natural?
  (Row.of start stop lineCount).toOption

namespace Metrics

/-- The total that a value tells, if it is no number that there is none. -/
def totalOfValue? : Json.Value → Option (Option Nat)
  | .null => some none
  | value => value.natural?.map some

/-- The metrics that an object tells. -/
def ofValue? (value : Json.Value) : Option Metrics := do
  let lineCount ← totalOfValue? (← value.member? "total_lines")
  let rows ← (← (← value.member? "spans").items?).mapM Row.ofValue?
  return ⟨rows, lineCount⟩

/-- The metrics of a document, to a reader with a bound on the digits of a number. -/
def read? (most : Option Nat) (text : String) : Option Metrics := do
  ofValue? (← (Json.readWithin ⟨most, none⟩ text.toList).toOption)

/-! ### The value of metrics -/

/-- The value of a total or of none. -/
def totalValue (lineCount : Option Nat) : Json.Value :=
  (lineCount.map fun total => .integer total).getD .null

/-- The value of some metrics beside what stands for their percentage. -/
def valueBeside (share : Json.Value) (metrics : Metrics) : Json.Value :=
  .object
    [Json.member "total_unsafe" (.integer metrics.unsafeLines),
     Json.member "total_lines" (totalValue metrics.lineCount),
     Json.member "percentage" share,
     Json.member "spans" (.list (metrics.rows.map rowValue))]

variable {metrics : Metrics} {most : Option Nat}

/-- A document is written when there is a percentage or no total to take it of. -/
theorem document_eq_ok_iff {text : String} :
    metrics.document = .ok text ↔
      ∃ percentage : Option Percentage, metrics.percentage = .ok percentage
        ∧ text = (metrics.valueBeside ((percentage.map fun value => .real value.real).getD .null)).written := by
  rw [document, map_eq_ok_iff]
  constructor
  · rintro ⟨value, valued, rfl⟩
    obtain ⟨percentage, computed, same⟩ := bind_eq_ok_iff.mp valued
    cases same
    exact ⟨percentage, computed, rfl⟩
  · rintro ⟨percentage, computed, rfl⟩
    exact ⟨_, bind_eq_ok_iff.mpr ⟨percentage, computed, rfl⟩, rfl⟩

theorem reread_rowValue (row : Row) : (rowValue row).reread = rowValue row :=
  rfl

theorem rereadItems_rows (rows : List Row) : Json.Value.rereadItems (rows.map rowValue) = rows.map rowValue := by
  induction rows with
  | nil => rfl
  | cons row rows hypothesis => rw [List.map_cons, Json.Value.rereadItems, hypothesis, reread_rowValue]

theorem reread_totalValue (lineCount : Option Nat) : (totalValue lineCount).reread = totalValue lineCount := by
  cases lineCount <;> rfl

/-- Only the percentage is read as another number. -/
theorem reread_valueBeside (share : Json.Value) (metrics : Metrics) :
    (metrics.valueBeside share).reread = metrics.valueBeside share.reread := by
  rw [valueBeside, valueBeside]
  simp only [Json.Value.reread, Json.Value.rereadMembers, Json.member, reread_totalValue, rereadItems_rows]

/-! ### Numbers -/

/-- The numbers in a document that are no percentage. -/
def numbers (metrics : Metrics) : List Nat :=
  metrics.unsafeLines :: metrics.lineCount.toList ++ metrics.rows.flatMap fun row =>
    [row.start.line, row.start.column, row.stop.line, row.stop.column, row.lineCount]

/-- A reader's bound on the digits of a number is kept. -/
def Short (most : Option Nat) (number : Nat) : Prop :=
  Json.isAbove most (Nat.toDigits 10 number).length = false

theorem legible_natural {number : Nat} (short : Short most number) : (Json.Value.integer number).Legible ⟨most, none⟩ := by
  rw [Json.Value.Legible, Int.natAbs_natCast]
  exact short

theorem legible_locationValue {location : Location} (line : Short most location.line)
    (column : Short most location.column) : (locationValue location).Legible ⟨most, none⟩ := by
  rw [locationValue, Json.Value.Legible]
  have differ : (["filename", "line", "column"].map Json.Text.ofString).Nodup := by decide
  refine ⟨_, rfl, differ, ?_⟩
  exact ⟨Json.isText_ofString _, Json.isText_ofString _, Json.isText_ofString _, legible_natural line,
    Json.isText_ofString _, legible_natural column, trivial⟩

theorem legible_rowValue {row : Row} (short : ∀ number ∈
    [row.start.line, row.start.column, row.stop.line, row.stop.column, row.lineCount], Short most number) :
    (rowValue row).Legible ⟨most, none⟩ := by
  simp only [List.forall_mem_cons] at short
  obtain ⟨startLine, startColumn, stopLine, stopColumn, lineCount, _⟩ := short
  rw [rowValue, Json.Value.Legible]
  have differ : (["start", "end", "num_lines"].map Json.Text.ofString).Nodup := by decide
  refine ⟨_, rfl, differ, ?_⟩
  exact ⟨Json.isText_ofString _, legible_locationValue startLine startColumn, Json.isText_ofString _,
    legible_locationValue stopLine stopColumn, Json.isText_ofString _, legible_natural lineCount, trivial⟩

theorem legibleItems_rows {rows : List Row} (legible : ∀ row ∈ rows, (rowValue row).Legible ⟨most, none⟩) :
    Json.Value.LegibleItems ⟨most, none⟩ (rows.map rowValue) := by
  induction rows with
  | nil => trivial
  | cons row rows hypothesis =>
    obtain ⟨here, others⟩ := List.forall_mem_cons.mp legible
    exact ⟨here, hypothesis others⟩

/-- The value of metrics is read when their numbers are within the bound. -/
theorem legible_valueBeside {share : Json.Value} (legible : share.Legible ⟨most, none⟩)
    (short : ∀ number ∈ metrics.numbers, Short most number) :
    (metrics.valueBeside share).Legible ⟨most, none⟩ := by
  rw [numbers, List.forall_mem_append, List.forall_mem_cons] at short
  obtain ⟨⟨unsafeLines, total⟩, rows⟩ := short
  have totalLegible : (totalValue metrics.lineCount).Legible ⟨most, none⟩ := by
    cases known : metrics.lineCount with
    | none => trivial
    | some count => exact legible_natural (total count (by rw [known]; exact .head _))
  have rowsLegible : Json.Value.LegibleItems ⟨most, none⟩ (metrics.rows.map rowValue) :=
    legibleItems_rows fun row member => legible_rowValue fun number known =>
      rows number (List.mem_flatMap.mpr ⟨row, member, known⟩)
  rw [valueBeside, Json.Value.Legible]
  have differ : (["total_unsafe", "total_lines", "percentage", "spans"].map Json.Text.ofString).Nodup := by decide
  refine ⟨_, rfl, differ, ?_⟩
  exact ⟨Json.isText_ofString _, legible_natural unsafeLines, Json.isText_ofString _, totalLegible,
    Json.isText_ofString _, legible, Json.isText_ofString _, ⟨_, rfl, rowsLegible⟩, trivial⟩

/-! ### What the value tells -/

theorem locationOfValue?_self (location : Location) :
    Row.locationOfValue? (locationValue location) = some location := by
  have file : (Json.Value.ofString location.file).characters? = some location.file :=
    congrArg some (Json.Text.toString_ofString location.file)
  have read : Row.locationOfValue? (locationValue location)
      = (Json.Value.ofString location.file).characters?.bind fun file =>
          locationOf? file location.line location.column := rfl
  rw [read, file, Option.bind_some, locationOf?_self]

theorem ofValue?_rowValue (row : Row) : Row.ofValue? (rowValue row) = some row := by
  have read : Row.ofValue? (rowValue row) = (Row.locationOfValue? (locationValue row.start)).bind fun start =>
      (Row.locationOfValue? (locationValue row.stop)).bind fun stop =>
        (Row.of start stop row.lineCount).toOption := rfl
  rw [read, locationOfValue?_self, Option.bind_some, locationOfValue?_self, Option.bind_some, Row.toOption_of_self]

theorem mapM_ofValue?_rows (rows : List Row) : (rows.map rowValue).mapM Row.ofValue? = some rows := by
  induction rows with
  | nil => rfl
  | cons row rows hypothesis =>
    simp only [List.map_cons, List.mapM_cons, ofValue?_rowValue, hypothesis, Option.bind_eq_bind, Option.bind_some]
    rfl

theorem totalOfValue?_totalValue (lineCount : Option Nat) : totalOfValue? (totalValue lineCount) = some lineCount := by
  cases lineCount <;> rfl

/-- The value of metrics tells them, whatever stands for the percentage. -/
theorem ofValue?_value (share : Json.Value) (metrics : Metrics) :
    ofValue? (metrics.valueBeside share) = some metrics := by
  have read : ofValue? (metrics.valueBeside share)
      = (totalOfValue? (totalValue metrics.lineCount)).bind fun lineCount =>
          ((metrics.rows.map rowValue).mapM Row.ofValue?).bind fun rows => some ⟨rows, lineCount⟩ := rfl
  rw [read, totalOfValue?_totalValue, mapM_ofValue?_rows]
  rfl

/-! ### Documents -/

/-- A document is read by every reader whose bound its numbers keep. -/
theorem read?_document (most : Option Nat) {text : String} (written : metrics.document = .ok text)
    (short : ∀ number ∈ metrics.numbers, Short most number) : read? most text = some metrics := by
  obtain ⟨percentage, _, rfl⟩ := document_eq_ok_iff.mp written
  have legible :
      ((percentage.map fun value => Json.Value.real value.real).getD .null).Legible ⟨most, none⟩ := by
    cases percentage <;> trivial
  have nothing : Json.AreBlanks [] := nofun
  have read := Json.readWithin_written (legible_valueBeside legible short) nothing (by simp [Json.Delimits])
  rw [List.append_nil, reread_valueBeside] at read
  rw [read?, read]
  exact ofValue?_value _ metrics

/-- **The document of metrics tells the metrics.** Whenever a percentage can be computed there is a document, in ASCII,
from which a reader gets all rows and the total or its absence; a reader with a bound on the digits of a number gets
them too when no number in the document has more. So metrics with the same document are the same. -/
theorem document_tells_metrics :
    (∀ (metrics : Metrics) (percentage : Option Percentage), metrics.percentage = .ok percentage →
      ∃ text, metrics.document = .ok text ∧ (∀ letter ∈ text.toList, letter.toNat < 128)
        ∧ read? none text = some metrics
        ∧ ∀ bound, (∀ number ∈ metrics.numbers, (Nat.toDigits 10 number).length ≤ bound) →
            read? (some bound) text = some metrics)
      ∧ ∀ (first second : Metrics) (text : String), first.document = .ok text → second.document = .ok text →
          first = second := by
  refine ⟨fun metrics percentage computed => ?_, fun first second text written written' => ?_⟩
  · have written := document_eq_ok_iff.mpr ⟨percentage, computed, rfl⟩
    refine ⟨_, written, Json.areAscii_written _, read?_document none written fun _ _ => rfl, fun bound within => ?_⟩
    refine read?_document _ written fun number member => ?_
    exact decide_eq_false (Nat.not_lt.mpr (within number member))
  · have both : some first = some second := by
      rw [← read?_document none written fun _ _ => rfl,
        read?_document none written' fun _ _ => rfl]
    exact Option.some.inj both

/-- Metrics of two rows. The first is of a file whose name has both quotes, a backslash, a line feed, a letter of two
bytes and one beyond sixteen bits, and the second ends in another file than it starts in. -/
def oddlyNamed : Metrics :=
  ⟨[.between ⟨"a\"b'\\c\nd\x7f\x01é😀.rs", 3, 4, by decide⟩ ⟨"a\"b'\\c\nd\x7f\x01é😀.rs", 5, 0, by decide⟩,
    .between ⟨"src/lib.rs", 7, 0, by decide⟩ ⟨"src/odd.rs", 12, 1, by decide⟩], some 40⟩

/-- These metrics have a percentage and numbers of two digits at most, so a document tells them, also to a reader of
two digits; without their total they have another document. -/
theorem document_tells_metrics_oddlyNamed :
    oddlyNamed.percentage = .ok (some ⟨false, 1750⟩)
      ∧ (∀ number ∈ oddlyNamed.numbers, (Nat.toDigits 10 number).length ≤ 2)
      ∧ (∃ text, oddlyNamed.document = .ok text ∧ read? none text = some oddlyNamed
          ∧ read? (some 2) text = some oddlyNamed)
      ∧ ∀ text, oddlyNamed.document = .ok text →
          ¬ (⟨oddlyNamed.rows, none⟩ : Metrics).document = .ok text := by
  have computed : oddlyNamed.percentage = .ok (some ⟨false, 1750⟩) := rfl
  have within : ∀ number ∈ oddlyNamed.numbers, (Nat.toDigits 10 number).length ≤ 2 := by decide +kernel
  obtain ⟨tells, apart⟩ := document_tells_metrics
  obtain ⟨text, written, _, read, readShort⟩ := tells oddlyNamed _ computed
  refine ⟨computed, within, ⟨text, written, read, readShort 2 within⟩, fun text written written' => ?_⟩
  exact absurd (apart _ _ text written written') (by decide)

end Metrics

end UnsafeCensus.Census
