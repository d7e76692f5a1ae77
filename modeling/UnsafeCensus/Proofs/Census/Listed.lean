/-
**Reading a listed row.**

A row is listed as a file, two numbers for where it starts, two for where it ends and its lines. The file may hold
any letters, the marks between the numbers too, so a listed row is read from its end: five times a number and the
mark before it are taken away, and the file is what is left.

* `Row.read?`: the row of a text, when there is one within a file;
* `read?_text`: a row within a file is read back from what is listed of it;
* `text_tells_row`: so rows within files are told apart by what is listed of them.
-/

import Mathlib
import UnsafeCensus.Census.Row
import UnsafeCensus.Proofs.Text.Numerals

namespace UnsafeCensus.Census

open Source

/-- The location of a file, a line and a column, if there are such a line and column. -/
def locationOf? (file : String) (line column : Nat) : Option Location :=
  (Location.of file line column).toOption

theorem locationOf?_self (location : Location) :
    locationOf? location.file location.line location.column = some location := by
  have positive := location.positive
  unfold locationOf? Location.of
  rw [dif_neg (by omega), if_neg (by omega)]
  rfl

namespace Row

/-- A row starts and ends in the same file. -/
def WithinFile (row : Row) : Prop :=
  row.start.file = row.stop.file

/-- The row that a text lists, which starts and ends in the same file. -/
def read? (text : String) : Option Row := do
  let (text, lineCount) ← numberAfter? "  " text
  let (text, stopColumn) ← numberAfter? ":" text
  let (text, stopLine) ← numberAfter? "-" text
  let (text, startColumn) ← numberAfter? ":" text
  let (file, startLine) ← numberAfter? ":" text
  let start ← locationOf? file startLine startColumn
  let stop ← locationOf? file stopLine stopColumn
  (Row.of start stop lineCount).toOption

theorem toOption_of_self (row : Row) :
    (Row.of row.start row.stop row.lineCount).toOption = some row := by
  have positive := row.positive
  unfold Row.of
  rw [dif_neg (by omega)]
  rfl

/-- **A row within a file is read back** from what is listed of it. -/
theorem read?_text {row : Row} (within : row.WithinFile) : read? row.text = some row := by
  have stop : locationOf? row.start.file row.stop.line row.stop.column = some row.stop := by
    rw [within]
    exact locationOf?_self row.stop
  unfold read? Row.text Location.text
  simp (disch := decide) only [numberAfter?_toString, Option.bind_eq_bind, Option.bind_some]
  rw [locationOf?_self, stop]
  exact toOption_of_self row

/-- **What is listed of a row within a file tells the row**: its file and its five numbers are read back from the
text, so two such rows are the same when their texts are. -/
theorem text_tells_row :
    (∀ row : Row, row.WithinFile → read? row.text = some row)
      ∧ ∀ first second : Row, first.WithinFile → second.WithinFile → first.text = second.text →
          first = second := by
  refine ⟨fun row within => read?_text within, fun first second within within' same => ?_⟩
  have both : some first = some second := by rw [← read?_text within, same, read?_text within']
  exact Option.some.inj both

/-- A file whose name ends like a listed row. -/
def imitatingFile : String := "a 1-2:3.rs:4:5-6:7  8"

/-- A row within this file. -/
def imitatingRow : Row :=
  .between ⟨imitatingFile, 9, 10, by decide⟩ ⟨imitatingFile, 11, 0, by decide⟩

/-- What is listed of this row. -/
def imitatingText : String := "a 1-2:3.rs:4:5-6:7  8:9:10-11:0  2"

/-- The row is read back from its text, and the row of its two ends and two lines, which is listed so too, is this
row. -/
theorem text_tells_row_imitating :
    imitatingRow.WithinFile ∧ read? imitatingText = some imitatingRow
      ∧ ∃ row : Row, Row.of imitatingRow.start imitatingRow.stop 2 = .ok row ∧ row.WithinFile
        ∧ row.text = imitatingText ∧ row = imitatingRow := by
  have within : imitatingRow.WithinFile := rfl
  have listed : imitatingRow.text = imitatingText := by decide +kernel
  obtain ⟨reads, tells⟩ := text_tells_row
  refine ⟨within, ?_, ⟨imitatingRow.start, imitatingRow.stop, 2, by decide⟩, rfl, rfl, listed, ?_⟩
  · rw [← listed]
    exact reads imitatingRow within
  · exact tells _ imitatingRow rfl within rfl

end Row

end UnsafeCensus.Census
