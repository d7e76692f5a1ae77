/-
**A location stands for one position.**

Along the bytes of a file locations go forward: a line feed leads to the start of the next line, any other byte
leaves the line and goes on by one column at most. Between two characters of a text they go on by one column
with each character, so no two positions between characters share a location, in one file or in files of
different names.

* `located_succ`: one byte further;
* `columnAt_lt`: a position between two characters is left behind within its line;
* `AtBoundary`: the offsets of some files that are between two characters;
* `Location.text_injective`: what is told of a location determines it;
* `locations_ordered`: locations go forward, and stand for one position between characters.
-/

import Mathlib
import UnsafeCensus.Proofs.Source.Columns
import UnsafeCensus.Proofs.Source.Layout
import UnsafeCensus.Proofs.Text.Numerals

namespace UnsafeCensus.Source

/-! ### One byte further -/

namespace Location

/-- A location is at the start of the line after another one. -/
def NextLine (here next : Location) : Prop :=
  next.line = here.line + 1 ∧ next.column = 0

/-- A location is in the line of another one, in its column or in the one after. -/
def SameLine (here next : Location) : Prop :=
  next.line = here.line ∧ (next.column = here.column ∨ next.column = here.column + 1)

end Location

variable {data : ByteArray} {distance : Nat} {name : String}

/-- **One byte further** is the next line if it is a line feed, and otherwise the same line. -/
theorem located_succ (name : String) (inside : distance < data.size) :
    data[distance]? = some lineFeed
        ∧ (located name data distance).NextLine (located name data (distance + 1))
      ∨ data[distance]? ≠ some lineFeed
        ∧ (located name data distance).SameLine (located name data (distance + 1)) := by
  obtain ⟨byte, there, further⟩ := bytesBefore_succ inside
  have line : lineAt data (distance + 1) = lineAt data distance + [byte].count lineFeed := by
    rw [lineAt_eq inside, lineAt_eq inside.le, further, List.count_append]
    omega
  have column : columnAt data (distance + 1)
      = Utf8.characterCount (openLine (bytesBefore data distance ++ [byte])) := by
    rw [columnAt_eq inside, further]
  rw [openLine_concat] at column
  by_cases ends : byte = lineFeed
  · rw [if_pos ends] at column
    rw [ends, List.count_singleton_self] at line
    exact .inl ⟨ends ▸ there, line, column⟩
  · rw [if_neg ends] at column
    rw [List.count_singleton, beq_eq_false_iff_ne.mpr ends] at line
    have other : data[distance]? ≠ some lineFeed := by
      rw [there, ne_eq, Option.some.injEq]
      exact ends
    refine .inr ⟨other, line, ?_⟩
    show columnAt data (distance + 1) = columnAt data distance
      ∨ columnAt data (distance + 1) = columnAt data distance + 1
    rw [column, columnAt_eq inside.le]
    exact Utf8.characterCount_concat _ byte

/-! ### Between two characters -/

/-- A character that starts at a place is one more of those that start up to there. -/
theorem startsWithin_lt (front back : List Char) (letter : Char) {start : Nat}
    (early : start ≤ (Utf8.encoded front).length) :
    startsWithin (front ++ letter :: back) start (Utf8.encoded front).length
      < startsWithin (front ++ letter :: back) start ((Utf8.encoded front).length + 1) := by
  have wider (places : List Nat) :
      places.countP (fun place => start ≤ place ∧ place < (Utf8.encoded front).length)
        ≤ places.countP (fun place => start ≤ place ∧ place < (Utf8.encoded front).length + 1) := by
    refine List.countP_mono_left fun place _ held => ?_
    simp only [decide_eq_true_eq] at held ⊢
    omega
  have first := wider (Utf8.startsFrom 0 front)
  have last := wider (Utf8.startsFrom ((Utf8.encoded front).length + letter.utf8Size) back)
  unfold startsWithin
  rw [Utf8.startsFrom_append, Nat.zero_add, Utf8.startsFrom, List.countP_append, List.countP_append,
    List.countP_cons_of_neg (by simp), List.countP_cons_of_pos (by simp [early])]
  omega

/-- A later distance in the same line comes after a byte of the line. -/
theorem ne_lineFeed_of_lineAt_eq {later : Nat} (less : distance < later) (inside : later ≤ data.size)
    (sameLine : lineAt data distance = lineAt data later) :
    data[distance]? ≠ some lineFeed ∧ lineAt data (distance + 1) = lineAt data later := by
  have low := lineAt_mono data (show distance ≤ distance + 1 from Nat.le_succ distance)
  have high := lineAt_mono data (show distance + 1 ≤ later from less)
  rcases located_succ "" (less.trans_le inside) with ⟨_, next, _⟩ | ⟨other, _⟩
  · have further : lineAt data (distance + 1) = lineAt data distance + 1 := next
    omega
  · exact ⟨other, by omega⟩

/-- **A position between two characters is left behind**: a later one of its line has a greater column. -/
theorem columnAt_lt {front back : List Char} (later : (Utf8.encoded front).length < distance)
    (inside : distance ≤ (front ++ back).utf8Encode.size)
    (sameLine : lineAt (front ++ back).utf8Encode (Utf8.encoded front).length
      = lineAt (front ++ back).utf8Encode distance) :
    columnAt (front ++ back).utf8Encode (Utf8.encoded front).length
      < columnAt (front ++ back).utf8Encode distance := by
  obtain ⟨other, nextLine⟩ := ne_lineFeed_of_lineAt_eq later inside sameLine
  have line := startsLine_lastStart (later.le.trans inside)
  cases back with
  | nil =>
    rw [List.append_nil, size_utf8Encode] at inside
    exact absurd later (Nat.not_lt.mpr inside)
  | cons letter back =>
    calc columnAt (front ++ letter :: back).utf8Encode (Utf8.encoded front).length
        = startsWithin (front ++ letter :: back) _ (Utf8.encoded front).length :=
          columnAt_eq_countP (later.le.trans inside) line
      _ < startsWithin (front ++ letter :: back) _ ((Utf8.encoded front).length + 1) :=
          startsWithin_lt front back letter line.notAfter
      _ = columnAt (front ++ letter :: back).utf8Encode ((Utf8.encoded front).length + 1) :=
          (columnAt_eq_countP (Nat.le_trans later inside) (line.succ other)).symm
      _ ≤ columnAt (front ++ letter :: back).utf8Encode distance :=
          columnAt_mono later inside nextLine

/-- Two positions between the characters of a text that have the same location are the same. -/
theorem located_injective {text front back front' back' : List Char}
    (split : text = front ++ back) (split' : text = front' ++ back')
    (line : lineAt text.utf8Encode (Utf8.encoded front).length
      = lineAt text.utf8Encode (Utf8.encoded front').length)
    (column : columnAt text.utf8Encode (Utf8.encoded front).length
      = columnAt text.utf8Encode (Utf8.encoded front').length) :
    (Utf8.encoded front).length = (Utf8.encoded front').length := by
  have size {front back : List Char} (split : text = front ++ back) :
      (Utf8.encoded front).length ≤ text.utf8Encode.size := by
    rw [size_utf8Encode, split, Utf8.encoded_append, List.length_append]
    exact Nat.le_add_right _ _
  rcases Nat.lt_trichotomy (Utf8.encoded front).length (Utf8.encoded front').length with
    less | same | greater
  · have inside := size split'
    subst split
    exact absurd column (columnAt_lt less inside line).ne
  · exact same
  · have inside := size split
    subst split'
    exact absurd column (columnAt_lt greater inside line.symm).ne'

/-! ### Several files -/

/-- An offset of some files that is between two characters of a text, or where it starts or ends. -/
inductive AtBoundary : Contents → Nat → Prop
  | between (before after : Contents) (name : String) (front back : List Char) :
      AtBoundary (before ++ (name, (front ++ back).utf8Encode) :: after)
        (span before + (Utf8.encoded front).length)

/-- What is told of a location determines it. -/
theorem Location.text_injective {first second : Location} (same : first.text = second.text) :
    first = second := by
  obtain ⟨file, line, column, positive⟩ := first
  obtain ⟨file', line', column', positive'⟩ := second
  obtain ⟨place, rfl⟩ := colon_number_inj same
  obtain ⟨rfl, rfl⟩ := colon_number_inj place
  rfl

/-- A name stands for one file, where all names are different. -/
theorem part_unique {before before' after after' : Contents} {name : String} {data data' : ByteArray}
    (same : before ++ (name, data) :: after = before' ++ (name, data') :: after')
    (distinct : ((before ++ (name, data) :: after).map Prod.fst).Nodup) :
    before = before' ∧ data = data' := by
  have here : ((before ++ (name, data) :: after).map Prod.fst)[before.length]? = some name := by
    simp
  have there : ((before ++ (name, data) :: after).map Prod.fst)[before'.length]? = some name := by
    rw [same]
    simp
  have index := (List.getElem?_inj (by simp) distinct).mp (here.trans there.symm)
  obtain ⟨front, rest⟩ := List.append_inj same index
  rw [List.cons.injEq, Prod.mk.injEq] at rest
  exact ⟨front, rest.1.2⟩

theorem utf8Encode_injective {text text' : List Char} (same : text.utf8Encode = text'.utf8Encode) :
    text = text' := by
  refine String.ofList_injective (String.toByteArray_inj.mp ?_)
  rw [String.toByteArray_ofList, String.toByteArray_ofList, same]

namespace Map

/-- An offset between two characters is resolved in its file. -/
theorem resolve_between (before after : Contents) (name : String) (front back : List Char) :
    (ofFiles (before ++ (name, (front ++ back).utf8Encode) :: after)).resolve
        (span before + (Utf8.encoded front).length : Nat)
      = .ok (located name (front ++ back).utf8Encode (Utf8.encoded front).length) := by
  refine resolve_ofFiles before after name ?_
  rw [size_utf8Encode, Utf8.encoded_append, List.length_append]
  exact Nat.le_add_right _ _

/-- Two offsets between characters of files with different names that are told alike are the same. -/
theorem resolve_injective {files : Contents} (distinct : (files.map Prod.fst).Nodup) {first second : Nat}
    (boundary : AtBoundary files first) (boundary' : AtBoundary files second) :
    ∃ here there, (ofFiles files).resolve first = .ok here ∧ (ofFiles files).resolve second = .ok there
      ∧ (here.text = there.text → first = second) := by
  cases boundary with
  | between before after name front back =>
    generalize same : before ++ (name, (front ++ back).utf8Encode) :: after = files at boundary' distinct
    cases boundary' with
    | between before' after' name' front' back' =>
      refine ⟨_, _, same ▸ resolve_between before after name front back,
        resolve_between before' after' name' front' back', fun told => ?_⟩
      have equal := Location.text_injective told
      simp only [located, Location.mk.injEq] at equal
      obtain ⟨rfl, line, column⟩ := equal
      obtain ⟨rfl, data⟩ := part_unique same (same ▸ distinct)
      rw [← data] at line column
      rw [located_injective rfl (utf8Encode_injective data) line column]

end Map

/-- **Locations go forward and stand for one position.** In one file, of any bytes, a later distance has no
earlier location, and one byte further is the next line exactly after a line feed, and otherwise the same line
with one column more at most. Of files with different names, two offsets between characters are told apart. -/
theorem locations_ordered :
    (∀ (name : String) (start : Int) (data : ByteArray) (first second : Nat),
        first ≤ second → second ≤ data.size →
          ∃ here there, (File.ofData name start data).locate (start + first) = .ok here
            ∧ (File.ofData name start data).locate (start + second) = .ok there
            ∧ here.NotAfter there)
      ∧ (∀ (name : String) (start : Int) (data : ByteArray) (distance : Nat), distance < data.size →
          ∃ here next, (File.ofData name start data).locate (start + distance) = .ok here
            ∧ (File.ofData name start data).locate (start + (distance + 1 : Nat)) = .ok next
            ∧ (data[distance]? = some lineFeed ∧ here.NextLine next
              ∨ data[distance]? ≠ some lineFeed ∧ here.SameLine next))
      ∧ ∀ files : Contents, (files.map Prod.fst).Nodup →
          ∀ first second, AtBoundary files first → AtBoundary files second →
            ∃ here there, (Map.ofFiles files).resolve (first : Nat) = .ok here
              ∧ (Map.ofFiles files).resolve (second : Nat) = .ok there
              ∧ (here.text = there.text → first = second) := by
  refine ⟨fun name start data first second ordered inside => ?_,
    fun name start data distance inside => ?_, fun files distinct first second => ?_⟩
  · exact ⟨_, _, locate_ofData name start data first, locate_ofData name start data second,
      located_mono name ordered inside⟩
  · exact ⟨_, _, locate_ofData name start data distance, locate_ofData name start data (distance + 1),
      located_succ name inside⟩
  · exact Map.resolve_injective distinct

/-- Bytes that are no text: a character that is cut short, a letter and a line feed. -/
def cutBytes : ByteArray := ⟨#[0xE2, 0x82, 0x41, 0x0A]⟩

/-- Two texts, the first of which ends in a line feed. -/
def twoTexts : Contents := [("a.rs", "é\n".toUTF8), ("b.rs", "€x".toUTF8)]

/-- The malformed bytes go forward, to the next line at their end, and the end of the first text is told apart
from the start of the second. -/
theorem locations_ordered_cut :
    1 ≤ 4 ∧ 4 ≤ cutBytes.size ∧ 3 < cutBytes.size ∧ (twoTexts.map Prod.fst).Nodup
      ∧ AtBoundary twoTexts 3 ∧ AtBoundary twoTexts 4
      ∧ (∃ here there, (File.ofData "c.rs" 5 cutBytes).locate (5 + (1 : Nat)) = .ok here
          ∧ (File.ofData "c.rs" 5 cutBytes).locate (5 + (4 : Nat)) = .ok there ∧ here.NotAfter there)
      ∧ (∃ here next, (File.ofData "c.rs" 5 cutBytes).locate (5 + (3 : Nat)) = .ok here
          ∧ (File.ofData "c.rs" 5 cutBytes).locate (5 + (4 : Nat)) = .ok next ∧ here.NextLine next)
      ∧ ∃ here there, (Map.ofFiles twoTexts).resolve (3 : Nat) = .ok here
          ∧ (Map.ofFiles twoTexts).resolve (4 : Nat) = .ok there ∧ here.text ≠ there.text := by
  have inside : 4 ≤ cutBytes.size := by decide
  have distinct : (twoTexts.map Prod.fst).Nodup := by decide
  have atEnd : AtBoundary twoTexts 3 :=
    .between [] [("b.rs", "€x".toUTF8)] "a.rs" ['é', '\n'] []
  have atStart : AtBoundary twoTexts 4 :=
    .between [("a.rs", "é\n".toUTF8)] [] "b.rs" [] ['€', 'x']
  obtain ⟨ordered, steps, apart⟩ := locations_ordered
  obtain ⟨here, next, found, found', ⟨_, step⟩ | ⟨other, _⟩⟩ := steps "c.rs" 5 cutBytes 3 inside
  · obtain ⟨first, second, resolved, resolved', told⟩ := apart twoTexts distinct 3 4 atEnd atStart
    exact ⟨by decide, inside, inside, distinct, atEnd, atStart,
      ordered "c.rs" 5 cutBytes 1 4 (by decide) inside, ⟨here, next, found, found', step⟩,
      first, second, resolved, resolved', fun same => absurd (told same) (by decide)⟩
  · exact absurd (show cutBytes[3]? = some lineFeed by decide) other

end UnsafeCensus.Source
