/-
**Lines count line feeds, columns count characters.**

What a file tells of a distance is said by counting: the line feeds before it, and the characters that the bytes
from the start of its line on are read as. Where the bytes are those of a text these are the characters that
start in the line before the distance, also when the distance is inside a character.

* `StartsLine`: the place where the line of a distance starts;
* `startsLine_lastStart`, `StartsLine.unique`: it is there, and there is no other;
* `columnAt_eq_countP`: the column in a text;
* `locate_counts_characters`: what a file tells of any distance.
-/

import Mathlib
import UnsafeCensus.Proofs.Source.Lines
import UnsafeCensus.Proofs.Text.Starts

namespace UnsafeCensus.Source

variable {data : ByteArray} {distance start : Nat}

/-! ### The start of a line -/

/-- A place not after a distance: the first of all, or one after a line feed, with no line feed from there to
the distance. -/
structure StartsLine (data : ByteArray) (distance start : Nat) : Prop where
  notAfter : start ≤ distance
  fresh : start = 0 ∨ ∃ place, start = place + 1 ∧ data[place]? = some lineFeed
  unbroken : ∀ place, start ≤ place → place < distance → data[place]? ≠ some lineFeed

/-- A line starts in one place only. -/
theorem StartsLine.unique {other : Nat} (first : StartsLine data distance start)
    (second : StartsLine data distance other) : start = other := by
  have notBefore {start other : Nat} (first : StartsLine data distance start)
      (second : StartsLine data distance other) : other ≤ start := by
    by_contra before
    have notAfter := second.notAfter
    rcases second.fresh with zero | ⟨place, after, feed⟩
    · omega
    · exact first.unbroken place (by omega) (by omega) feed
  exact Nat.le_antisymm (notBefore second first) (notBefore first second)

/-- A byte that is no line feed leaves the line. -/
theorem StartsLine.succ (line : StartsLine data distance start) (other : data[distance]? ≠ some lineFeed) :
    StartsLine data (distance + 1) start where
  notAfter := line.notAfter.trans (Nat.le_succ distance)
  fresh := line.fresh
  unbroken place after before := by
    rcases Nat.lt_succ_iff_lt_or_eq.mp before with earlier | rfl
    · exact line.unbroken place after earlier
    · exact other

/-- A line feed starts a line after it, any other byte none. -/
theorem lastStart_succ {byte : UInt8} (there : data[distance]? = some byte) :
    lastStart data (distance + 1) = if byte = lineFeed then distance + 1 else lastStart data distance := by
  unfold lastStart
  rw [feedsFrom_succ there]
  by_cases ends : byte = lineFeed
  · rw [if_pos ends, if_pos ends, List.map_append, List.map_singleton]
    simp
  · rw [if_neg ends, if_neg ends, List.append_nil]

theorem startsLine_lastStart (inside : distance ≤ data.size) :
    StartsLine data distance (lastStart data distance) := by
  induction distance with
  | zero => exact ⟨Nat.le_refl 0, .inl rfl, fun place _ below => absurd below (Nat.not_lt_zero place)⟩
  | succ distance hypothesis =>
    obtain ⟨byte, there, _⟩ := bytesBefore_succ inside
    have line := hypothesis (Nat.le_of_succ_le inside)
    rw [lastStart_succ there]
    by_cases ends : byte = lineFeed
    · rw [if_pos ends]
      exact ⟨le_rfl, .inr ⟨distance, rfl, ends ▸ there⟩, fun place after before => by omega⟩
    · rw [if_neg ends]
      refine line.succ ?_
      rw [there, ne_eq, Option.some.injEq]
      exact ends

/-- The bytes of a line before a distance. -/
def lineBefore (data : ByteArray) (start distance : Nat) : List UInt8 :=
  (bytesBefore data distance).drop start

/-- The column is the number of characters that the bytes of the line before the distance are read as. -/
theorem columnAt_eq_length (inside : distance ≤ data.size) (line : StartsLine data distance start)
    {letters : List Char} (reads : Utf8.Reads (lineBefore data start distance) letters) :
    columnAt data distance = letters.length := by
  have same := line.unique (startsLine_lastStart inside)
  rw [lineBefore, same, drop_lastStart inside] at reads
  rw [columnAt_eq inside, reads.characterCount_eq]

/-! ### The bytes of a text -/

variable {text : List Char}

theorem bytesOf_utf8Encode (text : List Char) : bytesOf text.utf8Encode = Utf8.encoded text := by
  rw [bytesOf, List.utf8Encode, List.toList_data_toByteArray, Utf8.encoded]

theorem size_utf8Encode (text : List Char) : text.utf8Encode.size = (Utf8.encoded text).length := by
  rw [← length_bytesOf, bytesOf_utf8Encode]

/-- A line of a text starts between two characters. -/
theorem StartsLine.exists_split (line : StartsLine text.utf8Encode distance start) :
    ∃ before after, text = before ++ after ∧ start = (Utf8.encoded before).length := by
  rcases line.fresh with zero | ⟨place, rfl, feed⟩
  · exact ⟨[], text, rfl, zero⟩
  · rw [← getElem?_bytesOf, bytesOf_utf8Encode] at feed
    obtain ⟨before, letter, rest, rfl, rfl, alone⟩ := Utf8.exists_split_of_ascii feed (by decide)
    refine ⟨before ++ [letter], rest, by rw [List.append_assoc, List.singleton_append], ?_⟩
    rw [Utf8.encoded_append, Utf8.encoded_cons, alone, Utf8.encoded_nil, List.append_nil,
      List.length_append, List.length_singleton]

/-- How many characters of a text start in a range of offsets. -/
def startsWithin (text : List Char) (start stop : Nat) : Nat :=
  (Utf8.startsFrom 0 text).countP fun place => start ≤ place ∧ place < stop

/-- **The column in a text** is the number of characters that start in the line before the distance. -/
theorem columnAt_eq_countP (inside : distance ≤ text.utf8Encode.size)
    (line : StartsLine text.utf8Encode distance start) :
    columnAt text.utf8Encode distance = startsWithin text start distance := by
  obtain ⟨before, after, rfl, rfl⟩ := line.exists_split
  have apart := line.notAfter
  obtain ⟨letters, reads, counted⟩ := Utf8.reads_take after (Utf8.encoded before).length
    (distance - (Utf8.encoded before).length)
  rw [startsWithin, Utf8.countP_startsFrom_range]
  rw [Nat.add_sub_cancel' apart] at counted
  rw [← counted]
  refine columnAt_eq_length inside line ?_
  rw [lineBefore, bytesBefore, bytesOf_utf8Encode, Utf8.encoded_append, List.drop_take, List.drop_left]
  exact reads

/-! ### What a file tells -/

/-- A file tells that a distance is in a line and a column: a line more than there are line feeds before it, and
the number of characters that the bytes from the start of the line on are read as. -/
structure Counted (data : ByteArray) (distance : Nat) (location : Location) : Prop where
  line : location.line = 1 + (bytesBefore data distance).count lineFeed
  column : ∃ start letters, StartsLine data distance start
    ∧ Utf8.Reads (lineBefore data start distance) letters ∧ location.column = letters.length

/-- **Lines count line feeds and columns count characters.** The location of any distance up to the end of a
file is counted, and in a text its column is the number of characters that start in its line before it. -/
theorem locate_counts_characters (name : String) (place : Int) (data : ByteArray) (distance : Nat)
    (inside : distance ≤ data.size) :
    ∃ location, (File.ofData name place data).locate (place + distance) = .ok location
      ∧ location.file = name
      ∧ Counted data distance location
      ∧ ∀ text : List Char, data = text.utf8Encode → ∀ start, StartsLine data distance start →
          location.column = startsWithin text start distance := by
  refine ⟨located name data distance, locate_ofData name place data distance, rfl, ⟨?_, ?_⟩, ?_⟩
  · rw [Nat.add_comm]
    exact lineAt_eq inside
  · have line := startsLine_lastStart inside
    have reads := Utf8.reads_iff.mpr (rfl : Utf8.decode (lineBefore data (lastStart data distance) distance) = _)
    exact ⟨_, _, line, reads, columnAt_eq_length inside line reads⟩
  · rintro text rfl start line
    exact columnAt_eq_countP inside line

/-- A text of two lines, with characters of two and of three bytes. -/
def twoLines : List Char := ['é', '\n', '€', 'x']

theorem startsLine_twoLines : StartsLine twoLines.utf8Encode 5 3 where
  notAfter := by decide
  fresh := .inr ⟨2, rfl, by decide +kernel⟩
  unbroken place after before := by
    obtain rfl | rfl : place = 3 ∨ place = 4 := by omega
    all_goals decide +kernel

/-- After two of the three bytes of a character, which is the only one that starts in the line before. -/
theorem locate_counts_characters_inside :
    5 ≤ twoLines.utf8Encode.size
      ∧ StartsLine twoLines.utf8Encode 5 3
      ∧ ∃ location, (File.ofData "a.rs" 7 twoLines.utf8Encode).locate (7 + (5 : Nat)) = .ok location
        ∧ location.line = 2 ∧ location.column = 1 := by
  have inside : 5 ≤ twoLines.utf8Encode.size := by decide +kernel
  obtain ⟨location, found, _, counted, characters⟩ :=
    locate_counts_characters "a.rs" 7 twoLines.utf8Encode 5 inside
  have feeds : 1 + (bytesBefore twoLines.utf8Encode 5).count lineFeed = 2 := by decide +kernel
  have starts : startsWithin twoLines 3 5 = 1 := by decide +kernel
  exact ⟨inside, startsLine_twoLines, location, found, counted.line.trans feeds,
    (characters twoLines rfl 3 startsLine_twoLines).trans starts⟩

/-- A surrogate is three pieces, and a character that is cut short is one. -/
example : columnAt ⟨#[0xED, 0xA0, 0x80, 0xF0, 0x9F, 0x98, 0x41]⟩ 7 = 5 := by decide +kernel

end UnsafeCensus.Source
