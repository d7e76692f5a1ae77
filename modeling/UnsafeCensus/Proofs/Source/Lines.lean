/-
**Lines and columns by counting.**

A search among the starts of lines comes to a count: the line of a distance is one more than the line feeds
before it, and its column is the number of characters after the last of them. So a location depends on the
bytes before it alone.

* `bytesOf`, `bytesBefore`: the bytes of a file, and those before a distance;
* `openLine`: the bytes after the last line feed;
* `lineAt_eq`, `columnAt_eq`: the line and the column of a distance;
* `size_lineStarts`, `lineCount_ofData`: the starts of lines and the lines of a file.
-/

import Mathlib
import UnsafeCensus.Proofs.Source.Locations

namespace UnsafeCensus.Source

/-- The byte that ends a line. -/
def lineFeed : UInt8 := 0x0A

/-- The bytes of a file. -/
def bytesOf (data : ByteArray) : List UInt8 :=
  data.data.toList

/-- The bytes of a file before a distance. -/
def bytesBefore (data : ByteArray) (distance : Nat) : List UInt8 :=
  (bytesOf data).take distance

/-- The bytes after the last line feed. -/
def openLine (bytes : List UInt8) : List UInt8 :=
  bytes.rtakeWhile (· != lineFeed)

theorem openLine_concat (bytes : List UInt8) (byte : UInt8) :
    openLine (bytes ++ [byte]) = if byte = lineFeed then [] else openLine bytes ++ [byte] := by
  unfold openLine
  rw [List.rtakeWhile_concat]
  by_cases ends : byte = lineFeed <;> simp [ends]

variable {data : ByteArray} {distance : Nat}

@[simp] theorem length_bytesOf (data : ByteArray) : (bytesOf data).length = data.size := rfl

theorem getElem?_bytesOf (data : ByteArray) (index : Nat) : (bytesOf data)[index]? = data[index]? := by
  unfold bytesOf
  rw [Array.getElem?_toList]
  rfl

theorem bytesBefore_size (data : ByteArray) : bytesBefore data data.size = bytesOf data :=
  List.take_length

theorem length_bytesBefore (inside : distance ≤ data.size) :
    (bytesBefore data distance).length = distance := by
  rw [bytesBefore, List.length_take, length_bytesOf, Nat.min_eq_left inside]

/-- One byte further. -/
theorem bytesBefore_succ (inside : distance < data.size) :
    ∃ byte, data[distance]? = some byte
      ∧ bytesBefore data (distance + 1) = bytesBefore data distance ++ [byte] := by
  have there : distance < (bytesOf data).length := inside
  refine ⟨(bytesOf data)[distance], ?_, List.take_succ_eq_append_getElem there⟩
  rw [← getElem?_bytesOf, List.getElem?_eq_getElem there]

/-! ### The starts of lines before a distance -/

/-- The line feeds from one distance on that are before another. -/
def feedsFrom (data : ByteArray) (first count : Nat) : List Nat :=
  (List.range' first count).filter fun index => data[index]? = some lineFeed

theorem feeds_eq_append (inside : distance ≤ data.size) :
    feeds data = feedsFrom data 0 distance ++ feedsFrom data distance (data.size - distance) := by
  have whole : data.size = distance + (data.size - distance) := by omega
  unfold feeds feedsFrom
  rw [List.range_eq_range', ← List.filter_append]
  conv_lhs => rw [whole]
  rw [← List.range'_append_1, Nat.zero_add]
  rfl

theorem feedsFrom_succ {byte : UInt8} (there : data[distance]? = some byte) :
    feedsFrom data 0 (distance + 1)
      = feedsFrom data 0 distance ++ if byte = lineFeed then [distance] else [] := by
  unfold feedsFrom
  rw [← List.range'_append_1, List.filter_append, Nat.zero_add]
  by_cases ends : byte = lineFeed <;> simp [there, ends]

/-- The start of the line that a distance is in. -/
def lastStart (data : ByteArray) (distance : Nat) : Nat :=
  ((feedsFrom data 0 distance).map (· + 1)).getLastD 0

/-- As many line feeds are found before a distance as there are bytes of this kind. -/
theorem length_feedsFrom (inside : distance ≤ data.size) :
    (feedsFrom data 0 distance).length = (bytesBefore data distance).count lineFeed := by
  induction distance with
  | zero => rfl
  | succ distance hypothesis =>
    obtain ⟨byte, there, further⟩ := bytesBefore_succ inside
    rw [feedsFrom_succ there, further, List.length_append, List.count_append,
      hypothesis (Nat.le_of_succ_le inside)]
    by_cases ends : byte = lineFeed <;> simp [ends]

/-- The line that a distance is in starts as far before it as the open line is long. -/
theorem lastStart_add_length (inside : distance ≤ data.size) :
    lastStart data distance + (openLine (bytesBefore data distance)).length = distance := by
  induction distance with
  | zero => rfl
  | succ distance hypothesis =>
    have start := hypothesis (Nat.le_of_succ_le inside)
    obtain ⟨byte, there, further⟩ := bytesBefore_succ inside
    rw [further, openLine_concat]
    unfold lastStart at start ⊢
    rw [feedsFrom_succ there]
    by_cases ends : byte = lineFeed
    · simp [ends]
    · simp only [if_neg ends, List.append_nil, List.length_append, List.length_singleton]
      omega

/-- The starts of lines are those up to a distance and those after it. -/
theorem lineStarts_eq_append (inside : distance ≤ data.size) :
    (lineStarts data).toList
      = (0 :: (feedsFrom data 0 distance).map (· + 1)).map Int.ofNat
        ++ ((feedsFrom data distance (data.size - distance)).map (· + 1)).map Int.ofNat := by
  rw [lineStarts_toList, feeds_eq_append inside, List.map_append, List.map_cons, List.cons_append]
  simp only [List.map_map]
  rfl

theorem le_of_mem_feedsFrom {place count : Nat} (member : place ∈ feedsFrom data distance count) :
    distance ≤ place := by
  have range := List.mem_of_mem_filter member
  rw [List.mem_range'_1] at range
  exact range.1

/-- The start of the line that comes after as many others as there are line feeds before a distance. -/
theorem startOfLine_length (inside : distance ≤ data.size) :
    startOfLine data (feedsFrom data 0 distance).length = lastStart data distance := by
  have last (starts : List Nat) : (0 :: starts)[starts.length]? = some (starts.getLastD 0) := by
    rcases List.eq_nil_or_concat starts with rfl | ⟨initial, final, rfl⟩ <;> simp
  have known := last ((feedsFrom data 0 distance).map (· + 1))
  rw [List.length_map] at known
  unfold startOfLine lastStart
  rw [← Array.getElem?_toList, lineStarts_eq_append inside, List.getElem?_append_left (by simp),
    List.getElem?_map, known]
  rfl

/-- The line after the one that a distance is in starts after the distance. -/
theorem lt_startOfLine (inside : distance ≤ data.size)
    (next : (feedsFrom data 0 distance).length + 1 < (lineStarts data).size) :
    (distance : Int) < startOfLine data ((feedsFrom data 0 distance).length + 1) := by
  unfold startOfLine
  rw [← Array.length_toList, lineStarts_eq_append inside] at next
  rw [← Array.getElem?_toList, lineStarts_eq_append inside, List.getElem?_append_right (by simp)]
  cases further : feedsFrom data distance (data.size - distance) with
  | nil => simp [further] at next
  | cons place rest =>
    have after := le_of_mem_feedsFrom (further ▸ List.mem_cons_self :
      place ∈ feedsFrom data distance (data.size - distance))
    have first : distance < place + 1 := Nat.lt_succ_of_le after
    simpa using first

/-- The line of a distance comes after as many others as there are line feeds before it. -/
theorem lineAt_eq_length (inside : distance ≤ data.size) :
    lineAt data distance = (feedsFrom data 0 distance).length + 1 := by
  have bound : (feedsFrom data 0 distance).length < (lineStarts data).size := by
    rw [← Array.length_toList, lineStarts_eq_append inside]
    simp
  have notAbove : startOfLine data (feedsFrom data 0 distance).length ≤ distance := by
    have start := lastStart_add_length inside
    rw [startOfLine_length inside]
    omega
  exact upperBound_eq (startOfLine_ascending data) bound notAbove (lt_startOfLine inside)

/-- **The line of a distance** is one more than the line feeds before it. -/
theorem lineAt_eq (inside : distance ≤ data.size) :
    lineAt data distance = (bytesBefore data distance).count lineFeed + 1 := by
  rw [lineAt_eq_length inside, length_feedsFrom inside]

/-! ### Columns -/

/-- Counting over indices is counting over the bytes there. -/
theorem countCharactersFrom_eq (data : ByteArray) (count : Nat) (state : Utf8.State) (index left : Nat)
    (inside : index + left ≤ data.size) :
    countCharactersFrom data count state index left
      = Utf8.countFrom count state (((bytesOf data).drop index).take left) := by
  induction left generalizing count state index with
  | zero => rfl
  | succ left hypothesis =>
    have there : index < (bytesOf data).length := by
      rw [length_bytesOf]
      omega
    have byte : data[index]?.getD 0 = (bytesOf data)[index] := by
      rw [← getElem?_bytesOf, List.getElem?_eq_getElem there, Option.getD_some]
    rw [List.drop_eq_getElem_cons there, List.take_succ_cons, countCharactersFrom, byte,
      Utf8.countFrom]
    exact hypothesis _ _ _ (by omega)

/-- What is left of the bytes before a distance from the start of its line on is the open line. -/
theorem drop_lastStart (inside : distance ≤ data.size) :
    (bytesBefore data distance).drop (lastStart data distance) = openLine (bytesBefore data distance) := by
  have start := lastStart_add_length inside
  have length := length_bytesBefore inside
  obtain ⟨front, split⟩ := List.rtakeWhile_suffix (· != lineFeed) (bytesBefore data distance)
  have apart := congrArg List.length split
  rw [List.length_append, length] at apart
  have front_length : front.length = lastStart data distance := by
    unfold openLine at start
    omega
  rw [← front_length]
  conv_lhs => rw [← split]
  exact List.drop_left

/-- **The column of a distance** is the number of characters after the last line feed before it. -/
theorem columnAt_eq (inside : distance ≤ data.size) :
    columnAt data distance = Utf8.characterCount (openLine (bytesBefore data distance)) := by
  have start := lastStart_add_length inside
  have first : startOfLine data (lineAt data distance - 1) = lastStart data distance := by
    rw [lineAt_eq_length inside, Nat.add_sub_cancel]
    exact startOfLine_length inside
  unfold columnAt countCharacters Utf8.characterCount
  rw [first, clampBound_natCast (by omega), clampBound_natCast inside,
    countCharactersFrom_eq _ _ _ _ _ (by omega), ← drop_lastStart inside, bytesBefore, List.drop_take]

/-! ### The lines of a file -/

/-- One start of a line more than there are line feeds. -/
theorem size_lineStarts (data : ByteArray) :
    (lineStarts data).size = (bytesOf data).count lineFeed + 1 := by
  have counted := length_feedsFrom (Nat.le_refl data.size)
  rw [bytesBefore_size] at counted
  rw [← Array.length_toList, lineStarts_eq_append (Nat.le_refl data.size), ← counted]
  simp [feedsFrom]

/-- The lines of a file: its line feeds, and one more for an open line at its end. -/
theorem lineCount_ofData (name : String) (start : Int) (data : ByteArray) :
    (File.ofData name start data).lineCount
      = (bytesOf data).count lineFeed + if openLine (bytesOf data) = [] then 0 else 1 := by
  have final : data[data.size - 1]? = (bytesOf data).getLast? := by
    rw [← getElem?_bytesOf, List.getLast?_eq_getElem?, length_bytesOf]
  unfold File.lineCount
  simp only [File.ofData, size_lineStarts, Nat.add_sub_cancel, final]
  rw [← length_bytesOf]
  induction bytesOf data using List.reverseRecOn with
  | nil => rfl
  | append_singleton initial last _ =>
    rw [openLine_concat, List.getLast?_concat]
    by_cases ends : last = lineFeed
    · simp [ends, lineFeed]
    · have other : last ≠ 0x0A := ends
      simp [ends, other]

end UnsafeCensus.Source
