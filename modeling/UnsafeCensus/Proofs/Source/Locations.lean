/-
**Locations inside one file.**

The location of an offset is a function of the name, of the bytes and of the distance from the start of the
file alone, wherever the file stands in the space of offsets.

* `lineStarts_toList`: lines start at zero and after each line feed;
* `locate_ofData`: the search of a file finds `located`, for every distance up to its end;
* `countCharactersFrom_mono`: more bytes hold no fewer characters;
* `located_mono`: a later offset has no earlier location.
-/

import Mathlib
import UnsafeCensus.Proofs.Source.Search
import UnsafeCensus.Source.File

namespace UnsafeCensus.Source

/-! ### Lines -/

/-- Where the line feeds of some bytes stand. -/
def feeds (data : ByteArray) : List Nat :=
  (List.range data.size).filter fun index => data[index]? = some 0x0A

/-- The scan adds the offsets after the line feeds of the bytes that are left. -/
theorem lineStartsFrom_toList (data : ByteArray) (found : Array Int) (index left : Nat) :
    (lineStartsFrom data found index left).toList
      = found.toList ++ ((List.range' index left).filter fun place =>
          data[place]? = some 0x0A).map fun place : Nat => (place : Int) + 1 := by
  induction left generalizing found index with
  | zero => simp [lineStartsFrom]
  | succ left hypothesis =>
    rw [lineStartsFrom, List.range'_succ]
    by_cases feed : data[index]? = some 0x0A
    · rw [if_pos feed, hypothesis, List.filter_cons_of_pos (by simpa using feed)]
      simp
    · rw [if_neg feed, hypothesis, List.filter_cons_of_neg (by simpa using feed)]

/-- Lines start at zero and after each line feed. -/
theorem lineStarts_toList (data : ByteArray) :
    (lineStarts data).toList = 0 :: (feeds data).map fun place : Nat => (place : Int) + 1 := by
  rw [lineStarts, lineStartsFrom_toList, feeds, List.range_eq_range']
  rfl

theorem lineStarts_pairwise (data : ByteArray) :
    (lineStarts data).toList.Pairwise (· < ·) := by
  rw [lineStarts_toList, List.pairwise_cons]
  constructor
  · intro start member
    obtain ⟨place, _, rfl⟩ := List.mem_map.mp member
    omega
  · refine List.Pairwise.map _ (fun first second less => ?_)
      (List.Pairwise.filter _ List.pairwise_lt_range)
    omega

/-- The start of a line of some bytes. -/
def startOfLine (data : ByteArray) (index : Nat) : Int :=
  (lineStarts data)[index]?.getD 0

theorem lineStart_ofData (name : String) (start : Int) (data : ByteArray) :
    (File.ofData name start data).lineStart = startOfLine data := rfl

theorem startOfLine_zero (data : ByteArray) : startOfLine data 0 = 0 := by
  rw [startOfLine, ← Array.getElem?_toList, lineStarts_toList]
  rfl

theorem lineStarts_size_pos (data : ByteArray) : 0 < (lineStarts data).size := by
  rw [← Array.length_toList, lineStarts_toList, List.length_cons]
  exact Nat.succ_pos _

/-- The starts of lines are keys in ascending order. -/
theorem startOfLine_ascending (data : ByteArray) :
    Ascending (startOfLine data) (lineStarts data).size := by
  intro first second ordered bound
  rcases Nat.eq_or_lt_of_le ordered with rfl | less
  · exact le_rfl
  · have sorted := List.pairwise_iff_getElem.mp (lineStarts_pairwise data) first second
      (by simpa using less.trans bound) (by simpa using bound) less
    simp only [Array.getElem_toList] at sorted
    rw [startOfLine, startOfLine, Array.getElem?_eq_getElem bound,
      Array.getElem?_eq_getElem (less.trans bound)]
    exact sorted.le

/-- The line of a distance, counted from one. -/
def lineAt (data : ByteArray) (distance : Nat) : Nat :=
  upperBound (startOfLine data) (lineStarts data).size distance

theorem one_le_lineAt (data : ByteArray) (distance : Nat) : 1 ≤ lineAt data distance := by
  refine (lt_upperBound_iff (startOfLine_ascending data) distance (lineStarts_size_pos data)).mpr ?_
  rw [startOfLine_zero]
  exact Int.natCast_nonneg distance

theorem lineAt_mono (data : ByteArray) {first second : Nat} (ordered : first ≤ second) :
    lineAt data first ≤ lineAt data second :=
  upperBound_mono (startOfLine_ascending data) (by exact_mod_cast ordered)

/-! ### Columns -/

/-- A byte leaves no fewer characters, finished or not, than were there before it. -/
theorem finish_length_le_step (state : Utf8.State) (byte : UInt8) :
    (Utf8.finish state).length
      ≤ (Utf8.step state byte).1.length + (Utf8.finish (Utf8.step state byte).2).length := by
  cases state with
  | boundary => exact Nat.zero_le _
  | inside pending =>
    rw [Utf8.step]
    by_cases fits : pending.least ≤ byte ∧ byte ≤ pending.greatest
    · rw [if_pos fits]
      by_cases last : pending.owed ≤ 1 <;> simp [last, Utf8.finish]
    · rw [if_neg fits]
      exact Nat.le_add_right_of_le (Nat.succ_le_succ (Nat.zero_le _))

/-- No count is below what was counted before it. -/
theorem le_countCharactersFrom (data : ByteArray) (count : Nat) (state : Utf8.State)
    (index left : Nat) :
    count + (Utf8.finish state).length ≤ countCharactersFrom data count state index left := by
  induction left generalizing count state index with
  | zero => exact le_rfl
  | succ left hypothesis =>
    have step := finish_length_le_step state (data[index]?.getD 0)
    calc count + (Utf8.finish state).length
        ≤ count + (Utf8.step state (data[index]?.getD 0)).1.length
          + (Utf8.finish (Utf8.step state (data[index]?.getD 0)).2).length := by omega
      _ ≤ countCharactersFrom data count state index (left + 1) := hypothesis _ _ _

/-- More bytes hold no fewer characters. -/
theorem countCharactersFrom_mono (data : ByteArray) (count : Nat) (state : Utf8.State) (index : Nat)
    {fewer more : Nat} (ordered : fewer ≤ more) :
    countCharactersFrom data count state index fewer
      ≤ countCharactersFrom data count state index more := by
  induction fewer generalizing count state index more with
  | zero => exact le_countCharactersFrom data count state index more
  | succ fewer hypothesis =>
    obtain ⟨rest, rfl⟩ : ∃ rest, more = rest + 1 := ⟨more - 1, by omega⟩
    exact hypothesis _ _ _ (Nat.le_of_succ_le_succ ordered)

/-- The column of a distance. -/
def columnAt (data : ByteArray) (distance : Nat) : Nat :=
  countCharacters data (clampBound data.size (startOfLine data (lineAt data distance - 1)))
    (clampBound data.size distance)

theorem clampBound_natCast {size bound : Nat} (inside : bound ≤ size) :
    clampBound size bound = bound := by
  rw [clampBound, if_neg (by omega), Int.toNat_natCast, Nat.min_eq_right inside]

/-- Within one line a later distance has no smaller column. -/
theorem columnAt_mono {data : ByteArray} {first second : Nat} (ordered : first ≤ second)
    (inside : second ≤ data.size) (sameLine : lineAt data first = lineAt data second) :
    columnAt data first ≤ columnAt data second := by
  rw [columnAt, columnAt, sameLine, clampBound_natCast inside,
    clampBound_natCast (ordered.trans inside)]
  exact countCharactersFrom_mono _ _ _ _ (Nat.sub_le_sub_right ordered _)

/-! ### Locations -/

/-- The location of a distance from the start of a file. -/
def located (name : String) (data : ByteArray) (distance : Nat) : Location :=
  ⟨name, lineAt data distance, columnAt data distance, one_le_lineAt data distance⟩

/-- A file finds the location of an offset wherever it stands. -/
theorem locate_ofData (name : String) (start : Int) (data : ByteArray) (distance : Nat) :
    (File.ofData name start data).locate (start + distance) = .ok (located name data distance) := by
  have apart : start + (distance : Int) - (File.ofData name start data).start = distance :=
    add_sub_cancel_left start _
  have line := one_le_lineAt data distance
  unfold File.locate
  simp only [apart]
  rw [lineStart_ofData]
  show Location.of name (lineAt data distance : Nat) (columnAt data distance : Nat) = _
  rw [Location.of, dif_neg (by omega), if_neg (by omega)]
  rfl

namespace Location

/-- Whether a location does not stand after another, by its line and then by its column. -/
def NotAfter (first second : Location) : Prop :=
  first.line < second.line ∨ first.line = second.line ∧ first.column ≤ second.column

instance (first second : Location) : Decidable (first.NotAfter second) :=
  inferInstanceAs (Decidable (_ ∨ _))

end Location

/-- A later offset of a file has no earlier location. -/
theorem located_mono (name : String) {data : ByteArray} {first second : Nat}
    (ordered : first ≤ second) (inside : second ≤ data.size) :
    (located name data first).NotAfter (located name data second) := by
  rcases Nat.lt_or_eq_of_le (lineAt_mono data ordered) with less | same
  · exact Or.inl less
  · exact Or.inr ⟨same, columnAt_mono ordered inside same⟩

end UnsafeCensus.Source
