/-
**Line ends of two bytes.**

A carriage return put in before each line feed moves the bytes after it, and with them the files after it, but
no location: an offset that is moved by the carriage returns before it is in the same line and in the same
column, and each file keeps its number of lines.

* `withReturns`, `returned`: bytes, and a file, with a carriage return before each line feed;
* `returnsBefore`, `moved`: the carriage returns put in before an offset of some files, and the offset that
  this moves it to;
* `bytesBefore_returned`: the bytes before a moved distance are the bytes before the distance, with returns;
* `located_returned`: a moved distance has the location of the distance;
* `resolve_moved`, `lineCount_returnedAll`: so have the offsets of all files, and the lines stay.
-/

import Mathlib
import UnsafeCensus.Proofs.Source.Lines
import UnsafeCensus.Proofs.Source.Partition

namespace UnsafeCensus.Source

/-! ### Bytes -/

/-- The byte put in before each line feed. -/
def carriageReturn : UInt8 := 0x0D

/-- Some bytes with a carriage return put in before each line feed. -/
def withReturns (bytes : List UInt8) : List UInt8 :=
  bytes.flatMap fun byte => if byte = lineFeed then [carriageReturn, lineFeed] else [byte]

theorem withReturns_append (first second : List UInt8) :
    withReturns (first ++ second) = withReturns first ++ withReturns second := by
  unfold withReturns
  rw [List.flatMap_append]

theorem withReturns_singleton (byte : UInt8) :
    withReturns [byte] = if byte = lineFeed then [carriageReturn, lineFeed] else [byte] := by
  unfold withReturns
  rw [List.flatMap_singleton]

/-- One byte more for each line feed. -/
theorem length_withReturns (bytes : List UInt8) :
    (withReturns bytes).length = bytes.length + bytes.count lineFeed := by
  induction bytes using List.reverseRecOn with
  | nil => rfl
  | append_singleton initial last hypothesis =>
    rw [withReturns_append, withReturns_singleton, List.length_append, List.length_append,
      List.count_append, hypothesis]
    by_cases ends : last = lineFeed
    · simp [ends]
      omega
    · simp [ends]
      omega

/-- No line feed is put in. -/
theorem count_withReturns (bytes : List UInt8) :
    (withReturns bytes).count lineFeed = bytes.count lineFeed := by
  induction bytes using List.reverseRecOn with
  | nil => rfl
  | append_singleton initial last hypothesis =>
    rw [withReturns_append, withReturns_singleton, List.count_append, List.count_append, hypothesis]
    by_cases ends : last = lineFeed
    · rw [if_pos ends, ends]
      rfl
    · rw [if_neg ends]

/-- The open line has no line feed, so nothing is put into it. -/
theorem openLine_withReturns (bytes : List UInt8) : openLine (withReturns bytes) = openLine bytes := by
  induction bytes using List.reverseRecOn with
  | nil => rfl
  | append_singleton initial last hypothesis =>
    rw [withReturns_append, withReturns_singleton, openLine_concat]
    by_cases ends : last = lineFeed
    · have pair : withReturns initial ++ [carriageReturn, lineFeed]
          = (withReturns initial ++ [carriageReturn]) ++ [lineFeed] := by simp
      rw [if_pos ends, if_pos ends, pair, openLine_concat, if_pos rfl]
    · rw [if_neg ends, if_neg ends, openLine_concat, if_neg ends, hypothesis]

/-! ### A file -/

/-- A file with a carriage return put in before each line feed. -/
def returned (data : ByteArray) : ByteArray :=
  ⟨(withReturns (bytesOf data)).toArray⟩

variable {data : ByteArray} {distance : Nat}

theorem bytesOf_returned (data : ByteArray) : bytesOf (returned data) = withReturns (bytesOf data) := rfl

theorem size_returned (data : ByteArray) :
    (returned data).size = data.size + (bytesOf data).count lineFeed := by
  rw [← length_bytesOf, bytesOf_returned, length_withReturns, length_bytesOf]

/-- The carriage returns put in before a distance. -/
def returnsWithin (data : ByteArray) (distance : Nat) : Nat :=
  (bytesBefore data distance).count lineFeed

/-- The bytes before a moved distance are those before the distance, with a carriage return put in before each
line feed. -/
theorem bytesBefore_returned (inside : distance ≤ data.size) :
    bytesBefore (returned data) (distance + returnsWithin data distance)
      = withReturns (bytesBefore data distance) := by
  have length : distance + returnsWithin data distance
      = (withReturns (bytesBefore data distance)).length := by
    rw [length_withReturns, length_bytesBefore inside, returnsWithin]
  have split : bytesOf (returned data)
      = withReturns (bytesBefore data distance) ++ withReturns ((bytesOf data).drop distance) := by
    rw [bytesOf_returned, ← withReturns_append, bytesBefore, List.take_append_drop]
  rw [length]
  unfold bytesBefore at split ⊢
  rw [split, List.take_left]

theorem moved_le_size_returned (inside : distance ≤ data.size) :
    distance + returnsWithin data distance ≤ (returned data).size := by
  have fewer : returnsWithin data distance ≤ (bytesOf data).count lineFeed :=
    (List.take_sublist distance (bytesOf data)).count_le lineFeed
  rw [size_returned]
  omega

/-- A moved distance is in the line of the distance. -/
theorem lineAt_returned (inside : distance ≤ data.size) :
    lineAt (returned data) (distance + returnsWithin data distance) = lineAt data distance := by
  rw [lineAt_eq (moved_le_size_returned inside), bytesBefore_returned inside, count_withReturns,
    lineAt_eq inside]

/-- A moved distance is in the column of the distance. -/
theorem columnAt_returned (inside : distance ≤ data.size) :
    columnAt (returned data) (distance + returnsWithin data distance) = columnAt data distance := by
  rw [columnAt_eq (moved_le_size_returned inside), bytesBefore_returned inside, openLine_withReturns,
    columnAt_eq inside]

/-- **A moved distance has the location of the distance.** -/
theorem located_returned (name : String) (inside : distance ≤ data.size) :
    located name (returned data) (distance + returnsWithin data distance) = located name data distance := by
  unfold located
  simp only [lineAt_returned inside, columnAt_returned inside]

/-! ### All files -/

/-- Some files, each with a carriage return put in before each line feed. -/
def returnedAll (files : Contents) : Contents :=
  files.map fun file => (file.1, returned file.2)

/-- The carriage returns put in before an offset of some files. -/
def returnsBefore : Contents → Nat → Nat
  | [], _ => 0
  | (_, data) :: rest, offset =>
    returnsWithin data offset + returnsBefore rest (offset - (data.size + 1))

/-- The offset that an offset is moved to; that of a line feed is moved to the carriage return before it. -/
def moved (files : Contents) (offset : Nat) : Nat :=
  offset + returnsBefore files offset

theorem returnsWithin_mono (data : ByteArray) {first second : Nat} (ordered : first ≤ second) :
    returnsWithin data first ≤ returnsWithin data second :=
  (List.take_sublist_take_left ordered).count_le lineFeed

theorem returnsBefore_mono (files : Contents) {first second : Nat} (ordered : first ≤ second) :
    returnsBefore files first ≤ returnsBefore files second := by
  induction files generalizing first second with
  | nil => exact le_rfl
  | cons file rest hypothesis =>
    exact Nat.add_le_add (returnsWithin_mono file.2 ordered)
      (hypothesis (Nat.sub_le_sub_right ordered _))

theorem moved_mono (files : Contents) {first second : Nat} (ordered : first ≤ second) :
    moved files first ≤ moved files second :=
  Nat.add_le_add ordered (returnsBefore_mono files ordered)

theorem returnsBefore_zero (files : Contents) : returnsBefore files 0 = 0 := by
  induction files with
  | nil => rfl
  | cons file rest hypothesis =>
    rw [returnsBefore, Nat.zero_sub, hypothesis]
    rfl

/-- Beyond the end of a file all its carriage returns are before an offset. -/
theorem returnsWithin_of_le (beyond : data.size ≤ distance) :
    returnsWithin data distance = (bytesOf data).count lineFeed := by
  have whole : bytesBefore data distance = bytesOf data := List.take_of_length_le beyond
  rw [returnsWithin, whole]

/-- **An offset of a file is moved** to that of the file between the files before it, at the moved distance. -/
theorem moved_part (before after : Contents) (name : String) (inside : distance ≤ data.size) :
    moved (before ++ (name, data) :: after) (span before + distance)
      = span (returnedAll before) + (distance + returnsWithin data distance) := by
  unfold moved
  induction before with
  | nil =>
    have none_further : distance - (data.size + 1) = 0 := by omega
    rw [List.nil_append, span_nil, Nat.zero_add, returnsBefore, none_further, returnsBefore_zero]
    exact (Nat.zero_add _).symm
  | cons file rest hypothesis =>
    have further : file.2.size + 1 + span rest + distance - (file.2.size + 1) = span rest + distance := by
      omega
    have beyond : file.2.size ≤ file.2.size + 1 + span rest + distance := by omega
    have step : span (returnedAll (file :: rest))
        = file.2.size + (bytesOf file.2).count lineFeed + 1 + span (returnedAll rest) := by
      rw [← size_returned]
      rfl
    rw [span_cons, List.cons_append, returnsBefore, further, returnsWithin_of_le beyond, step]
    omega

namespace Map

/-- **A moved offset has the location of the offset.** -/
theorem resolve_moved {files : Contents} {offset : Nat} (below : offset < span files) :
    ∃ location, (ofFiles files).resolve offset = .ok location
      ∧ (ofFiles (returnedAll files)).resolve (moved files offset) = .ok location := by
  obtain ⟨before, name, data, after, distance, rfl, inside, rfl⟩ := exists_part below
  refine ⟨located name data distance, resolve_ofFiles before after name inside, ?_⟩
  have files : returnedAll (before ++ (name, data) :: after)
      = returnedAll before ++ (name, returned data) :: returnedAll after := by
    unfold returnedAll
    rw [List.map_append, List.map_cons]
  rw [files, moved_part before after name inside, ← located_returned name inside]
  exact resolve_ofFiles _ _ name (moved_le_size_returned inside)

/-- The files keep their lines. -/
theorem lineCount_returnedAll (files : Contents) :
    (ofFiles (returnedAll files)).lineCount = (ofFiles files).lineCount := by
  have single (file : String × ByteArray) :
      (ofFiles [(file.1, returned file.2)]).lineCount = (ofFiles [file]).lineCount := by
    have alone (name : String) (data : ByteArray) :
        (ofFiles [(name, data)]).lineCount = (File.ofData name 0 data).lineCount := rfl
    rw [alone, alone, lineCount_ofData, lineCount_ofData, bytesOf_returned, count_withReturns,
      openLine_withReturns]
  rw [lineCount_ofFiles, lineCount_ofFiles, returnedAll, List.map_map]
  exact congrArg List.sum (List.map_congr_left fun file _ => single file)

end Map

end UnsafeCensus.Source
