/-
**Lines are the lines of bytes.**

A file counts its lines by its line feeds and its last byte. A search among the starts of lines gives the line of each
byte. Both come to the same: the bytes of a file are on all lines from the first to the last one counted, so all files
together have as many lines as their bytes are on. A line feed at the end of a file starts a line that has no byte.

* `endsInFeed`: whether the last of some bytes is a line feed;
* `lineAt_last`, `lineAt_size`: the lines of the last byte and of the end of a file;
* `exists_lineAt_eq`: no line is left out;
* `Map.byteLines`: the lines that the bytes of a map are on, each with the index of its file;
* `mem_byteLines_iff`, `encard_byteLines`: which these are, and how many;
* `located_push`, `resolve_push`: a line feed put to the end of a file moves nothing before it;
* `lines_of_bytes`: all this of the files of a map.
-/

import Mathlib
import UnsafeCensus.Proofs.Source.Covering
import UnsafeCensus.Proofs.Source.Lines

namespace UnsafeCensus.Source

variable {data : ByteArray} {distance : Nat}

/-! ### The lines of one file -/

/-- Whether the last byte is a line feed. -/
def endsInFeed (data : ByteArray) : Bool :=
  data[data.size - 1]? = some lineFeed

/-- Bytes that are there have a last one, after those before it. -/
theorem bytesBefore_last (nonempty : data.size ≠ 0) :
    ∃ byte, bytesOf data = bytesBefore data (data.size - 1) ++ [byte]
      ∧ endsInFeed data = decide (byte = lineFeed) := by
  obtain ⟨byte, there, further⟩ := bytesBefore_succ (show data.size - 1 < data.size by omega)
  rw [Nat.sub_add_cancel (by omega), bytesBefore_size] at further
  refine ⟨byte, further, ?_⟩
  simp [endsInFeed, there]

/-- The lines of a file that is not empty, by the line feeds before its last byte. -/
theorem lineCount_eq (name : String) (start : Int) (nonempty : data.size ≠ 0) :
    (File.ofData name start data).lineCount
      = (bytesBefore data (data.size - 1)).count lineFeed + 1 := by
  obtain ⟨byte, whole, _⟩ := bytesBefore_last nonempty
  rw [lineCount_ofData, whole, openLine_concat, List.count_append]
  by_cases ends : byte = lineFeed <;> simp [ends]

theorem lineCount_of_empty (name : String) (start : Int) (empty : data.size = 0) :
    (File.ofData name start data).lineCount = 0 :=
  if_pos empty

/-- **The last byte** is on the last line. -/
theorem lineAt_last (name : String) (start : Int) (nonempty : data.size ≠ 0) :
    lineAt data (data.size - 1) = (File.ofData name start data).lineCount := by
  rw [lineAt_eq (Nat.sub_le _ _), lineCount_eq name start nonempty]

/-- **The end of a file** is on its last line, or on the one after if the last byte is a line feed. -/
theorem lineAt_size (name : String) (start : Int) (nonempty : data.size ≠ 0) :
    lineAt data data.size
      = (File.ofData name start data).lineCount + if endsInFeed data then 1 else 0 := by
  obtain ⟨byte, whole, known⟩ := bytesBefore_last nonempty
  rw [lineAt_eq le_rfl, bytesBefore_size, lineCount_eq name start nonempty, known, whole,
    List.count_append]
  by_cases ends : byte = lineFeed <;> simp [ends]

/-- One byte further is no more than one line further. -/
theorem lineAt_succ_le (inside : distance < data.size) :
    lineAt data (distance + 1) ≤ lineAt data distance + 1 := by
  obtain ⟨byte, _, further⟩ := bytesBefore_succ inside
  have once : [byte].count lineFeed ≤ 1 := List.count_le_length
  rw [lineAt_eq inside, lineAt_eq inside.le, further, List.count_append]
  omega

/-- **No line is left out** on the way to a distance. -/
theorem exists_lineAt_eq {line : Nat} (positive : 1 ≤ line) (reached : line ≤ lineAt data distance)
    (inside : distance ≤ data.size) : ∃ place ≤ distance, lineAt data place = line := by
  induction distance with
  | zero =>
    have first : lineAt data 0 = 1 := lineAt_eq (Nat.zero_le _)
    exact ⟨0, le_rfl, by omega⟩
  | succ distance hypothesis =>
    have step := lineAt_succ_le inside
    by_cases earlier : line ≤ lineAt data distance
    · obtain ⟨place, bound, found⟩ := hypothesis earlier (Nat.le_of_succ_le inside)
      exact ⟨place, Nat.le_succ_of_le bound, found⟩
    · exact ⟨distance + 1, le_rfl, by omega⟩

/-- A line is that of a byte exactly when the file counts it. -/
theorem exists_byte_iff (name : String) (start : Int) {line : Nat} :
    (∃ place < data.size, lineAt data place = line)
      ↔ 1 ≤ line ∧ line ≤ (File.ofData name start data).lineCount := by
  by_cases empty : data.size = 0
  · rw [lineCount_of_empty name start empty]
    constructor
    · rintro ⟨place, bound, _⟩
      omega
    · omega
  · rw [← lineAt_last name start empty]
    constructor
    · rintro ⟨place, bound, rfl⟩
      exact ⟨one_le_lineAt data place, lineAt_mono data (by omega)⟩
    · rintro ⟨positive, counted⟩
      obtain ⟨place, bound, found⟩ := exists_lineAt_eq positive counted (Nat.sub_le _ _)
      exact ⟨place, by omega, found⟩

/-! ### The lines of all files -/

namespace Map

/-- The file at an index has a byte at an offset. -/
def HasByteAt (map : Map) (offset : Int) (index : Nat) : Prop :=
  ∃ file, map.files[index]? = some file ∧ file.start ≤ offset ∧ offset < file.stop

/-- The lines that the bytes of a map are on, each with the index of its file. -/
def byteLines (map : Map) : Set (Nat × Nat) :=
  {line | ∃ offset location, map.HasByteAt offset line.1 ∧ map.resolve offset = .ok location
    ∧ location.line = line.2}

/-- A line that bytes of a file are on is one that the file counts. -/
theorem mem_byteLines_iff {files : Contents} {index line : Nat} :
    (index, line) ∈ (ofFiles files).byteLines
      ↔ ∃ file, (ofFiles files).files[index]? = some file ∧ 1 ≤ line ∧ line ≤ file.lineCount := by
  constructor
  · rintro ⟨offset, location, ⟨file, there, low, high⟩, resolved, line_eq⟩
    obtain ⟨before, name, data, after, rfl, _, rfl⟩ := exists_part_of_getElem? there
    simp only [File.stop, File.ofData] at low high
    obtain ⟨place, rfl⟩ : ∃ place : Nat, offset = (span before + place : Nat) :=
      ⟨(offset - span before).toNat, by omega⟩
    have inside : place < data.size := by omega
    rw [resolve_ofFiles before after name inside.le] at resolved
    obtain rfl := Except.ok.inj resolved
    exact ⟨_, there, (exists_byte_iff name _).mp ⟨place, inside, line_eq⟩⟩
  · rintro ⟨file, there, counted⟩
    obtain ⟨before, name, data, after, rfl, _, rfl⟩ := exists_part_of_getElem? there
    obtain ⟨place, inside, found⟩ := (exists_byte_iff name _).mpr counted
    refine ⟨(span before + place : Nat), located name data place, ⟨_, there, ?_, ?_⟩,
      resolve_ofFiles before after name inside.le, found⟩
    · simp only [File.ofData]
      omega
    · simp only [File.stop, File.ofData]
      omega

/-- **All files together have as many lines as their bytes are on.** -/
theorem encard_byteLines (files : Contents) :
    (ofFiles files).byteLines.encard = (ofFiles files).lineCount := by
  generalize known : (ofFiles files).files.toList = held
  let counted : Finset (Σ _ : Fin held.length, Nat) :=
    Finset.univ.sigma fun index => Finset.Icc 1 held[index].lineCount
  let tell (line : Σ _ : Fin held.length, Nat) : Nat × Nat := (line.1, line.2)
  have injective : Function.Injective tell := by
    rintro ⟨⟨index, bound⟩, line⟩ ⟨⟨index', bound'⟩, line'⟩ same
    simp only [tell, Prod.mk.injEq] at same
    obtain ⟨rfl, rfl⟩ := same
    rfl
  have lines : (ofFiles files).byteLines = tell '' counted := by
    ext ⟨index, line⟩
    rw [mem_byteLines_iff, ← Array.getElem?_toList, known]
    constructor
    · rintro ⟨file, there, inside⟩
      obtain ⟨bound, rfl⟩ := List.getElem?_eq_some_iff.mp there
      exact ⟨⟨⟨index, bound⟩, line⟩, by simpa [counted] using inside, rfl⟩
    · rintro ⟨⟨⟨index', bound⟩, line'⟩, member, same⟩
      simp only [tell, Prod.mk.injEq] at same
      obtain ⟨rfl, rfl⟩ := same
      exact ⟨_, List.getElem?_eq_getElem bound, by simpa [counted] using member⟩
  have count : counted.card = (held.map File.lineCount).sum := by
    rw [Finset.card_sigma, ← Fin.sum_univ_fun_getElem held File.lineCount]
    simp
  rw [lines, injective.encard_image, Set.encard_coe_eq_coe_finsetCard, count, lineCount, known]
  rfl

end Map

/-! ### A line feed at the end -/

/-- The bytes before a distance stay when a byte is put to the end. -/
theorem bytesBefore_push (byte : UInt8) (inside : distance ≤ data.size) :
    bytesBefore (data.push byte) distance = bytesBefore data distance := by
  have whole : bytesOf (data.push byte) = bytesOf data ++ [byte] := by
    cases data
    simp [bytesOf, ByteArray.push]
  have bounded : distance ≤ (bytesOf data).length := inside
  rw [bytesBefore, whole, List.take_append_of_le_length bounded, bytesBefore]

theorem located_push (name : String) (byte : UInt8) (inside : distance ≤ data.size) :
    located name (data.push byte) distance = located name data distance := by
  have further : distance ≤ (data.push byte).size := by
    rw [ByteArray.size_push]
    omega
  simp only [located, Location.mk.injEq, true_and]
  rw [lineAt_eq further, lineAt_eq inside, columnAt_eq further, columnAt_eq inside,
    bytesBefore_push byte inside]
  exact ⟨rfl, rfl⟩

/-- A file whose last line has no line feed keeps its lines when it gets one. -/
theorem lineCount_push (name : String) (start : Int) (nonempty : data.size ≠ 0)
    (unended : endsInFeed data = false) :
    (File.ofData name start (data.push lineFeed)).lineCount = (File.ofData name start data).lineCount := by
  have size : (data.push lineFeed).size = data.size + 1 := ByteArray.size_push
  have last := lineAt_size name start nonempty
  rw [unended, lineAt_eq le_rfl] at last
  rw [lineCount_eq name start (by omega), size, Nat.add_sub_cancel, bytesBefore_push lineFeed le_rfl,
    last]
  rfl

namespace Map

/-- **A line feed put to the end of a file** moves no offset up to the end that it had. -/
theorem resolve_push (before after : Contents) (name : String) {offset : Nat}
    (inside : offset ≤ span before + data.size) :
    (ofFiles (before ++ (name, data.push lineFeed) :: after)).resolve offset
      = (ofFiles (before ++ (name, data) :: after)).resolve offset := by
  by_cases earlier : offset < span before
  · obtain ⟨front, name', data', back, distance, rfl, bounded, rfl⟩ := exists_part earlier
    rw [List.append_assoc, List.append_assoc, List.cons_append, List.cons_append,
      resolve_ofFiles front _ name' bounded, resolve_ofFiles front _ name' bounded]
  · obtain ⟨distance, rfl⟩ := Nat.exists_eq_add_of_le (Nat.le_of_not_lt earlier)
    have bounded : distance ≤ data.size := by omega
    have further : distance ≤ (data.push lineFeed).size := by
      rw [ByteArray.size_push]
      omega
    rw [resolve_ofFiles before after name further, resolve_ofFiles before after name bounded,
      located_push name lineFeed bounded]

end Map

/-- **Lines are the lines of bytes.** All files of a map have as many lines as the pairs of a file and a line that
their bytes are on. In a file that is not empty the bytes are on all lines from the first to the last, the last byte is
on the last line, and the end is there too, or on the next line after a line feed. A line feed put to the end of a file
that has none there changes neither its lines nor the location of any offset up to the end that it had. -/
theorem lines_of_bytes :
    (∀ files : Contents,
        (Map.ofFiles files).byteLines.encard = (Map.ofFiles files).lineCount
          ∧ ∀ (index : Nat) (file : File), (Map.ofFiles files).files[index]? = some file →
              file.data.size ≠ 0 →
              (∀ line, (index, line) ∈ (Map.ofFiles files).byteLines ↔ 1 ≤ line ∧ line ≤ file.lineCount)
                ∧ (∃ location, (Map.ofFiles files).resolve (file.stop - 1) = .ok location
                  ∧ location.line = file.lineCount)
                ∧ ∃ location, (Map.ofFiles files).resolve file.stop = .ok location
                  ∧ location.line = file.lineCount + if endsInFeed file.data then 1 else 0)
      ∧ ∀ (before after : Contents) (name : String) (data : ByteArray), data.size ≠ 0 →
          endsInFeed data = false →
          (∀ start, (File.ofData name start (data.push lineFeed)).lineCount
              = (File.ofData name start data).lineCount)
            ∧ ∀ offset : Nat, offset ≤ span before + data.size →
                (Map.ofFiles (before ++ (name, data.push lineFeed) :: after)).resolve offset
                  = (Map.ofFiles (before ++ (name, data) :: after)).resolve offset := by
  refine ⟨fun files => ⟨Map.encard_byteLines files, fun index file there nonempty => ?_⟩,
    fun before after name data nonempty unended => ⟨fun start => lineCount_push name start nonempty unended,
      fun offset => Map.resolve_push before after name⟩⟩
  have lines (line : Nat) : (index, line) ∈ (Map.ofFiles files).byteLines
      ↔ 1 ≤ line ∧ line ≤ file.lineCount := by
    rw [Map.mem_byteLines_iff, there]
    simp
  obtain ⟨before, name, data, after, rfl, _, rfl⟩ := exists_part_of_getElem? there
  have held : data.size ≠ 0 := nonempty
  have last : (File.ofData name (span before) data).stop - 1
      = (span before + (data.size - 1) : Nat) := by
    simp only [File.stop, File.ofData]
    omega
  have stop : (File.ofData name (span before) data).stop = (span before + data.size : Nat) := by
    simp only [File.stop, File.ofData]
    omega
  refine ⟨lines, ⟨located name data (data.size - 1), ?_, lineAt_last name _ held⟩,
    ⟨located name data data.size, ?_, lineAt_size name _ held⟩⟩
  · rw [last]
    exact Map.resolve_ofFiles before after name (Nat.sub_le data.size 1)
  · rw [stop]
    exact Map.resolve_ofFiles before after name (le_refl data.size)

/-- A file whose last line is open, one without a byte and one of line feeds alone. -/
def endedFiles : Contents :=
  [("a.rs", "x\ny".toUTF8), ("b.rs", .empty), ("c.rs", "\n\n".toUTF8)]

/-- Their bytes are on four lines. The end of the last file is on a third line, which has no byte. The first file may
get a line feed. -/
theorem lines_of_bytes_ended :
    (∃ file, (Map.ofFiles endedFiles).files[2]? = some file ∧ file.data.size ≠ 0 ∧ file.stop = 7)
      ∧ "x\ny".toUTF8.size ≠ 0 ∧ endsInFeed "x\ny".toUTF8 = false
      ∧ (Map.ofFiles endedFiles).byteLines.encard = 4
      ∧ (2, 2) ∈ (Map.ofFiles endedFiles).byteLines ∧ (2, 3) ∉ (Map.ofFiles endedFiles).byteLines
      ∧ (∃ location, (Map.ofFiles endedFiles).resolve 7 = .ok location ∧ location.line = 3)
      ∧ (Map.ofFiles [("a.rs", "x\ny".toUTF8.push lineFeed)]).resolve (3 : Nat)
          = (Map.ofFiles [("a.rs", "x\ny".toUTF8)]).resolve (3 : Nat) := by
  obtain ⟨files, pushed⟩ := lines_of_bytes
  obtain ⟨count, lines⟩ := files endedFiles
  have there : (Map.ofFiles endedFiles).files[2]? = some (File.ofData "c.rs" 5 "\n\n".toUTF8) := by
    rw [Map.getElem?_ofFiles]
    rfl
  have nonempty : "\n\n".toUTF8.size ≠ 0 := by decide +kernel
  have stop : (File.ofData "c.rs" 5 "\n\n".toUTF8).stop = 7 := by decide +kernel
  have two : (File.ofData "c.rs" 5 "\n\n".toUTF8).lineCount = 2 := by decide +kernel
  have ended : endsInFeed (File.ofData "c.rs" 5 "\n\n".toUTF8).data = true := by decide +kernel
  have four : (Map.ofFiles endedFiles).lineCount = 4 := by decide +kernel
  have nonempty' : "x\ny".toUTF8.size ≠ 0 := by decide +kernel
  have unended : endsInFeed "x\ny".toUTF8 = false := by decide +kernel
  obtain ⟨members, _, location, found, line⟩ := lines 2 _ there nonempty
  obtain ⟨_, kept⟩ := pushed [] [] "a.rs" _ nonempty' unended
  rw [two] at members
  rw [stop] at found
  rw [two, ended] at line
  rw [four] at count
  exact ⟨⟨_, there, nonempty, stop⟩, nonempty', unended, count, (members 2).mpr (by decide),
    mt (members 3).mp (by decide), ⟨location, found, line⟩, kept 3 (by decide +kernel)⟩

end UnsafeCensus.Source
