/-
**Encoded text is decoded.**

The bytes of a character take the decoder from a boundary back to a boundary and complete that character.

* `toList_eq_toList_data`: the bytes of an array as a list;
* `piecesFrom_utf8EncodeChar`: what the bytes of one character complete;
* `decode?_toUTF8`: the bytes of a text are decoded to its characters;
* `encode?_eq_ok_iff`: code points have bytes exactly when they are those of characters;
* `encoded_cases`: a source at hand has bytes, or holds code points that have none.
-/

import Mathlib
import UnsafeCensus.Source.Input

namespace UnsafeCensus.Utf8

/-- The bytes of an array from an index on, after those found. -/
theorem toList_loop_eq (data : ByteArray) (index : Nat) (found : List UInt8) :
    ByteArray.toList.loop data index found = found.reverse ++ data.data.toList.drop index := by
  fun_induction ByteArray.toList.loop data index found with
  | case1 index found below hypothesis =>
    have there : index < data.data.toList.length := below
    have byte : data.get! index = data.data.toList[index] := getElem!_pos data.data index below
    rw [hypothesis, List.reverse_cons, List.append_assoc, List.drop_eq_getElem_cons there, byte]
    rfl
  | case2 index found above =>
    have outside : data.data.toList.length ≤ index := Nat.le_of_not_lt above
    rw [List.drop_eq_nil_of_le outside, List.append_nil]

theorem toList_eq_toList_data (data : ByteArray) : data.toList = data.data.toList := by
  rw [ByteArray.toList, toList_loop_eq]
  rfl

/-! ### One byte -/

/-- A byte may follow in a character: with the bits that mark it, it is within the bounds. -/
structure Pending.Takes (pending : Pending) (value : Nat) : Prop where
  low : value < 64
  least : pending.least.toNat ≤ value + 128
  greatest : value + 128 ≤ pending.greatest.toNat

/-- Any six bits may follow where the bounds are those of all further bytes. -/
theorem Pending.takes_of_lt {owed bits taken value : Nat} (low : value < 64) :
    Pending.Takes ⟨owed, 0x80, 0xBF, bits, taken⟩ value :=
  ⟨low, Nat.le_add_left 128 _, by show _ ≤ 191; omega⟩

section Bytes

variable {pending : Pending} {value : Nat} {rest : List UInt8}

theorem step_inside (takes : pending.Takes value) :
    step (.inside pending) (UInt8.ofNat (value + 128)) =
      if pending.owed ≤ 1 then ([.scalar (Char.ofNat (pending.bits * 64 + value))], .boundary)
      else ([], .inside ⟨pending.owed - 1, 0x80, 0xBF, pending.bits * 64 + value, pending.taken + 1⟩) := by
  obtain ⟨low, least, greatest⟩ := takes
  have byte : (UInt8.ofNat (value + 128)).toNat = value + 128 := by
    rw [UInt8.toNat_ofNat']
    omega
  have fits : pending.least ≤ UInt8.ofNat (value + 128)
      ∧ UInt8.ofNat (value + 128) ≤ pending.greatest := by
    rw [UInt8.le_iff_toNat_le, UInt8.le_iff_toNat_le, byte]
    exact ⟨least, greatest⟩
  have bits : pending.bits * 64 + (value + 128 - 0x80) = pending.bits * 64 + value := by omega
  rw [step, if_pos fits, byte, bits]

/-- A further byte of a character adds six bits. -/
theorem piecesFrom_inside (takes : pending.Takes value) (more : 1 < pending.owed) :
    piecesFrom (.inside pending) (UInt8.ofNat (value + 128) :: rest)
      = piecesFrom (.inside ⟨pending.owed - 1, 0x80, 0xBF, pending.bits * 64 + value,
          pending.taken + 1⟩) rest := by
  rw [piecesFrom, step_inside takes, if_neg (not_le.mpr more), List.nil_append]

/-- The last byte of a character completes it. -/
theorem piecesFrom_last (takes : pending.Takes value) (last : pending.owed ≤ 1) :
    piecesFrom (.inside pending) (UInt8.ofNat (value + 128) :: rest)
      = .scalar (Char.ofNat (pending.bits * 64 + value)) :: piecesFrom .boundary rest := by
  rw [piecesFrom, step_inside takes, if_pos last, List.singleton_append]

/-- The only byte of a character completes it. -/
theorem piecesFrom_ascii (ascii : value ≤ 127) :
    piecesFrom .boundary (UInt8.ofNat value :: rest)
      = .scalar (Char.ofNat value) :: piecesFrom .boundary rest := by
  have byte : (UInt8.ofNat value).toNat = value := by
    rw [UInt8.toNat_ofNat']
    omega
  have below : UInt8.ofNat value < 0x80 := by
    rw [UInt8.lt_iff_toNat_lt, byte]
    show value < 128
    omega
  rw [piecesFrom, step, begin, if_pos below, byte, List.singleton_append]

/-- The first byte of several completes nothing. -/
theorem piecesFrom_lead (wide : 128 ≤ value) (byte : value < 256)
    (lead : lead? (UInt8.ofNat value) = some pending) :
    piecesFrom .boundary (UInt8.ofNat value :: rest) = piecesFrom (.inside pending) rest := by
  have notAscii : ¬ UInt8.ofNat value < 0x80 := by
    rw [UInt8.lt_iff_toNat_lt, UInt8.toNat_ofNat']
    show ¬ value % 256 < 128
    omega
  rw [piecesFrom, step, begin, if_neg notAscii, lead, List.nil_append]

end Bytes

/-! ### One character -/

theorem lead?_ofNat {value : Nat} (byte : value < 256) :
    lead? (UInt8.ofNat value) =
      if 0xC2 ≤ value ∧ value ≤ 0xDF then some ⟨1, 0x80, 0xBF, value - 0xC0, 1⟩
      else if value = 0xE0 then some ⟨2, 0xA0, 0xBF, 0, 1⟩
      else if value = 0xED then some ⟨2, 0x80, 0x9F, 0xD, 1⟩
      else if 0xE1 ≤ value ∧ value ≤ 0xEF then some ⟨2, 0x80, 0xBF, value - 0xE0, 1⟩
      else if value = 0xF0 then some ⟨3, 0x90, 0xBF, 0, 1⟩
      else if 0xF1 ≤ value ∧ value ≤ 0xF3 then some ⟨3, 0x80, 0xBF, value - 0xF0, 1⟩
      else if value = 0xF4 then some ⟨3, 0x80, 0x8F, 4, 1⟩
      else none := by
  rw [lead?, UInt8.toNat_ofNat', Nat.mod_eq_of_lt byte]

section Wide

variable {value : Nat}

/-- The first of two bytes. -/
theorem lead?_two (wide : 127 < value) (narrow : value ≤ 2047) :
    lead? (UInt8.ofNat (value / 64 % 32 + 192)) = some ⟨1, 0x80, 0xBF, value / 64, 1⟩ := by
  have bits : value / 64 % 32 + 192 - 0xC0 = value / 64 := by omega
  rw [lead?_ofNat (by omega), if_pos (by omega), bits]

/-- The first of three bytes bounds the second, which rules out what is too small and surrogates. -/
theorem lead?_three (valid : value < 0xD800 ∨ 0xDFFF < value) (wide : 2047 < value)
    (narrow : value ≤ 65535) :
    ∃ least greatest, lead? (UInt8.ofNat (value / 4096 % 16 + 224))
        = some ⟨2, least, greatest, value / 4096, 1⟩
      ∧ Pending.Takes ⟨2, least, greatest, value / 4096, 1⟩ (value / 64 % 64) := by
  rw [lead?_ofNat (by omega), if_neg (by omega)]
  by_cases low : value / 4096 = 0
  · refine ⟨0xA0, 0xBF, ?_, ?_⟩
    · rw [if_pos (by omega), low]
    · exact ⟨by omega, by show 160 ≤ _; omega, by show _ ≤ 191; omega⟩
  rw [if_neg (by omega)]
  by_cases high : value / 4096 = 13
  · refine ⟨0x80, 0x9F, ?_, ?_⟩
    · rw [if_pos (by omega), high]
    · exact ⟨by omega, by show 128 ≤ _; omega, by show _ ≤ 159; omega⟩
  · have bits : value / 4096 % 16 + 224 - 0xE0 = value / 4096 := by omega
    refine ⟨0x80, 0xBF, ?_, ?_⟩
    · rw [if_neg (by omega), if_pos (by omega), bits]
    · exact ⟨by omega, by show 128 ≤ _; omega, by show _ ≤ 191; omega⟩

/-- The first of four bytes bounds the second, which rules out what is too small and what is too large. -/
theorem lead?_four (valid : value < 0x110000) (wide : 65535 < value) :
    ∃ least greatest, lead? (UInt8.ofNat (value / 262144 % 8 + 240))
        = some ⟨3, least, greatest, value / 262144, 1⟩
      ∧ Pending.Takes ⟨3, least, greatest, value / 262144, 1⟩ (value / 4096 % 64) := by
  rw [lead?_ofNat (by omega), if_neg (by omega), if_neg (by omega), if_neg (by omega),
    if_neg (by omega)]
  by_cases low : value / 262144 = 0
  · refine ⟨0x90, 0xBF, ?_, ?_⟩
    · rw [if_pos (by omega), low]
    · exact ⟨by omega, by show 144 ≤ _; omega, by show _ ≤ 191; omega⟩
  rw [if_neg (by omega)]
  by_cases high : value / 262144 = 4
  · refine ⟨0x80, 0x8F, ?_, ?_⟩
    · rw [if_neg (by omega), if_pos (by omega), high]
    · exact ⟨by omega, by show 128 ≤ _; omega, by show _ ≤ 143; omega⟩
  · have bits : value / 262144 % 8 + 240 - 0xF0 = value / 262144 := by omega
    refine ⟨0x80, 0xBF, ?_, ?_⟩
    · rw [if_pos (by omega), bits]
    · exact ⟨by omega, by show 128 ≤ _; omega, by show _ ≤ 191; omega⟩

end Wide

/-- The bytes of a character complete just this character. -/
theorem piecesFrom_utf8EncodeChar (letter : Char) (rest : List UInt8) :
    piecesFrom .boundary (String.utf8EncodeChar letter ++ rest)
      = .scalar letter :: piecesFrom .boundary rest := by
  have valid : letter.val.toNat.isValidChar := letter.valid
  have back : Char.ofNat letter.val.toNat = letter := Char.ofNat_toNat letter
  rw [String.utf8EncodeChar]
  generalize letter.val.toNat = value at valid back
  have bounds : value < 0xD800 ∨ 0xDFFF < value ∧ value < 0x110000 := valid
  by_cases one : value ≤ 127
  · rw [if_pos one, List.singleton_append, piecesFrom_ascii one, back]
  rw [if_neg one]
  have last : value % 64 < 64 := Nat.mod_lt _ (by decide)
  have middle : value / 64 % 64 < 64 := Nat.mod_lt _ (by decide)
  by_cases two : value ≤ 2047
  · have whole : value / 64 * 64 + value % 64 = value := by omega
    rw [if_pos two]
    calc piecesFrom .boundary (_ :: _ :: rest)
        = piecesFrom (.inside ⟨1, 0x80, 0xBF, value / 64, 1⟩) (_ :: rest) :=
          piecesFrom_lead (by omega) (by omega) (lead?_two (not_le.mp one) two)
      _ = .scalar (Char.ofNat (value / 64 * 64 + value % 64)) :: piecesFrom .boundary rest :=
          piecesFrom_last (Pending.takes_of_lt last) le_rfl
      _ = .scalar letter :: piecesFrom .boundary rest := by rw [whole, back]
  rw [if_neg two]
  by_cases three : value ≤ 65535
  · obtain ⟨least, greatest, lead, takes⟩ := lead?_three (by omega) (not_le.mp two) three
    have whole : (value / 4096 * 64 + value / 64 % 64) * 64 + value % 64 = value := by omega
    rw [if_pos three]
    calc piecesFrom .boundary (_ :: _ :: _ :: rest)
        = piecesFrom (.inside ⟨2, least, greatest, value / 4096, 1⟩) (_ :: _ :: rest) :=
          piecesFrom_lead (by omega) (by omega) lead
      _ = piecesFrom (.inside ⟨1, 0x80, 0xBF, value / 4096 * 64 + value / 64 % 64, 2⟩) (_ :: rest) :=
          piecesFrom_inside takes Nat.one_lt_two
      _ = .scalar (Char.ofNat ((value / 4096 * 64 + value / 64 % 64) * 64 + value % 64))
            :: piecesFrom .boundary rest :=
          piecesFrom_last (Pending.takes_of_lt last) le_rfl
      _ = .scalar letter :: piecesFrom .boundary rest := by rw [whole, back]
  · have inside : value < 0x110000 := by omega
    obtain ⟨least, greatest, lead, takes⟩ := lead?_four inside (not_le.mp three)
    have whole : ((value / 262144 * 64 + value / 4096 % 64) * 64 + value / 64 % 64) * 64 + value % 64
        = value := by omega
    rw [if_neg three]
    calc piecesFrom .boundary (_ :: _ :: _ :: _ :: rest)
        = piecesFrom (.inside ⟨3, least, greatest, value / 262144, 1⟩) (_ :: _ :: _ :: rest) :=
          piecesFrom_lead (by omega) (by omega) lead
      _ = piecesFrom (.inside ⟨2, 0x80, 0xBF, value / 262144 * 64 + value / 4096 % 64, 2⟩)
            (_ :: _ :: rest) :=
          piecesFrom_inside takes (show 1 < 3 by decide)
      _ = piecesFrom (.inside ⟨1, 0x80, 0xBF,
            (value / 262144 * 64 + value / 4096 % 64) * 64 + value / 64 % 64, 3⟩) (_ :: rest) :=
          piecesFrom_inside (Pending.takes_of_lt middle) Nat.one_lt_two
      _ = .scalar (Char.ofNat
            (((value / 262144 * 64 + value / 4096 % 64) * 64 + value / 64 % 64) * 64 + value % 64))
            :: piecesFrom .boundary rest :=
          piecesFrom_last (Pending.takes_of_lt last) le_rfl
      _ = .scalar letter :: piecesFrom .boundary rest := by rw [whole, back]

theorem pieces_flatMap (letters : List Char) :
    pieces (letters.flatMap String.utf8EncodeChar) = letters.map .scalar := by
  rw [pieces]
  induction letters with
  | nil => rfl
  | cons letter rest hypothesis =>
    rw [List.flatMap_cons, piecesFrom_utf8EncodeChar, hypothesis, List.map_cons]

theorem wellFormed?_scalars (bytes : List UInt8) (offset : Nat) (letters : List Char) :
    wellFormed? bytes offset (letters.map .scalar) = .ok letters := by
  induction letters generalizing bytes offset with
  | nil => rfl
  | cons letter rest hypothesis =>
    rw [List.map_cons, wellFormed?, hypothesis]
    rfl

/-- **The bytes of a text are decoded to its characters.** -/
theorem decode?_toUTF8 (letters : List Char) :
    decode? (String.ofList letters).toUTF8.toList = .ok letters := by
  have bytes : (String.ofList letters).toUTF8.toList = letters.flatMap String.utf8EncodeChar := by
    rw [toList_eq_toList_data, String.toUTF8, String.toByteArray_ofList, List.utf8Encode,
      List.toList_data_toByteArray]
  rw [bytes, decode?, pieces_flatMap]
  exact wellFormed?_scalars _ 0 letters

/-! ### Code points that are no characters -/

/-- Code points have bytes exactly when all of them are those of characters. -/
theorem encode?_eq_ok_iff {points : List Nat} {data : ByteArray} :
    encode? points = .ok data ↔
      (∀ point ∈ points, isCharacter point = true)
        ∧ data = (String.ofList (points.map Char.ofNat)).toUTF8 := by
  rw [encode?]
  cases left : points.dropWhile isCharacter with
  | nil =>
    have all := List.dropWhile_eq_nil_iff.mp left
    exact ⟨fun same => ⟨all, (Except.ok.inj same).symm⟩, fun ⟨_, same⟩ => by rw [same]⟩
  | cons first rest =>
    refine ⟨nofun, fun ⟨all, _⟩ => ?_⟩
    rw [List.dropWhile_eq_nil_iff.mpr all] at left
    cases left

/-- The code points of characters have the bytes of these. -/
theorem encode?_map_toNat (letters : List Char) :
    encode? (letters.map Char.toNat) = .ok (String.ofList letters).toUTF8 := by
  have same : (letters.map Char.toNat).map Char.ofNat = letters := by
    simp [Function.comp_def]
  refine encode?_eq_ok_iff.mpr ⟨fun point member => ?_, by rw [same]⟩
  obtain ⟨letter, _, rfl⟩ := List.mem_map.mp member
  exact decide_eq_true letter.valid

end UnsafeCensus.Utf8

namespace UnsafeCensus.Source.Input

/-- A source has bytes exactly when it holds only characters, and otherwise it is told what else it holds. -/
theorem encoded_cases (source : Input) :
    (source.Encodable ∧ ∃ data, source.encoded = .ok data)
      ∨ (¬ source.Encodable ∧ ∃ fault, source.encoded = .error (.unencodable fault)) := by
  cases source with
  | bytes data => exact .inl ⟨trivial, data, rfl⟩
  | text points =>
    cases known : Utf8.encode? points with
    | ok data => exact .inl ⟨(Utf8.encode?_eq_ok_iff.mp known).1, data, by rw [encoded, known]; rfl⟩
    | error fault =>
      refine .inr ⟨fun all => ?_, fault, by rw [encoded, known]; rfl⟩
      have done := Utf8.encode?_eq_ok_iff.mpr ⟨all, rfl⟩
      rw [known] at done
      cases done

theorem encoded_ofLetters (letters : List Char) :
    (ofLetters letters).encoded = .ok (String.ofList letters).toUTF8 := by
  rw [ofLetters, encoded, Utf8.encode?_map_toNat]
  rfl

end UnsafeCensus.Source.Input
