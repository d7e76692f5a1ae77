/-
**Where characters start.**

A well-formed text may be cut inside a character. What is left is then read as the characters that start before
the cut, the last of them replaced, so it has as many characters as first bytes. Of any bytes, one byte more
adds no character or one.

* `encoded`: the bytes of some characters;
* `startsFrom`: the offsets of the first bytes of the characters;
* `reads_take`: a text that is cut has a character for each start before the cut;
* `exists_split_of_ascii`: a byte that is a character alone divides a text;
* `characterCount_concat`: one byte more.
-/

import Mathlib
import UnsafeCensus.Proofs.Text.Subparts

namespace UnsafeCensus.Utf8

/-- The bytes of some characters. -/
def encoded (letters : List Char) : List UInt8 :=
  letters.flatMap encode

@[simp] theorem encoded_nil : encoded [] = [] := rfl

@[simp] theorem encoded_cons (letter : Char) (rest : List Char) :
    encoded (letter :: rest) = encode letter ++ encoded rest := List.flatMap_cons

@[simp] theorem encoded_append (first second : List Char) :
    encoded (first ++ second) = encoded first ++ encoded second := List.flatMap_append

/-- The offsets of the first bytes of characters that stand one after the other from an offset on. -/
def startsFrom (offset : Nat) : List Char → List Nat
  | [] => []
  | letter :: rest => offset :: startsFrom (offset + letter.utf8Size) rest

theorem startsFrom_append (offset : Nat) (first second : List Char) :
    startsFrom offset (first ++ second)
      = startsFrom offset first ++ startsFrom (offset + (encoded first).length) second := by
  induction first generalizing offset with
  | nil => rfl
  | cons letter rest hypothesis =>
    rw [List.cons_append, startsFrom, hypothesis, startsFrom, encoded_cons, List.length_append,
      length_encode, Nat.add_assoc, List.cons_append]

/-- No character starts before the first one. -/
theorem le_of_mem_startsFrom {offset place : Nat} {letters : List Char}
    (member : place ∈ startsFrom offset letters) : offset ≤ place := by
  induction letters generalizing offset with
  | nil => cases member
  | cons letter rest hypothesis =>
    rcases List.mem_cons.mp member with rfl | later
    · exact le_rfl
    · exact (Nat.le_add_right _ _).trans (hypothesis later)

/-- All characters start before their end. -/
theorem lt_of_mem_startsFrom {offset place : Nat} {letters : List Char}
    (member : place ∈ startsFrom offset letters) : place < offset + (encoded letters).length := by
  induction letters generalizing offset with
  | nil => cases member
  | cons letter rest hypothesis =>
    have positive := Char.utf8Size_pos letter
    rw [encoded_cons, List.length_append, length_encode]
    rcases List.mem_cons.mp member with rfl | later
    · omega
    · have below := hypothesis later
      omega

theorem countP_startsFrom_eq_zero {offset bound : Nat} (letters : List Char) (early : bound ≤ offset) :
    (startsFrom offset letters).countP (· < bound) = 0 := by
  rw [List.countP_eq_zero]
  intro place member
  have late := le_of_mem_startsFrom member
  simp only [decide_eq_true_eq]
  omega

/-- **A text that is cut** is read as one character for each that starts before the cut. -/
theorem reads_take (text : List Char) (offset distance : Nat) :
    ∃ letters, Reads ((encoded text).take distance) letters
      ∧ letters.length = (startsFrom offset text).countP (· < offset + distance) := by
  induction text generalizing offset distance with
  | nil => exact ⟨[], by rw [encoded_nil, List.take_nil]; exact .nil, rfl⟩
  | cons letter rest hypothesis =>
    have size := length_encode letter
    rcases Nat.eq_zero_or_pos distance with rfl | positive
    · exact ⟨[], .nil, (countP_startsFrom_eq_zero _ le_rfl).symm⟩
    have first : decide (offset < offset + distance) = true := by
      rw [decide_eq_true_eq]
      omega
    rw [startsFrom, List.countP_cons_of_pos (p := fun place => decide (place < offset + distance)) first,
      encoded_cons]
    rcases Nat.lt_or_ge distance letter.utf8Size with inside | beyond
    -- The cut is inside the first character, of which some bytes are left.
    · rw [List.take_append_of_le_length (by omega), countP_startsFrom_eq_zero _ (by omega)]
      have part : MaximalPart ((encode letter).take distance) [] :=
        maximalPart_of_append (List.take_append_drop distance (encode letter)).symm
          (List.ne_nil_of_length_pos (by rw [List.length_take]; omega))
          (List.ne_nil_of_length_pos (by rw [List.length_drop]; omega))
      refine ⟨[replacement], ?_, rfl⟩
      rw [← List.append_nil (List.take _ _)]
      exact .replaced part .nil
    · obtain ⟨letters, reads, counted⟩ :=
        hypothesis (offset + letter.utf8Size) (distance - letter.utf8Size)
      refine ⟨letter :: letters, ?_, ?_⟩
      · rw [List.take_append, List.take_of_length_le (by omega), size]
        exact .letter reads
      · have apart : offset + letter.utf8Size + (distance - letter.utf8Size) = offset + distance := by
          omega
        rw [List.length_cons, counted, apart]

/-- The characters that start within a range of offsets, counted in the text from the range's start on. -/
theorem countP_startsFrom_range (first second : List Char) (stop : Nat) :
    (startsFrom 0 (first ++ second)).countP
        (fun place => (encoded first).length ≤ place ∧ place < stop)
      = (startsFrom (encoded first).length second).countP (· < stop) := by
  rw [startsFrom_append, List.countP_append, Nat.zero_add]
  have before : (startsFrom 0 first).countP
      (fun place => (encoded first).length ≤ place ∧ place < stop) = 0 := by
    rw [List.countP_eq_zero]
    intro place member
    have early := lt_of_mem_startsFrom member
    simp only [decide_eq_true_eq]
    omega
  rw [before, Nat.zero_add]
  refine List.countP_congr fun place member => ?_
  have late := le_of_mem_startsFrom member
  simp only [decide_eq_true_eq]
  omega

/-! ### Bytes that are characters alone -/

/-- A small byte of a character is all of it. -/
theorem encode_eq_singleton {letter : Char} {byte : UInt8} (member : byte ∈ encode letter)
    (narrow : byte.toNat < 0x80) : encode letter = [byte] := by
  cases bytes : encode letter with
  | nil => exact absurd bytes (encode_ne_nil letter)
  | cons first tail =>
    rw [bytes] at member
    by_cases alone : first < 0x80
    · have same : encode letter ++ [] = encode (Char.ofNat first.toNat) ++ tail := by
        rw [encode_one alone, bytes, List.append_nil, List.singleton_append]
      have none := (encode_append_inj same).2
      rw [← none] at member ⊢
      rw [List.mem_singleton.mp member]
    · obtain ⟨pending, lead, owes⟩ := (encode_eq_cons_iff alone).mp bytes
      rcases List.mem_cons.mp member with rfl | later
      · exact absurd (UInt8.lt_iff_toNat_lt.mpr narrow) alone
      · exact absurd (owes.wide (led_of_lead? lead).floor byte later) (Nat.not_le.mpr narrow)

/-- A small byte of a text divides it into what is before it, a character of this byte alone, and the rest. -/
theorem exists_split_of_ascii {text : List Char} {place : Nat} {byte : UInt8}
    (there : (encoded text)[place]? = some byte) (narrow : byte.toNat < 0x80) :
    ∃ before letter after, text = before ++ letter :: after ∧ place = (encoded before).length
      ∧ encode letter = [byte] := by
  induction text generalizing place with
  | nil => cases there
  | cons letter rest hypothesis =>
    rw [encoded_cons] at there
    rcases Nat.lt_or_ge place (encode letter).length with inside | beyond
    · rw [List.getElem?_append_left inside] at there
      have alone := encode_eq_singleton (List.mem_of_getElem? there) narrow
      rw [alone, List.length_singleton, Nat.lt_one_iff] at inside
      exact ⟨[], letter, rest, rfl, inside, alone⟩
    · rw [List.getElem?_append_right beyond] at there
      obtain ⟨before, other, after, rfl, apart, alone⟩ := hypothesis there
      refine ⟨letter :: before, other, after, rfl, ?_, alone⟩
      rw [encoded_cons, List.length_append]
      omega

/-! ### One byte more -/

theorem length_piecesFrom_singleton (byte : UInt8) : (piecesFrom .boundary [byte]).length = 1 := by
  rw [piecesFrom, step, begin]
  split
  · rfl
  · split <;> rfl

/-- One byte more adds no piece or one, finished or not. -/
theorem length_piecesFrom_concat (state : State) (bytes : List UInt8) (byte : UInt8) :
    (piecesFrom state (bytes ++ [byte])).length = (piecesFrom state bytes).length
      ∨ (piecesFrom state (bytes ++ [byte])).length = (piecesFrom state bytes).length + 1 := by
  induction bytes generalizing state with
  | nil =>
    cases state with
    | boundary => exact .inr (length_piecesFrom_singleton byte)
    | inside pending =>
      rw [List.nil_append]
      by_cases fits : pending.Fits byte
      · by_cases last : pending.owed ≤ 1
        · rw [piecesFrom_of_last fits last]
          exact .inl rfl
        · rw [piecesFrom_of_more fits (Nat.not_le.mp last)]
          exact .inl rfl
      · rw [piecesFrom_of_not_fits fits, List.length_cons, length_piecesFrom_singleton]
        exact .inr rfl
  | cons first rest hypothesis =>
    rw [List.cons_append, piecesFrom, piecesFrom, List.length_append, List.length_append]
    have further := hypothesis (step state first).2
    omega

/-- **One byte more** adds no character or one. -/
theorem characterCount_concat (bytes : List UInt8) (byte : UInt8) :
    characterCount (bytes ++ [byte]) = characterCount bytes
      ∨ characterCount (bytes ++ [byte]) = characterCount bytes + 1 := by
  rw [characterCount_eq, characterCount_eq, decode, decode, List.length_map, List.length_map]
  exact length_piecesFrom_concat .boundary bytes byte

end UnsafeCensus.Utf8
