/-
**Each malformed piece is a longest beginning of a character.**

What a text is read as is said without a decoder: where the bytes of a character stand, it is read; where no
character stands, the longest run of bytes that begins one is replaced, and a single byte if none does. This
determines what is read, and the decoder finds it.

* `Begins`, `MaximalPart`: the first bytes of some character, and what is replaced as one piece;
* `Reads`: the characters that some bytes are read as;
* `Pending.Owes`: the bytes that the decoder still expects of a character;
* `encode_eq_cons_iff`: they are the further bytes of the characters that begin with the first byte;
* `reads_pieces`, `reads_iff`: bytes are read as what the decoder gives, and as nothing else;
* `sum_size_pieces`: every byte is in one of its pieces.
-/

import Mathlib
import UnsafeCensus.Proofs.Text.Utf8

namespace UnsafeCensus.Utf8

/-! ### What is read -/

/-- The bytes of a character. -/
abbrev encode (letter : Char) : List UInt8 :=
  String.utf8EncodeChar letter

/-- The first bytes of some character. -/
def Begins (part : List UInt8) : Prop :=
  ∃ letter, part <+: encode letter

/-- Bytes at which no character stands, replaced as one piece: as many as begin a character, or one. -/
structure MaximalPart (part rest : List UInt8) : Prop where
  nonempty : part ≠ []
  unread : ∀ letter, ¬ encode letter <+: part ++ rest
  begun : Begins part ∨ part.length = 1
  longest : ∀ longer, Begins longer → longer <+: part ++ rest → longer.length ≤ part.length

/-- The character in the place of a malformed piece. -/
def replacement : Char := '\uFFFD'

/-- The characters that some bytes are read as, one replacement character for each malformed piece. -/
inductive Reads : List UInt8 → List Char → Prop
  | nil : Reads [] []
  | letter {letter : Char} {rest : List UInt8} {letters : List Char} (further : Reads rest letters) :
      Reads (encode letter ++ rest) (letter :: letters)
  | replaced {part rest : List UInt8} {letters : List Char} (maximal : MaximalPart part rest)
      (further : Reads rest letters) : Reads (part ++ rest) (replacement :: letters)

/-! ### Characters -/

theorem length_encode (letter : Char) : (encode letter).length = letter.utf8Size :=
  String.length_utf8EncodeChar letter

theorem encode_ne_nil (letter : Char) : encode letter ≠ [] := by
  rw [← List.length_pos_iff, length_encode]
  exact Char.utf8Size_pos letter

/-- The character that stands at the front of some bytes is determined. -/
theorem encode_append_inj {first second : Char} {rest rest' : List UInt8}
    (same : encode first ++ rest = encode second ++ rest') : first = second ∧ rest = rest' := by
  have pieces := congrArg (piecesFrom .boundary) same
  rw [piecesFrom_utf8EncodeChar, piecesFrom_utf8EncodeChar] at pieces
  obtain rfl := Piece.scalar.inj (List.cons.inj pieces).1
  exact ⟨rfl, List.append_cancel_left same⟩

/-- A proper beginning of a character holds no character. -/
theorem not_encode_prefix_of_append {part tail : List UInt8} {letter : Char}
    (begun : encode letter = part ++ tail) (owed : tail ≠ []) (other : Char) :
    ¬ encode other <+: part := by
  rintro ⟨rest, rfl⟩
  rw [List.append_assoc] at begun
  have apart := (encode_append_inj ((List.append_nil _).trans begun)).2
  exact owed (List.append_eq_nil_iff.mp apart.symm).2

/-- A proper beginning of a character that nothing follows is one piece. -/
theorem maximalPart_of_append {part tail : List UInt8} {letter : Char}
    (begun : encode letter = part ++ tail) (nonempty : part ≠ []) (owed : tail ≠ []) :
    MaximalPart part [] where
  nonempty := nonempty
  unread other := by
    rw [List.append_nil]
    exact not_encode_prefix_of_append begun owed other
  begun := .inl ⟨letter, tail, begun.symm⟩
  longest longer _ inside := by
    rw [List.append_nil] at inside
    exact inside.length_le

/-! ### What is read is determined -/

/-- The piece that is replaced is determined. -/
theorem MaximalPart.unique {part part' rest rest' : List UInt8} (maximal : MaximalPart part rest)
    (maximal' : MaximalPart part' rest') (same : part ++ rest = part' ++ rest') :
    part = part' ∧ rest = rest' := by
  have shorter {one other rest rest' : List UInt8} (maximal : MaximalPart one rest)
      (maximal' : MaximalPart other rest') (same : one ++ rest = other ++ rest') :
      one.length ≤ other.length := by
    rcases maximal.begun with begins | single
    · exact maximal'.longest one begins (same ▸ List.prefix_append one rest)
    · rw [single]
      exact List.length_pos_iff.mpr maximal'.nonempty
  have length := Nat.le_antisymm (shorter maximal maximal' same) (shorter maximal' maximal same.symm)
  exact List.append_inj same length

/-- Bytes are read as one sequence of characters only. -/
theorem Reads.unique {bytes : List UInt8} {letters letters' : List Char} (first : Reads bytes letters)
    (second : Reads bytes letters') : letters = letters' := by
  induction first generalizing letters' with
  | nil =>
    generalize equal : ([] : List UInt8) = bytes at second
    cases second with
    | nil => rfl
    | letter => exact absurd (List.append_eq_nil_iff.mp equal.symm).1 (encode_ne_nil _)
    | replaced maximal => exact absurd (List.append_eq_nil_iff.mp equal.symm).1 maximal.nonempty
  | @letter letter rest letters _ hypothesis =>
    generalize equal : encode letter ++ rest = bytes at second
    cases second with
    | nil => exact absurd (List.append_eq_nil_iff.mp equal).1 (encode_ne_nil _)
    | letter further =>
      obtain ⟨rfl, rfl⟩ := encode_append_inj equal
      rw [hypothesis further]
    | replaced maximal => exact absurd (equal ▸ List.prefix_append _ _) (maximal.unread letter)
  | @replaced part rest letters maximal _ hypothesis =>
    generalize equal : part ++ rest = bytes at second
    cases second with
    | nil => exact absurd (List.append_eq_nil_iff.mp equal).1 maximal.nonempty
    | @letter other _ _ further => exact absurd (equal ▸ List.prefix_append _ _) (maximal.unread other)
    | replaced maximal' further =>
      obtain ⟨rfl, rfl⟩ := maximal.unique maximal' equal
      rw [hypothesis further]

/-! ### What the decoder expects -/

/-- A byte may follow in a begun character. -/
def Pending.Fits (pending : Pending) (byte : UInt8) : Prop :=
  pending.least ≤ byte ∧ byte ≤ pending.greatest

/-- A begun character with one byte more. -/
def Pending.after (pending : Pending) (byte : UInt8) : Pending :=
  ⟨pending.owed - 1, 0x80, 0xBF, pending.bits * 64 + (byte.toNat - 0x80), pending.taken + 1⟩

/-- The bytes that make a begun character a certain one. -/
inductive Pending.Owes : Pending → List UInt8 → Char → Prop
  | last {pending : Pending} {byte : UInt8} (fits : pending.Fits byte) (last : pending.owed ≤ 1) :
      Owes pending [byte] (Char.ofNat (pending.after byte).bits)
  | more {pending : Pending} {byte : UInt8} {tail : List UInt8} {letter : Char}
      (fits : pending.Fits byte) (more : 1 < pending.owed)
      (further : (pending.after byte).Owes tail letter) : Owes pending (byte :: tail) letter

section Expected

variable {pending : Pending} {byte : UInt8} {rest tail : List UInt8} {letter : Char}

theorem piecesFrom_of_last (fits : pending.Fits byte) (last : pending.owed ≤ 1) :
    piecesFrom (.inside pending) (byte :: rest)
      = .scalar (Char.ofNat (pending.after byte).bits) :: piecesFrom .boundary rest := by
  have held : pending.least ≤ byte ∧ byte ≤ pending.greatest := fits
  rw [piecesFrom, step, if_pos held, if_pos last]
  rfl

theorem piecesFrom_of_more (fits : pending.Fits byte) (more : 1 < pending.owed) :
    piecesFrom (.inside pending) (byte :: rest) = piecesFrom (.inside (pending.after byte)) rest := by
  have held : pending.least ≤ byte ∧ byte ≤ pending.greatest := fits
  rw [piecesFrom, step, if_pos held, if_neg (Nat.not_le.mpr more)]
  rfl

theorem piecesFrom_of_not_fits (unfit : ¬ pending.Fits byte) :
    piecesFrom (.inside pending) (byte :: rest)
      = .malformed pending.taken .badContinuation :: piecesFrom .boundary (byte :: rest) := by
  have outside : ¬ (pending.least ≤ byte ∧ byte ≤ pending.greatest) := unfit
  rw [piecesFrom, step, if_neg outside]
  rfl

theorem piecesFrom_of_lead (wide : ¬ byte < 0x80) (lead : lead? byte = some pending) :
    piecesFrom .boundary (byte :: rest) = piecesFrom (.inside pending) rest := by
  rw [piecesFrom, step, begin, if_neg wide, lead]
  rfl

theorem piecesFrom_of_no_lead (wide : ¬ byte < 0x80) (none : lead? byte = none) :
    piecesFrom .boundary (byte :: rest) = .malformed 1 .badStart :: piecesFrom .boundary rest := by
  rw [piecesFrom, step, begin, if_neg wide, none]
  rfl

theorem piecesFrom_inside_ne_nil (pending : Pending) (bytes : List UInt8) :
    piecesFrom (.inside pending) bytes ≠ [] := by
  induction bytes generalizing pending with
  | nil => exact List.cons_ne_nil _ _
  | cons byte rest hypothesis =>
    by_cases fits : pending.Fits byte
    · by_cases last : pending.owed ≤ 1
      · rw [piecesFrom_of_last fits last]
        exact List.cons_ne_nil _ _
      · rw [piecesFrom_of_more fits (Nat.not_le.mp last)]
        exact hypothesis _
    · rw [piecesFrom_of_not_fits fits]
      exact List.cons_ne_nil _ _

/-- Only of no bytes there are no pieces. -/
theorem eq_nil_of_piecesFrom_eq_nil {bytes : List UInt8} (none : piecesFrom .boundary bytes = []) :
    bytes = [] := by
  cases bytes with
  | nil => rfl
  | cons byte rest =>
    exfalso
    by_cases wide : byte < 0x80
    · rw [piecesFrom, step, begin, if_pos wide] at none
      cases none
    · cases lead : lead? byte with
      | none =>
        rw [piecesFrom_of_no_lead wide lead] at none
        cases none
      | some pending =>
        rw [piecesFrom_of_lead wide lead] at none
        exact piecesFrom_inside_ne_nil pending rest none

/-- Bytes that take the decoder through one character are those that the character owes. -/
theorem owes_of_piecesFrom (done : piecesFrom (.inside pending) tail = [.scalar letter]) :
    pending.Owes tail letter := by
  induction tail generalizing pending with
  | nil => cases done
  | cons byte rest hypothesis =>
    by_cases fits : pending.Fits byte
    · by_cases last : pending.owed ≤ 1
      · rw [piecesFrom_of_last fits last, List.cons.injEq, Piece.scalar.injEq] at done
        obtain ⟨rfl, none⟩ := done
        obtain rfl := eq_nil_of_piecesFrom_eq_nil none
        exact .last fits last
      · rw [piecesFrom_of_more fits (Nat.not_le.mp last)] at done
        exact .more fits (Nat.not_le.mp last) (hypothesis done)
    · rw [piecesFrom_of_not_fits fits] at done
      cases done

end Expected

/-! ### Sequences of several bytes -/

section Sequences

variable {first second third fourth : UInt8}

/-- A byte in the range of those that go on with a character. -/
def Follows (byte : UInt8) : Prop :=
  0x80 ≤ byte.toNat ∧ byte.toNat ≤ 0xBF

theorem encode_ofNat {value : Nat} (valid : value.isValidChar) :
    encode (Char.ofNat value) =
      if value ≤ 127 then [UInt8.ofNat value]
      else if value ≤ 2047 then
        [UInt8.ofNat (value / 64 % 32 + 192), UInt8.ofNat (value % 64 + 128)]
      else if value ≤ 65535 then
        [UInt8.ofNat (value / 4096 % 16 + 224), UInt8.ofNat (value / 64 % 64 + 128),
          UInt8.ofNat (value % 64 + 128)]
      else
        [UInt8.ofNat (value / 262144 % 8 + 240), UInt8.ofNat (value / 4096 % 64 + 128),
          UInt8.ofNat (value / 64 % 64 + 128), UInt8.ofNat (value % 64 + 128)] := by
  have number : (Char.ofNat value).val.toNat = value := (Char.toNat_ofNat value).trans (if_pos valid)
  rw [encode, String.utf8EncodeChar, number]

theorem ofNat_eq_of_toNat_eq {value : Nat} (byte : UInt8) (same : byte.toNat = value) :
    UInt8.ofNat value = byte := by
  rw [← same, UInt8.ofNat_toNat]

theorem encode_one (narrow : first < 0x80) : encode (Char.ofNat first.toNat) = [first] := by
  rw [UInt8.lt_iff_toNat_lt] at narrow
  have bound : first.toNat < 128 := narrow
  rw [encode_ofNat (.inl (by omega)), if_pos (by omega), UInt8.ofNat_toNat]

variable {bits : Nat}

theorem encode_two (known : first.toNat = 0xC0 + bits) (least : 2 ≤ bits) (most : bits < 32)
    (follows : Follows second) :
    encode (Char.ofNat (bits * 64 + (second.toNat - 0x80))) = [first, second] := by
  obtain ⟨low, high⟩ := follows
  rw [encode_ofNat (.inl (by omega)), if_neg (by omega), if_pos (by omega),
    ofNat_eq_of_toNat_eq first (by omega), ofNat_eq_of_toNat_eq second (by omega)]

/-- The second of three bytes rules out what two bytes hold, and surrogates. -/
theorem encode_three (known : first.toNat = 0xE0 + bits) (most : bits < 16) (follows : Follows second)
    (long : bits = 0 → 0xA0 ≤ second.toNat) (noSurrogate : bits = 13 → second.toNat ≤ 0x9F)
    (follows' : Follows third) :
    encode (Char.ofNat ((bits * 64 + (second.toNat - 0x80)) * 64 + (third.toNat - 0x80)))
      = [first, second, third] := by
  obtain ⟨low, high⟩ := follows
  obtain ⟨low', high'⟩ := follows'
  have valid : (bits * 64 + (second.toNat - 0x80)) * 64 + (third.toNat - 0x80) < 0xD800
      ∨ 0xDFFF < (bits * 64 + (second.toNat - 0x80)) * 64 + (third.toNat - 0x80) := by
    omega
  rw [encode_ofNat (valid.imp_right fun above => ⟨above, by omega⟩), if_neg (by omega),
    if_neg (by omega), if_pos (by omega), ofNat_eq_of_toNat_eq first (by omega),
    ofNat_eq_of_toNat_eq second (by omega), ofNat_eq_of_toNat_eq third (by omega)]

/-- The second of four bytes rules out what three bytes hold, and what is beyond all characters. -/
theorem encode_four (known : first.toNat = 0xF0 + bits) (most : bits < 5) (follows : Follows second)
    (long : bits = 0 → 0x90 ≤ second.toNat) (inside : bits = 4 → second.toNat ≤ 0x8F)
    (follows' : Follows third) (follows'' : Follows fourth) :
    encode (Char.ofNat (((bits * 64 + (second.toNat - 0x80)) * 64 + (third.toNat - 0x80)) * 64
        + (fourth.toNat - 0x80)))
      = [first, second, third, fourth] := by
  obtain ⟨low, high⟩ := follows
  obtain ⟨low', high'⟩ := follows'
  obtain ⟨low'', high''⟩ := follows''
  rw [encode_ofNat (.inr ⟨by omega, by omega⟩), if_neg (by omega), if_neg (by omega), if_neg (by omega),
    ofNat_eq_of_toNat_eq first (by omega), ofNat_eq_of_toNat_eq second (by omega),
    ofNat_eq_of_toNat_eq third (by omega), ofNat_eq_of_toNat_eq fourth (by omega)]

/-- What the decoder knows after the first byte of several. -/
inductive Led (first : UInt8) : Pending → Prop
  | two {bits : Nat} (known : first.toNat = 0xC0 + bits) (least : 2 ≤ bits) (most : bits < 32) :
      Led first ⟨1, 0x80, 0xBF, bits, 1⟩
  | three {low high : UInt8} {bits : Nat} (known : first.toNat = 0xE0 + bits) (most : bits < 16)
      (ordered : low ≤ high) (floor : 0x80 ≤ low.toNat) (ceiling : high.toNat ≤ 0xBF)
      (long : bits = 0 → 0xA0 ≤ low.toNat) (noSurrogate : bits = 13 → high.toNat ≤ 0x9F) :
      Led first ⟨2, low, high, bits, 1⟩
  | four {low high : UInt8} {bits : Nat} (known : first.toNat = 0xF0 + bits) (most : bits < 5)
      (ordered : low ≤ high) (floor : 0x80 ≤ low.toNat) (ceiling : high.toNat ≤ 0xBF)
      (long : bits = 0 → 0x90 ≤ low.toNat) (inside : bits = 4 → high.toNat ≤ 0x8F) :
      Led first ⟨3, low, high, bits, 1⟩

theorem led_of_lead? {pending : Pending} (lead : lead? first = some pending) : Led first pending := by
  unfold lead? at lead
  dsimp only at lead
  split_ifs at lead with two atE0 atED three atF0 four atF4 <;> rw [Option.some.injEq] at lead <;>
    subst lead
  · exact .two (by omega) (by omega) (by omega)
  · exact .three atE0 (by decide) (by decide) (by decide) (by decide) (fun _ => by decide) (by decide)
  · exact .three atED (by decide) (by decide) (by decide) (by decide) (by decide) (fun _ => by decide)
  · exact .three (by omega) (by omega) (by decide) (by decide) (by decide) (by omega) (by omega)
  · exact .four atF0 (by decide) (by decide) (by decide) (by decide) (fun _ => by decide) (by decide)
  · exact .four (by omega) (by omega) (by decide) (by decide) (by decide) (by omega) (by omega)
  · exact .four atF4 (by decide) (by decide) (by decide) (by decide) (by decide) (fun _ => by decide)

theorem Led.ordered {pending : Pending} (led : Led first pending) :
    pending.least ≤ pending.greatest := by
  cases led with
  | two => exact show (0x80 : UInt8) ≤ 0xBF by decide
  | three _ _ ordered => exact ordered
  | four _ _ ordered => exact ordered

theorem Led.floor {pending : Pending} (led : Led first pending) : 0x80 ≤ pending.least.toNat := by
  cases led with
  | two => exact le_rfl
  | three _ _ _ floor => exact floor
  | four _ _ _ floor => exact floor

theorem Pending.after_ordered (pending : Pending) (byte : UInt8) :
    (pending.after byte).least ≤ (pending.after byte).greatest :=
  show (0x80 : UInt8) ≤ 0xBF by decide

theorem Pending.Fits.bounds {pending : Pending} (fits : pending.Fits first) :
    pending.least.toNat ≤ first.toNat ∧ first.toNat ≤ pending.greatest.toNat :=
  ⟨UInt8.le_iff_toNat_le.mp fits.1, UInt8.le_iff_toNat_le.mp fits.2⟩

/-- The further bytes of a character are no characters alone. -/
theorem Pending.Owes.wide {pending : Pending} {tail : List UInt8} {letter : Char}
    (owes : pending.Owes tail letter) (floor : 0x80 ≤ pending.least.toNat) :
    ∀ byte ∈ tail, 0x80 ≤ byte.toNat := by
  induction owes with
  | last fits =>
    intro byte member
    rw [List.mem_singleton.mp member]
    exact floor.trans fits.bounds.1
  | more fits _ _ hypothesis =>
    intro byte member
    rcases List.mem_cons.mp member with rfl | later
    · exact floor.trans fits.bounds.1
    · exact hypothesis le_rfl byte later

/-- A begun character that owes one byte. -/
theorem Pending.Owes.one {pending : Pending} {tail : List UInt8} {letter : Char}
    (owes : pending.Owes tail letter) (owed : pending.owed = 1) :
    ∃ byte, tail = [byte] ∧ pending.Fits byte ∧ letter = Char.ofNat (pending.after byte).bits := by
  cases owes with
  | last fits => exact ⟨_, rfl, fits, rfl⟩
  | more _ more => omega

/-- A begun character that owes more. -/
theorem Pending.Owes.several {pending : Pending} {tail : List UInt8} {letter : Char}
    (owes : pending.Owes tail letter) (owed : 1 < pending.owed) :
    ∃ byte rest, tail = byte :: rest ∧ pending.Fits byte ∧ (pending.after byte).Owes rest letter := by
  cases owes with
  | last _ last => omega
  | more fits _ further => exact ⟨_, _, rfl, fits, further⟩

/-- The bytes owed after a first byte make it a character. -/
theorem encode_of_owes {pending : Pending} {tail : List UInt8} {letter : Char}
    (lead : lead? first = some pending) (owes : pending.Owes tail letter) :
    encode letter = first :: tail := by
  cases led_of_lead? lead with
  | two known least most =>
    obtain ⟨second, rfl, fits, made⟩ := owes.one rfl
    rw [made]
    exact encode_two known least most fits.bounds
  | three known most _ floor ceiling long noSurrogate =>
    obtain ⟨second, rest, rfl, fits, further⟩ := owes.several (Nat.lt_succ_self 1)
    obtain ⟨third, rfl, fits', made⟩ := further.one rfl
    obtain ⟨low, high⟩ := fits.bounds
    rw [made]
    exact encode_three known most ⟨floor.trans low, high.trans ceiling⟩
      (fun zero => (long zero).trans low) (fun limit => high.trans (noSurrogate limit)) fits'.bounds
  | four known most _ floor ceiling long inside =>
    obtain ⟨second, rest, rfl, fits, further⟩ := owes.several (show 1 < 3 by decide)
    obtain ⟨third, rest, rfl, fits', further⟩ := further.several (Nat.lt_succ_self 1)
    obtain ⟨fourth, rfl, fits'', made⟩ := further.one rfl
    obtain ⟨low, high⟩ := fits.bounds
    rw [made]
    exact encode_four known most ⟨floor.trans low, high.trans ceiling⟩
      (fun zero => (long zero).trans low) (fun limit => high.trans (inside limit)) fits'.bounds
      fits''.bounds

end Sequences

/-- **What a first byte of several leads to**: the characters that begin with it are those whose further bytes
the decoder expects. -/
theorem encode_eq_cons_iff {byte : UInt8} {tail : List UInt8} {letter : Char} (wide : ¬ byte < 0x80) :
    encode letter = byte :: tail ↔ ∃ pending, lead? byte = some pending ∧ pending.Owes tail letter := by
  constructor
  · intro same
    have done := piecesFrom_utf8EncodeChar letter []
    rw [List.append_nil, show String.utf8EncodeChar letter = byte :: tail from same] at done
    cases lead : lead? byte with
    | none =>
      rw [piecesFrom_of_no_lead wide lead] at done
      cases done
    | some pending =>
      rw [piecesFrom_of_lead wide lead] at done
      exact ⟨pending, rfl, owes_of_piecesFrom done⟩
  · rintro ⟨pending, lead, owes⟩
    exact encode_of_owes lead owes

/-! ### What the decoder reads -/

/-- A begun character owes something, if some byte may follow. -/
theorem Pending.exists_owes (pending : Pending) (ordered : pending.least ≤ pending.greatest) :
    ∃ tail letter, pending.Owes tail letter := by
  induction known : pending.owed generalizing pending with
  | zero => exact ⟨_, _, .last ⟨UInt8.le_refl _, ordered⟩ (by omega)⟩
  | succ owed hypothesis =>
    have fits : pending.Fits pending.least := ⟨UInt8.le_refl _, ordered⟩
    by_cases last : pending.owed ≤ 1
    · exact ⟨_, _, .last fits last⟩
    · have fewer : (pending.after pending.least).owed = owed := by
        rw [Pending.after, known]
        rfl
      obtain ⟨tail, letter, further⟩ :=
        hypothesis _ (pending.after_ordered pending.least) fewer
      exact ⟨_, _, .more fits (Nat.not_le.mp last) further⟩

/-- The bytes that were read of a character, and what the decoder expects after them. -/
structure Begun (begun : List UInt8) (pending : Pending) : Prop where
  nonempty : begun ≠ []
  ordered : pending.least ≤ pending.greatest
  owes : ∀ tail letter, encode letter = begun ++ tail ↔ pending.Owes tail letter

theorem begun_of_lead? {byte : UInt8} {pending : Pending} (wide : ¬ byte < 0x80)
    (lead : lead? byte = some pending) : Begun [byte] pending where
  nonempty := List.cons_ne_nil _ _
  ordered := (led_of_lead? lead).ordered
  owes tail letter := by
    rw [List.singleton_append, encode_eq_cons_iff wide, lead]
    exact ⟨fun ⟨_, same, owes⟩ => Option.some.inj same ▸ owes, fun owes => ⟨_, rfl, owes⟩⟩

namespace Begun

variable {begun rest tail : List UInt8} {pending : Pending} {byte : UInt8} {letter : Char}

theorem fits_of_encode (reached : Begun begun pending) (same : encode letter = begun ++ byte :: tail) :
    pending.Fits byte := by
  cases (reached.owes _ _).mp same with
  | last fits => exact fits
  | more fits => exact fits

/-- The last byte completes the character. -/
theorem last (reached : Begun begun pending) (fits : pending.Fits byte) (last : pending.owed ≤ 1) :
    encode (Char.ofNat (pending.after byte).bits) = begun ++ [byte] :=
  (reached.owes _ _).mpr (.last fits last)

/-- Another byte goes on with the character. -/
theorem after (reached : Begun begun pending) (fits : pending.Fits byte) (more : 1 < pending.owed) :
    Begun (begun ++ [byte]) (pending.after byte) where
  nonempty := List.append_ne_nil_of_right_ne_nil _ (List.cons_ne_nil _ _)
  ordered := pending.after_ordered byte
  owes tail letter := by
    rw [List.append_assoc, List.singleton_append, reached.owes]
    constructor
    · intro owes
      cases owes with
      | last _ last => omega
      | more _ _ further => exact further
    · exact .more fits more

/-- What was read is a proper beginning of a character. -/
theorem proper (reached : Begun begun pending) :
    ∃ letter tail, encode letter = begun ++ tail ∧ tail ≠ [] := by
  obtain ⟨tail, letter, owes⟩ := pending.exists_owes reached.ordered
  refine ⟨letter, tail, (reached.owes _ _).mpr owes, ?_⟩
  cases owes <;> exact List.cons_ne_nil _ _

/-- What was read is one piece, if what comes then does not fit. -/
theorem maximal (reached : Begun begun pending)
    (unfit : ∀ byte further, rest = byte :: further → ¬ pending.Fits byte) : MaximalPart begun rest := by
  obtain ⟨character, owed, proper, some_owed⟩ := reached.proper
  refine ⟨reached.nonempty, fun letter whole => ?_, .inl ⟨character, owed, proper.symm⟩,
    fun longer begins inside => ?_⟩
  · rcases List.prefix_or_prefix_of_prefix whole (List.prefix_append begun rest) with inner | ⟨tail, same⟩
    · exact not_encode_prefix_of_append proper some_owed letter inner
    · cases tail with
      | nil =>
        rw [List.append_nil] at same
        exact not_encode_prefix_of_append proper some_owed letter (same ▸ List.prefix_rfl)
      | cons byte tail =>
        rw [← same, List.prefix_append_right_inj] at whole
        obtain ⟨further, next⟩ := whole
        exact unfit byte _ next.symm (reached.fits_of_encode same.symm)
  · by_contra more
    obtain ⟨letter, end', same⟩ := begins
    obtain ⟨tail, split⟩ :=
      List.prefix_of_prefix_length_le (List.prefix_append begun rest) inside (by omega)
    cases tail with
    | nil =>
      rw [List.append_nil] at split
      exact more (split ▸ le_rfl)
    | cons byte tail =>
      rw [← split, List.prefix_append_right_inj] at inside
      obtain ⟨further, next⟩ := inside
      have whole : encode letter = begun ++ byte :: (tail ++ end') := by
        rw [← same, ← split, List.append_assoc, List.cons_append]
      exact unfit byte _ next.symm (reached.fits_of_encode whole)

end Begun

/-- A byte that begins no character is one piece. -/
theorem maximalPart_of_no_lead {byte : UInt8} {rest : List UInt8} (wide : ¬ byte < 0x80)
    (none : lead? byte = none) : MaximalPart [byte] rest := by
  have unled (letter : Char) (tail : List UInt8) : encode letter ≠ byte :: tail := by
    rw [Ne, encode_eq_cons_iff wide, none]
    rintro ⟨_, ⟨⟩, _⟩
  refine ⟨List.cons_ne_nil _ _, fun letter whole => ?_, .inr rfl, fun longer begins inside => ?_⟩
  · obtain ⟨further, same⟩ := whole
    cases bytes : encode letter with
    | nil => exact encode_ne_nil letter bytes
    | cons first tail =>
      rw [bytes, List.cons_append, List.singleton_append, List.cons.injEq] at same
      exact unled letter tail (same.1 ▸ bytes)
  · obtain ⟨letter, end', same⟩ := begins
    cases longer with
    | nil => exact Nat.zero_le _
    | cons first tail =>
      obtain ⟨further, next⟩ := inside
      rw [List.cons_append, List.singleton_append, List.cons.injEq] at next
      exact absurd (next.1 ▸ same.symm) (unled letter _)

/-- What the decoder finds between characters, and after some bytes of a character, is what is read there. -/
theorem reads_pieces (bytes : List UInt8) :
    Reads bytes ((piecesFrom .boundary bytes).map Piece.character)
      ∧ ∀ begun pending, Begun begun pending →
          Reads (begun ++ bytes) ((piecesFrom (.inside pending) bytes).map Piece.character) := by
  induction bytes with
  | nil => exact ⟨.nil, fun begun pending reached => .replaced (reached.maximal nofun) .nil⟩
  | cons byte rest hypothesis =>
    obtain ⟨outside, inside⟩ := hypothesis
    have first : Reads (byte :: rest) ((piecesFrom .boundary (byte :: rest)).map Piece.character) := by
      by_cases narrow : byte < 0x80
      · rw [piecesFrom, step, begin, if_pos narrow, ← List.singleton_append, ← encode_one narrow]
        exact .letter outside
      · cases lead : lead? byte with
        | none =>
          rw [piecesFrom_of_no_lead narrow lead, ← List.singleton_append]
          exact .replaced (maximalPart_of_no_lead narrow lead) outside
        | some pending =>
          rw [piecesFrom_of_lead narrow lead]
          exact inside [byte] pending (begun_of_lead? narrow lead)
    refine ⟨first, fun begun pending reached => ?_⟩
    by_cases fits : pending.Fits byte
    · rw [← List.singleton_append, ← List.append_assoc]
      by_cases last : pending.owed ≤ 1
      · rw [List.singleton_append, piecesFrom_of_last fits last, ← reached.last fits last]
        exact .letter outside
      · have more := Nat.not_le.mp last
        rw [List.singleton_append, piecesFrom_of_more fits more]
        exact inside _ _ (reached.after fits more)
    · rw [piecesFrom_of_not_fits fits]
      refine .replaced (reached.maximal fun other further same => ?_) first
      rw [List.cons.injEq] at same
      exact same.1 ▸ fits

/-- **Bytes are read as what the decoder gives**, and as nothing else. -/
theorem reads_iff {bytes : List UInt8} {letters : List Char} :
    Reads bytes letters ↔ letters = decode bytes :=
  ⟨fun reads => reads.unique (reads_pieces bytes).1, fun same => same ▸ (reads_pieces bytes).1⟩

/-- A text is counted as the characters that it is read as. -/
theorem Reads.characterCount_eq {bytes : List UInt8} {letters : List Char} (reads : Reads bytes letters) :
    characterCount bytes = letters.length := by
  rw [Utf8.characterCount_eq, ← reads_iff.mp reads]

/-- Every byte is in one piece: what the decoder finds between characters, and after some bytes of a character,
takes as many bytes as there are. -/
theorem sum_size_piecesFrom (bytes : List UInt8) :
    ((piecesFrom .boundary bytes).map Piece.size).sum = bytes.length
      ∧ ∀ begun pending, Begun begun pending → pending.taken = begun.length →
          ((piecesFrom (.inside pending) bytes).map Piece.size).sum = begun.length + bytes.length := by
  induction bytes with
  | nil => exact ⟨rfl, fun begun pending _ taken => taken⟩
  | cons byte rest hypothesis =>
    obtain ⟨outside, inside⟩ := hypothesis
    have first : ((piecesFrom .boundary (byte :: rest)).map Piece.size).sum = rest.length + 1 := by
      by_cases narrow : byte < 0x80
      · have one : (Char.ofNat byte.toNat).utf8Size = 1 := by
          rw [← length_encode, encode_one narrow, List.length_singleton]
        rw [piecesFrom, step, begin, if_pos narrow, List.singleton_append, List.map_cons, List.sum_cons,
          outside, Piece.size, one, Nat.add_comm]
      · cases lead : lead? byte with
        | none =>
          rw [piecesFrom_of_no_lead narrow lead, List.map_cons, List.sum_cons, outside, Piece.size,
            Nat.add_comm]
        | some pending =>
          have taken : pending.taken = 1 := by cases led_of_lead? lead <;> rfl
          rw [piecesFrom_of_lead narrow lead, inside [byte] pending (begun_of_lead? narrow lead) taken,
            List.length_singleton, Nat.add_comm]
    refine ⟨first, fun begun pending reached taken => ?_⟩
    by_cases fits : pending.Fits byte
    · by_cases last : pending.owed ≤ 1
      · have whole : (Char.ofNat (pending.after byte).bits).utf8Size = begun.length + 1 := by
          rw [← length_encode, reached.last fits last, List.length_append, List.length_singleton]
        rw [piecesFrom_of_last fits last, List.map_cons, List.sum_cons, outside, Piece.size, whole,
          List.length_cons]
        omega
      · have more := Nat.not_le.mp last
        have further : (pending.after byte).taken = (begun ++ [byte]).length := by
          rw [List.length_append, ← taken]
          rfl
        rw [piecesFrom_of_more fits more, inside _ _ (reached.after fits more) further,
          List.length_append, List.length_singleton, List.length_cons]
        omega
    · rw [piecesFrom_of_not_fits fits, List.map_cons, List.sum_cons, first, Piece.size, taken,
        List.length_cons]

/-- The pieces of a text are together as long as it is. -/
theorem sum_size_pieces (bytes : List UInt8) : ((pieces bytes).map Piece.size).sum = bytes.length :=
  (sum_size_piecesFrom bytes).1

end UnsafeCensus.Utf8
