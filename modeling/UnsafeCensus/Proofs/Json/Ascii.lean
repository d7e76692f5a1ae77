/-
**A document is written in ASCII.**

A text is written with escapes for everything that is no visible character of ASCII, and the digits, signs, words,
brackets and blanks around it are characters of ASCII themselves. Of the characters before the blank only line
feeds are written.

* `AreAscii`: letters all of which are characters of ASCII;
* `ArePlain`: letters of ASCII without those before the blank, line feeds apart;
* `arePlain_writtenText`: a text between quotes;
* `arePlain_writtenReal`: a number of 64 bits, from its parts;
* `arePlain_written`, `areAscii_written`: a document, by induction on its value.
-/

import Mathlib
import UnsafeCensus.Proofs.Json.Numbers

namespace UnsafeCensus.Json

/-- Letters all of which are characters of ASCII. -/
def AreAscii (letters : List Char) : Prop :=
  ∀ letter ∈ letters, letter.toNat < 128

/-- A line feed, or a character of ASCII that does not stand before the blank. -/
def IsPlain (letter : Char) : Prop :=
  letter = '\n' ∨ (32 ≤ letter.toNat ∧ letter.toNat < 128)

instance (letter : Char) : Decidable (IsPlain letter) :=
  inferInstanceAs (Decidable (_ ∨ _))

/-- Letters all of which are line feeds or characters of ASCII that do not stand before the blank. -/
def ArePlain (letters : List Char) : Prop :=
  ∀ letter ∈ letters, IsPlain letter

instance (letters : List Char) : Decidable (ArePlain letters) :=
  decidable_of_iff (letters.all fun letter => IsPlain letter) (by simp [ArePlain])

theorem IsPlain.lt {letter : Char} (plain : IsPlain letter) : letter.toNat < 128 := by
  rcases plain with rfl | ⟨_, below⟩
  · decide
  · exact below

variable {letters first second : List Char}

theorem ArePlain.append (plain : ArePlain first) (plain' : ArePlain second) : ArePlain (first ++ second) :=
  List.forall_mem_append.mpr ⟨plain, plain'⟩

theorem ArePlain.cons {letter : Char} (plain : IsPlain letter) (plain' : ArePlain letters) :
    ArePlain (letter :: letters) :=
  List.forall_mem_cons.mpr ⟨plain, plain'⟩

theorem ArePlain.intercalate {parts : List (List Char)} (plain : ArePlain letters)
    (all : ∀ part ∈ parts, ArePlain part) : ArePlain (letters.intercalate parts) := by
  induction parts with
  | nil => exact nofun
  | cons part parts hypothesis =>
    obtain ⟨here, others⟩ := List.forall_mem_cons.mp all
    cases parts with
    | nil => rwa [List.intercalate_singleton]
    | cons next parts =>
      rw [List.intercalate_cons_cons]
      exact (here.append plain).append (hypothesis others)

/-! ### Texts -/

theorem isPlain_digitChar : ∀ value < 16, IsPlain (Nat.digitChar value) := by
  decide

theorem arePlain_hexDigits (width value : Nat) : ArePlain (Quoted.hexDigits width value) := by
  induction width generalizing value with
  | zero => exact nofun
  | succ width hypothesis =>
    exact (hypothesis _).append (.cons (isPlain_digitChar _ (Nat.mod_lt _ (by decide))) nofun)

theorem arePlain_unitEscape (unit : Nat) : ArePlain (unitEscape unit) :=
  .cons (by decide) (.cons (by decide) (arePlain_hexDigits 4 unit))

theorem arePlain_writtenPoint (point : Nat) : ArePlain (writtenPoint point) := by
  fun_cases writtenPoint point with
  | case1 | case2 | case3 | case4 | case5 | case6 | case7 => decide
  | case8 point _ _ _ _ _ _ _ visible =>
    refine .cons (.inr ?_) nofun
    rw [Char.toNat_ofNat, if_pos (.inl (by omega))]
    omega
  | case9 => exact arePlain_unitEscape _
  | case10 => exact (arePlain_unitEscape _).append (arePlain_unitEscape _)

theorem arePlain_writtenText (points : Text) : ArePlain (writtenText points).toList := by
  rw [writtenText, String.toList_ofList]
  refine .append (.cons (by decide) fun letter member => ?_) (.cons (by decide) nofun)
  obtain ⟨point, _, written⟩ := List.mem_flatMap.mp member
  exact arePlain_writtenPoint point letter written

/-! ### Numbers -/

theorem AreDigits.arePlain (digits : AreDigits letters) : ArePlain letters := by
  intro letter member
  have digit := digits letter member
  simp only [Char.isDigit, Bool.and_eq_true, decide_eq_true_eq, ge_iff_le] at digit
  have above := UInt32.le_iff_toNat_le.mp digit.1
  have below := UInt32.le_iff_toNat_le.mp digit.2
  exact .inr ⟨Nat.le_trans (by decide) above, Nat.lt_of_le_of_lt below (by decide)⟩

theorem IsMark.arePlain {mark : List Char} (isMark : IsMark mark) : ArePlain mark := by
  cases isMark with
  | absent => exact nofun
  | present negative digits => exact .cons (by decide) (.cons (by cases negative <;> decide) digits.arePlain)

theorem arePlain_numberLetters (negative : Bool) {whole fraction mark : List Char} (isWhole : IsWhole whole)
    (digits : AreDigits fraction) (isMark : IsMark mark) :
    ArePlain (numberLetters negative whole fraction mark) := by
  have sign : ArePlain (signLetters negative) := by cases negative <;> decide
  have point : ArePlain (pointLetters fraction) := by
    rw [pointLetters]
    split
    · exact List.forall_mem_nil _
    · exact .cons (by decide) digits.arePlain
  exact sign.append (isWhole.areDigits.arePlain.append (point.append isMark.arePlain))

theorem arePlain_toString_int (value : Int) : ArePlain (toString value).toList := by
  rw [toList_toString_int]
  exact arePlain_numberLetters _ (isWhole_toDigits _) nofun .absent

theorem arePlain_writtenReal (number : Binary64) : ArePlain (writtenReal number).toList := by
  cases number with
  | nan => decide
  | infinite negative => cases negative <;> decide
  | finite negative significand exponent =>
    obtain ⟨whole, fraction, mark, parts⟩ := exists_parts_text negative significand exponent
    have spelled : (writtenReal (.finite negative significand exponent)).toList = _ := parts.spelled
    rw [spelled]
    exact arePlain_numberLetters negative parts.isWhole parts.digits parts.isMark

/-! ### Documents -/

theorem arePlain_newLine (depth : Nat) : ArePlain (newLine depth).toList := by
  rw [newLine, String.toList_ofList]
  refine .cons (by decide) fun letter member => ?_
  rw [List.eq_of_mem_replicate member]
  decide

theorem arePlain_enclosed {opening closing : String} (depth : Nat) {lines : List String}
    (brackets : ArePlain opening.toList ∧ ArePlain closing.toList) (all : ∀ line ∈ lines, ArePlain line.toList) :
    ArePlain (enclosed opening closing depth lines).toList := by
  have lined : ∀ part ∈ lines.map String.toList, ArePlain part := by
    rintro _ member
    obtain ⟨line, known, rfl⟩ := List.mem_map.mp member
    exact all line known
  have comma : ArePlain ("," ++ newLine (depth + 1)).toList := by
    rw [String.toList_append]
    exact .append (by decide) (arePlain_newLine _)
  rw [enclosed]
  split
  · rw [String.toList_append]
    exact brackets.1.append brackets.2
  · simp only [String.toList_append, String.toList_intercalate]
    exact (((brackets.1.append (arePlain_newLine _)).append (.intercalate (by simpa using comma) lined)).append
      (arePlain_newLine _)).append brackets.2

mutual

/-- What is written of a value is in plain letters of ASCII. -/
theorem arePlain_writtenAt (depth : Nat) : ∀ value : Value, ArePlain (value.writtenAt depth).toList
  | .null => (by decide : ArePlain "null".toList)
  | .boolean true => (by decide : ArePlain "true".toList)
  | .boolean false => (by decide : ArePlain "false".toList)
  | .integer value => arePlain_toString_int value
  | .real number => arePlain_writtenReal number
  | .text points => arePlain_writtenText points
  | .list items =>
    arePlain_enclosed depth (by decide) (arePlain_writtenItems (depth + 1) items)
  | .object members =>
    arePlain_enclosed depth (by decide) (arePlain_writtenMembers (depth + 1) members)

theorem arePlain_writtenItems (depth : Nat) :
    ∀ (items : List Value), ∀ line ∈ Value.writtenItems depth items, ArePlain line.toList
  | [] => nofun
  | item :: rest =>
    List.forall_mem_cons.mpr ⟨arePlain_writtenAt depth item, arePlain_writtenItems depth rest⟩

theorem arePlain_writtenMembers (depth : Nat) :
    ∀ (members : List (Text × Value)), ∀ line ∈ Value.writtenMembers depth members, ArePlain line.toList
  | [] => nofun
  | (name, value) :: rest => by
    refine List.forall_mem_cons.mpr ⟨?_, arePlain_writtenMembers depth rest⟩
    rw [String.toList_append, String.toList_append]
    exact ((arePlain_writtenText name).append (by decide)).append (arePlain_writtenAt depth value)

end

theorem arePlain_written (value : Value) : ArePlain value.written.toList :=
  arePlain_writtenAt 0 value

/-- **A document is written in ASCII.** -/
theorem areAscii_written (value : Value) : AreAscii value.written.toList :=
  fun letter member => (arePlain_written value letter member).lt

end UnsafeCensus.Json
