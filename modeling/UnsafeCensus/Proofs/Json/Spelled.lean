/-
**Letters that are read as a value.**

A value ends before the end of its line, so letters are read as the value when a reader takes all of them wherever a
comma or a line feed follows. A word, a number and a text are read so.

* `Spells`: letters that are read as a value;
* `Spells.word`, `Spells.integer`, `Spells.real`, `Spells.text`: the values that have no others in them;
* `rereadReal`: the number of 64 bits that its text stands for;
* `Rest.skipBlanks_eq`: a reader passes over blanks.
-/

import Mathlib
import UnsafeCensus.Proofs.Json.Numbers
import UnsafeCensus.Proofs.Json.Texts

namespace UnsafeCensus.Json

/-! ### Letters of a value -/

/-- Letters that are read as a value where a value ends behind them. They begin with no blank, and not like the end
of a list. -/
structure Spells (limits : Limits) (value : Value) (letters : List Char) : Prop where
  begins : ∃ first others, letters = first :: others ∧ isBlank first = false ∧ first ≠ ']'
  reads : ∀ (fuel : Nat) {rest : Rest} {tail : List Char}, rest.letters = letters ++ tail → Delimits tail →
    2 * letters.length ≤ fuel → readValue limits fuel rest = .ok (value, rest.skip letters.length)

variable {limits inner : Limits} {rest : Rest} {tail letters : List Char}

/-- What begins like a text is one. -/
theorem readValue_of_quote {others : List Char} (fuel : Nat) (spelled : rest.letters = '"' :: others) :
    readValue limits (fuel + 1) rest
      = (readText rest.offset (rest.letters.length + 1) (rest.skip 1)).map fun read => (.text read.1, read.2) := by
  rw [readValue]
  split
  · cases readText rest.offset (rest.letters.length + 1) (rest.skip 1) <;> rfl
  all_goals simp_all

/-- What begins like a list is one, with or without items, where one more may stand. -/
theorem readValue_of_bracket {others : List Char} (fuel : Nat) (room : limits.inside? = some inner)
    (spelled : rest.letters = '[' :: others) :
    readValue limits (fuel + 1) rest =
      if (rest.skip 1).skipBlanks.letters.head? == some ']' then
        .ok (.list [], (rest.skip 1).skipBlanks.skip 1)
      else (readItems inner fuel (rest.skip 1).skipBlanks).map fun read => (.list read.1, read.2) := by
  rw [readValue, room]
  split
  · simp_all
  · refine if_congr Iff.rfl rfl ?_
    cases readItems inner fuel (rest.skip 1).skipBlanks <;> rfl
  all_goals simp_all

/-- What begins like an object is one, with or without members, where one more may stand. -/
theorem readValue_of_brace {others : List Char} (fuel : Nat) (room : limits.inside? = some inner)
    (spelled : rest.letters = '\x7b' :: others) :
    readValue limits (fuel + 1) rest =
      if (rest.skip 1).skipBlanks.letters.head? == some '\x7d' then
        .ok (.object [], (rest.skip 1).skipBlanks.skip 1)
      else (readMembers inner fuel [] (rest.skip 1).skipBlanks).map fun read => (.object read.1, read.2) := by
  rw [readValue, room]
  split
  · simp_all
  · simp_all
  · refine if_congr Iff.rfl rfl ?_
    cases readMembers inner fuel [] (rest.skip 1).skipBlanks <;> rfl
  · simp_all

/-- What begins neither a text nor a list nor an object is a word or a number. -/
theorem readValue_of_other {first : Char} {others : List Char} (fuel : Nat)
    (other : first ≠ '"' ∧ first ≠ '[' ∧ first ≠ '\x7b') (spelled : rest.letters = first :: others) :
    readValue limits (fuel + 1) rest =
      match word? rest.letters with
      | some (word, value) => .ok (value, rest.skip word.length)
      | none => readNumber limits.digits rest := by
  rw [readValue]
  split
  · rename_i same
    rw [same] at spelled
    cases spelled
    exact absurd rfl other.1
  · rename_i same
    rw [same] at spelled
    cases spelled
    exact absurd rfl other.2.1
  · rename_i same
    rw [same] at spelled
    cases spelled
    exact absurd rfl other.2.2
  · rfl

theorem mem_words_iff {word : String} {value : Value} :
    (word, value) ∈ words ↔ word = "null" ∧ value = .null ∨ word = "true" ∧ value = .boolean true
      ∨ word = "false" ∧ value = .boolean false ∨ word = "NaN" ∧ value = .real .nan
      ∨ word = "Infinity" ∧ value = .real (.infinite false) ∨ word = "-Infinity" ∧ value = .real (.infinite true) := by
  simp only [words, List.mem_cons, List.not_mem_nil, or_false, Prod.mk.injEq]

/-- A word is found in front of anything. -/
theorem word?_append {word : String} {value : Value} (member : (word, value) ∈ words) (tail : List Char) :
    word? (word.toList ++ tail) = some (word, value) := by
  rcases mem_words_iff.mp member with ⟨rfl, rfl⟩ | ⟨rfl, rfl⟩ | ⟨rfl, rfl⟩ | ⟨rfl, rfl⟩ | ⟨rfl, rfl⟩ | ⟨rfl, rfl⟩ <;>
    rfl

theorem exists_letters_of_word {word : String} {value : Value} (member : (word, value) ∈ words) :
    ∃ first others, word.toList = first :: others ∧ isBlank first = false ∧ first ≠ ']'
      ∧ first ≠ '"' ∧ first ≠ '[' ∧ first ≠ '\x7b' := by
  rcases mem_words_iff.mp member with ⟨rfl, rfl⟩ | ⟨rfl, rfl⟩ | ⟨rfl, rfl⟩ | ⟨rfl, rfl⟩ | ⟨rfl, rfl⟩ | ⟨rfl, rfl⟩ <;>
    exact ⟨_, _, rfl, by decide⟩

theorem Spells.word (word : String) {value : Value} (member : (word, value) ∈ words) :
    Spells limits value word.toList := by
  obtain ⟨first, others, spelling, begins⟩ := exists_letters_of_word member
  refine ⟨⟨first, others, spelling, begins.1, begins.2.1⟩, fun fuel {rest tail} spelled _ enough => ?_⟩
  obtain ⟨fuel, rfl⟩ : ∃ before, fuel = before + 1 := ⟨fuel - 1, by simp [spelling] at enough; omega⟩
  rw [readValue_of_other fuel begins.2.2 (by rw [spelled, spelling]; rfl), spelled, word?_append member,
    String.length_toList]

/-- No word begins like a number. -/
theorem word?_eq_none {first : Char} (digit : first.isDigit = true) (others : List Char) (negative : Bool) :
    word? (signLetters negative ++ first :: others) = none := by
  have other (letter : Char) (known : letter.isDigit = false) : letter ≠ first := by
    rintro rfl
    rw [known] at digit
    cases digit
  rw [word?, List.find?_eq_none]
  rintro ⟨word, value⟩ member
  rcases mem_words_iff.mp member with ⟨rfl, rfl⟩ | ⟨rfl, rfl⟩ | ⟨rfl, rfl⟩ | ⟨rfl, rfl⟩ | ⟨rfl, rfl⟩ | ⟨rfl, rfl⟩ <;>
    cases negative <;>
      simp [signLetters, other 'n' rfl, other 't' rfl, other 'f' rfl, other 'N' rfl, other 'I' rfl, other '-' rfl]

/-- Letters of a number are read as the number. -/
theorem Spells.number {negative : Bool} {whole fraction mark : List Char} {value : Value} (isWhole : IsWhole whole)
    (read : ∀ (rest : Rest) (tail : List Char), Delimits tail →
      rest.letters = numberLetters negative whole fraction mark ++ tail →
        readNumber limits.digits rest = .ok (value, rest.skip (numberLetters negative whole fraction mark).length)) :
    Spells limits value (numberLetters negative whole fraction mark) := by
  obtain ⟨digit, digits, rfl, isDigit⟩ := isWhole.exists_cons
  obtain ⟨others, spelling⟩ : ∃ others,
      numberLetters negative (digit :: digits) fraction mark = signLetters negative ++ digit :: others := ⟨_, rfl⟩
  obtain ⟨first, more, begins, known⟩ : ∃ first more, signLetters negative ++ digit :: others = first :: more
      ∧ (first.isDigit = true ∨ first = '-') := by
    cases negative
    · exact ⟨digit, others, rfl, .inl isDigit⟩
    · exact ⟨'-', digit :: others, rfl, .inr rfl⟩
  have proper (letter : Char) (other : letter.isDigit = false ∧ letter ≠ '-') : first ≠ letter := by
    rintro rfl
    rcases known with known | known
    · rw [other.1] at known
      cases known
    · exact other.2 known
  have noBlank : isBlank first = false := by
    simp [isBlank, proper ' ' (by decide), proper '\t' (by decide), proper '\n' (by decide), proper '\r' (by decide)]
  rw [spelling] at read ⊢
  refine ⟨⟨first, more, begins, noBlank, proper ']' (by decide)⟩, fun fuel {rest tail} spelled delimits enough => ?_⟩
  obtain ⟨fuel, rfl⟩ : ∃ before, fuel = before + 1 := ⟨fuel - 1, by simp [begins] at enough; omega⟩
  rw [readValue_of_other fuel ⟨proper _ (by decide), proper _ (by decide), proper _ (by decide)⟩
    (by rw [spelled, begins]; rfl), read rest tail delimits spelled, spelled, List.append_assoc, List.cons_append,
    word?_eq_none isDigit]

theorem Spells.integer {value : Int} (short : isAbove limits.digits (Nat.toDigits 10 value.natAbs).length = false) :
    Spells limits (.integer value) (toString value).toList := by
  have size : (if decide (value < 0) then -(value.natAbs : Int) else value.natAbs) = value := by
    by_cases negative : value < 0
    · rw [decide_eq_true negative, if_pos rfl]
      omega
    · rw [decide_eq_false negative, if_neg Bool.false_ne_true]
      omega
  rw [toList_toString_int]
  refine .number (isWhole_toDigits _) fun rest tail delimits spelled => ?_
  rw [readNumber_integer _ (isWhole_toDigits _) short delimits spelled, decimalNumber_digits, size]

/-- The number that the text of a number of 64 bits stands for. -/
def rereadReal (number : Binary64) : Binary64 :=
  match readNumber none ⟨(writtenReal number).toList, 0⟩ with
  | .ok (.real again, _) => again
  | _ => number

/-- A number of 64 bits is read as the number that its text stands for. -/
theorem Spells.real (number : Binary64) :
    Spells limits (.real (rereadReal number)) (writtenReal number).toList := by
  cases number with
  | nan => exact .word "NaN" (by simp [mem_words_iff]; rfl)
  | infinite negative =>
    cases negative
    · exact .word "Infinity" (by simp [mem_words_iff]; rfl)
    · exact .word "-Infinity" (by simp [mem_words_iff]; rfl)
  | finite negative significand exponent =>
    obtain ⟨whole, fraction, mark, parts⟩ := exists_parts_text negative significand exponent
    obtain ⟨number, read⟩ := exists_readNumber_real negative parts.isWhole parts.digits parts.isMark parts.more
    have letters : (writtenReal (.finite negative significand exponent)).toList
        = numberLetters negative whole fraction mark := parts.spelled
    have found := read none [] ⟨numberLetters negative whole fraction mark, 0⟩ (by simp [Delimits])
      (List.append_nil _).symm
    have again : rereadReal (.finite negative significand exponent) = number := by
      -- Its equation takes seconds to derive, since the match is unfolded for it.
      delta rereadReal
      rw [letters, found]
    rw [again, letters]
    exact .number parts.isWhole fun rest tail => read limits.digits tail rest

theorem toList_writtenText (points : Text) :
    (writtenText points).toList = '"' :: (points.flatMap writtenPoint ++ ['"']) :=
  String.toList_ofList

/-- A text is read up to its closing quote. -/
theorem readText_writtenText {points : Text} (isText : IsText points) (opening : Nat)
    (spelled : rest.letters = (writtenText points).toList ++ tail) :
    readText opening (rest.letters.length + 1) (rest.skip 1)
      = .ok (points, rest.skip (writtenText points).toList.length) := by
  have quoted : rest.letters = '"' :: (points.flatMap writtenPoint ++ '"' :: tail) := by
    rw [spelled, toList_writtenText, List.cons_append, List.append_assoc]
    rfl
  have enough : (points.flatMap writtenPoint).length < rest.letters.length + 1 := by
    rw [quoted]
    simp only [List.length_append, List.length_cons]
    omega
  rw [readText_written isText (Rest.letters_skip_one quoted) enough, Rest.skip_skip, toList_writtenText,
    List.length_cons, List.length_append, List.length_singleton, Nat.add_comm 1]

theorem Spells.text {points : Text} (isText : IsText points) :
    Spells limits (.text points) (writtenText points).toList := by
  refine ⟨⟨'"', _, toList_writtenText points, by decide⟩, fun fuel {rest tail} spelled _ enough => ?_⟩
  obtain ⟨fuel, rfl⟩ : ∃ before, fuel = before + 1 := ⟨fuel - 1, by simp [toList_writtenText] at enough; omega⟩
  have quoted : rest.letters = '"' :: (points.flatMap writtenPoint ++ ['"'] ++ tail) := by
    rw [spelled, toList_writtenText]
    rfl
  have read := readText_writtenText isText rest.offset spelled
  rw [readValue_of_quote fuel quoted, read]
  rfl

/-! ### Blanks -/

/-- Letters that are passed over between values. -/
def AreBlanks (letters : List Char) : Prop :=
  ∀ letter ∈ letters, isBlank letter = true

theorem areBlanks_newLine (depth : Nat) : AreBlanks (newLine depth).toList := by
  rw [newLine, String.toList_ofList]
  intro letter member
  rcases List.mem_cons.mp member with rfl | member
  · rfl
  · rw [List.eq_of_mem_replicate member]
    rfl

/-- Blanks are passed over up to what is none. -/
theorem Rest.skipBlanks_eq (blanks : List Char) (areBlanks : AreBlanks blanks)
    (stops : ∀ letter ∈ tail.head?, isBlank letter = false) (spelled : rest.letters = blanks ++ tail) :
    rest.skipBlanks = rest.skip blanks.length := by
  have none : tail.takeWhile isBlank = [] := by
    cases tail with
    | nil => rfl
    | cons first others => exact List.takeWhile_cons_of_neg (by simp [stops first rfl])
  rw [skipBlanks, spelled, List.takeWhile_append_of_pos areBlanks, none, List.append_nil]

theorem Rest.skipBlanks_of_cons {mark : Char} (proper : isBlank mark = false) (spelled : rest.letters = mark :: tail) :
    rest.skipBlanks = rest :=
  Rest.skipBlanks_eq [] nofun (by rintro _ ⟨⟩; exact proper) spelled

/-- A value begins with no blank. -/
theorem Spells.stops {value : Value} (spells : Spells limits value letters) (tail : List Char) :
    ∀ letter ∈ (letters ++ tail).head?, isBlank letter = false := by
  obtain ⟨first, others, rfl, noBlank, _⟩ := spells.begins
  rintro _ ⟨⟩
  exact noBlank

end UnsafeCensus.Json
