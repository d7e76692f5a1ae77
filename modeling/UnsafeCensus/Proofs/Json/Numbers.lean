/-
**Numbers are read back.**

A number is a sign, whole digits that begin with no zero unless they are one, digits after a point and an
exponent; what is not there is not written. A reader takes these parts one after another, and the number ends where
the line does.

* `Delimits`: what a value ends before;
* `IsWhole`, `IsMark`: whole digits, and an exponent with its mark;
* `readNumber_integer`, `readNumber_real`: the parts of a number are read;
* `isWhole_toDigits`: the digits of a number are whole digits;
* `exists_parts_text`: the parts of the text of a number of 64 bits.
-/

import Mathlib
import UnsafeCensus.Json.Reader
import UnsafeCensus.Json.Writer
import UnsafeCensus.Proofs.Text.Numerals

namespace UnsafeCensus.Json

/-- Letters that a value ends before: nothing, or a comma or a line feed in front. -/
def Delimits (letters : List Char) : Prop :=
  ∀ letter ∈ letters.head?, letter = ',' ∨ letter = '\n'

/-- Letters all of which are digits. -/
def AreDigits (letters : List Char) : Prop :=
  ∀ letter ∈ letters, letter.isDigit = true

/-- Letters that do not begin with a digit. -/
def BeginsOther (letters : List Char) : Prop :=
  ∀ letter ∈ letters.head?, letter.isDigit = false

theorem takeWhile_digits {digits tail : List Char} (all : AreDigits digits) (other : BeginsOther tail) :
    (digits ++ tail).takeWhile Char.isDigit = digits := by
  rw [List.takeWhile_append_of_pos all, takeWhile_eq_nil other, List.append_nil]

/-! ### The parts of a number -/

/-- Whole digits: a zero, or digits that begin with none. -/
def IsWhole (digits : List Char) : Prop :=
  digits = ['0'] ∨ (∃ first rest, digits = first :: rest ∧ first ≠ '0') ∧ AreDigits digits

/-- The sign of a number. -/
def signLetters (negative : Bool) : List Char :=
  if negative then ['-'] else []

/-- The digits after a point, with the point if there are any. -/
def pointLetters (fraction : List Char) : List Char :=
  if fraction.isEmpty then [] else '.' :: fraction

/-- An exponent with its mark, or nothing. -/
inductive IsMark : List Char → Prop
  | absent : IsMark []
  | present (negative : Bool) {first : Char} {rest : List Char} (digits : AreDigits (first :: rest)) :
      IsMark ('e' :: (if negative then '-' else '+') :: first :: rest)

variable {whole fraction mark tail : List Char} {most : Option Nat} {rest : Rest}

theorem IsWhole.areDigits (isWhole : IsWhole whole) : AreDigits whole := by
  rcases isWhole with rfl | ⟨_, digits⟩
  · exact fun letter member => by rw [List.mem_singleton.mp member]; rfl
  · exact digits

theorem IsWhole.exists_cons (isWhole : IsWhole whole) :
    ∃ first others, whole = first :: others ∧ first.isDigit = true := by
  have digits := isWhole.areDigits
  rcases isWhole with rfl | ⟨⟨first, others, rfl, _⟩, _⟩
  · exact ⟨_, _, rfl, rfl⟩
  · exact ⟨first, others, rfl, digits first List.mem_cons_self⟩

theorem wholeDigits_append (isWhole : IsWhole whole) (other : BeginsOther tail) :
    wholeDigits (whole ++ tail) = whole := by
  rcases isWhole with rfl | ⟨⟨first, others, rfl, nonzero⟩, digits⟩
  · rfl
  · rw [wholeDigits]
    · exact takeWhile_digits digits other
    · rintro _ same
      cases same
      exact nonzero rfl

theorem fractionDigits_append (digits : AreDigits fraction) (other : BeginsOther tail)
    (noPoint : tail.head? ≠ some '.') : fractionDigits (pointLetters fraction ++ tail) = fraction := by
  cases fraction with
  | nil =>
    show fractionDigits tail = []
    cases tail with
    | nil => rfl
    | cons first others =>
      rw [fractionDigits]
      rintro _ same
      cases same
      exact noPoint rfl
  | cons first others => exact takeWhile_digits digits other

theorem Delimits.not_mem_head? {letter : Char} (delimits : Delimits tail) (other : letter ≠ ',' ∧ letter ≠ '\n') :
    tail.head? ≠ some letter := by
  intro first
  rcases delimits letter first with same | same
  · exact other.1 same
  · exact other.2 same

theorem Delimits.beginsOther (delimits : Delimits tail) : BeginsOther tail := by
  intro letter first
  rcases delimits letter first with rfl | rfl <;> rfl

/-- A mark stands for an exponent, whatever comes after it. -/
theorem exists_exponentDigits (isMark : IsMark mark) :
    ∃ negative digits, (digits = [] ↔ mark = [])
      ∧ ∀ tail, Delimits tail → exponentDigits (mark ++ tail) = (negative, digits, mark.length) := by
  cases isMark with
  | absent =>
    refine ⟨false, [], by simp, fun tail delimits => ?_⟩
    cases tail with
    | nil => rfl
    | cons first others =>
      rcases delimits first rfl with rfl | rfl <;> rfl
  | @present negative first others digits =>
    refine ⟨negative, first :: others, by simp, fun tail delimits => ?_⟩
    have taken : (first :: (others ++ tail)).takeWhile Char.isDigit = first :: others :=
      takeWhile_digits digits delimits.beginsOther
    cases negative <;> simp [exponentDigits, taken] <;> omega

/-! ### Numbers -/

/-- The letters of a number. -/
def numberLetters (negative : Bool) (whole fraction mark : List Char) : List Char :=
  signLetters negative ++ (whole ++ (pointLetters fraction ++ mark))

theorem IsMark.beginsOther (isMark : IsMark mark) (delimits : Delimits tail) : BeginsOther (mark ++ tail) := by
  cases isMark with
  | absent => exact delimits.beginsOther
  | present negative digits =>
    rintro _ ⟨⟩
    rfl

theorem IsMark.head?_ne (isMark : IsMark mark) (delimits : Delimits tail) :
    (mark ++ tail).head? ≠ some '.' := by
  cases isMark with
  | absent => exact delimits.not_mem_head? (by decide)
  | present negative digits => simp

/-- A number is taken apart into its sign, its whole digits, its fraction and its exponent. -/
theorem readNumber_spelled {negative exponentNegative : Bool} {exponent : List Char} (isWhole : IsWhole whole)
    (digits : AreDigits fraction) (isMark : IsMark mark) (delimits : Delimits tail)
    (meant : exponentDigits (mark ++ tail) = (exponentNegative, exponent, mark.length))
    (spelled : rest.letters = numberLetters negative whole fraction mark ++ tail) :
    readNumber most rest =
      if fraction.isEmpty && exponent.isEmpty then
        if isAbove most whole.length then rest.refuse (.tooManyDigits whole.length)
        else .ok (.integer (if negative then -(decimalNumber whole : Int) else decimalNumber whole),
          rest.skip (numberLetters negative whole fraction mark).length)
      else .ok (.real (.ofDecimal negative (decimalNumber (whole ++ fraction))
          ((if exponentNegative then -(decimalNumber exponent : Int) else decimalNumber exponent)
            - fraction.length)),
        rest.skip (numberLetters negative whole fraction mark).length) := by
  have isNegative : (rest.letters.head? == some '-') = negative := by
    obtain ⟨first, others, rfl, digit⟩ := isWhole.exists_cons
    rw [spelled]
    cases negative with
    | true => rfl
    | false =>
      show (some first == some '-') = false
      rw [Option.some_beq_some, beq_eq_false_iff_ne]
      rintro rfl
      cases digit
  have unsigned : rest.letters.drop (if negative then 1 else 0)
      = whole ++ (pointLetters fraction ++ (mark ++ tail)) := by
    rw [spelled]
    cases negative <;> simp [numberLetters, signLetters]
  have pointed : (pointLetters fraction).length = if fraction.isEmpty then 0 else fraction.length + 1 := by
    cases fraction <;> rfl
  have afterWhole : BeginsOther (pointLetters fraction ++ (mark ++ tail)) := by
    cases fraction with
    | nil => exact isMark.beginsOther delimits
    | cons first others =>
      rintro _ ⟨⟩
      rfl
  have nonempty : whole.isEmpty = false := by
    obtain ⟨first, others, rfl, _⟩ := isWhole.exists_cons
    rfl
  have length : (if negative then 1 else 0) + whole.length + (pointLetters fraction).length + mark.length
      = (numberLetters negative whole fraction mark).length := by
    cases negative <;> simp [numberLetters, signLetters] <;> omega
  simp only [readNumber, isNegative, unsigned, wholeDigits_append isWhole afterWhole, List.drop_left,
    fractionDigits_append digits (isMark.beginsOther delimits) (isMark.head?_ne delimits), ← pointed, meant, nonempty,
    length, Bool.false_eq_true, if_false]

/-- A number without fraction and exponent is an integer. -/
theorem readNumber_integer (negative : Bool) (isWhole : IsWhole whole)
    (short : isAbove most whole.length = false) (delimits : Delimits tail)
    (spelled : rest.letters = numberLetters negative whole [] [] ++ tail) :
    readNumber most rest =
      .ok (.integer (if negative then -(decimalNumber whole : Int) else decimalNumber whole),
        rest.skip (numberLetters negative whole [] []).length) := by
  obtain ⟨exponentNegative, exponent, absent, meant⟩ := exists_exponentDigits .absent
  rw [readNumber_spelled isWhole (by simp [AreDigits]) .absent delimits (meant tail delimits) spelled,
    absent.mpr rfl, short]
  rfl

/-- A number with a fraction or an exponent is one of 64 bits, whatever comes after it. -/
theorem exists_readNumber_real (negative : Bool) (isWhole : IsWhole whole) (digits : AreDigits fraction)
    (isMark : IsMark mark) (more : fraction ≠ [] ∨ mark ≠ []) :
    ∃ number, ∀ most tail, ∀ rest : Rest, Delimits tail →
      rest.letters = numberLetters negative whole fraction mark ++ tail →
        readNumber most rest
          = .ok (.real number, rest.skip (numberLetters negative whole fraction mark).length) := by
  obtain ⟨exponentNegative, exponent, absent, meant⟩ := exists_exponentDigits isMark
  have several : (fraction.isEmpty && exponent.isEmpty) = false := by
    rw [Bool.and_eq_false_iff, List.isEmpty_eq_false_iff, List.isEmpty_eq_false_iff, Ne.eq_def exponent, absent]
    exact more
  refine ⟨.ofDecimal negative (decimalNumber (whole ++ fraction))
    ((if exponentNegative then -(decimalNumber exponent : Int) else decimalNumber exponent) - fraction.length),
    fun most tail rest delimits spelled => ?_⟩
  rw [readNumber_spelled isWhole digits isMark delimits (meant tail delimits) spelled, several]
  rfl

/-! ### Digits of a number -/

theorem areDigits_toDigits (number : Nat) : AreDigits (Nat.toDigits 10 number) :=
  fun _ => isDigit_of_mem_toDigits

theorem areDigits_zeros (count : Nat) : AreDigits (List.replicate count '0') :=
  fun letter member => by rw [List.eq_of_mem_replicate member]; rfl

theorem AreDigits.append {first second : List Char} (digits : AreDigits first) (digits' : AreDigits second) :
    AreDigits (first ++ second) :=
  fun letter member => (List.mem_append.mp member).elim (digits letter) (digits' letter)

/-- The digits of a number other than zero begin with none. -/
theorem exists_toDigits_eq {number : Nat} (nonzero : number ≠ 0) :
    ∃ first rest, Nat.toDigits 10 number = first :: rest ∧ first ≠ '0' := by
  induction number using Nat.strong_induction_on with
  | _ number hypothesis =>
    by_cases small : number < 10
    · refine ⟨Nat.digitChar number, [], Nat.toDigits_of_lt_base small, ?_⟩
      interval_cases number <;> first | exact absurd rfl nonzero | decide
    · obtain ⟨first, rest, digits, proper⟩ := hypothesis (number / 10) (by omega) (by omega)
      exact ⟨first, _, by rw [Nat.toDigits_of_base_le (by decide) (by omega), digits, List.cons_append], proper⟩

theorem isWhole_toDigits (number : Nat) : IsWhole (Nat.toDigits 10 number) := by
  by_cases zero : number = 0
  · subst zero
    exact .inl rfl
  · exact .inr ⟨exists_toDigits_eq zero, areDigits_toDigits number⟩

theorem decimalNumber_digits (number : Nat) : decimalNumber (Nat.toDigits 10 number) = number := by
  rw [decimalNumber, ← Nat.ofDigitChars_eq_foldl]
  exact Nat.ofDigitChars_ten_toDigits

/-- An integer is written with the digits of its size. -/
theorem toList_toString_int (value : Int) :
    (toString value).toList = numberLetters (decide (value < 0)) (Nat.toDigits 10 value.natAbs) [] [] := by
  cases value with
  | ofNat size =>
    show (toString size).toList = _
    rw [toList_toString]
    simp [numberLetters, signLetters, pointLetters]
  | negSucc size =>
    show ("-" ++ toString (size + 1)).toList = _
    rw [String.toList_append, toList_toString]
    simp [numberLetters, signLetters, pointLetters]

/-! ### Numbers of 64 bits -/

/-- The parts of a number that is no integer. -/
structure HasParts (negative : Bool) (letters whole fraction mark : List Char) : Prop where
  spelled : letters = numberLetters negative whole fraction mark
  isWhole : IsWhole whole
  digits : AreDigits fraction
  isMark : IsMark mark
  more : fraction ≠ [] ∨ mark ≠ []

/-- The exponent of a decimal is one with a mark. -/
theorem isMark_exponentText (exponent : Int) :
    IsMark (Binary64.exponentText exponent).toList ∧ (Binary64.exponentText exponent).toList ≠ [] := by
  unfold Binary64.exponentText
  extract_lets digits
  have known : digits.toList = Nat.toDigits 10 exponent.natAbs := toList_toString _
  obtain ⟨first, others, spelled, all⟩ : ∃ first others,
      (if digits.length < 2 then "0" else "").toList ++ digits.toList = first :: others
        ∧ AreDigits (first :: others) := by
    rw [known]
    split
    · exact ⟨'0', _, rfl, (areDigits_zeros 1).append (areDigits_toDigits _)⟩
    · obtain ⟨first, others, digits, _⟩ := (isWhole_toDigits exponent.natAbs).exists_cons
      exact ⟨first, others, digits, digits ▸ areDigits_toDigits _⟩
  have whole : ((if exponent < 0 then "e-" else "e+") ++ (if digits.length < 2 then "0" else "") ++ digits).toList
      = 'e' :: (if decide (exponent < 0) then '-' else '+') :: first :: others := by
    rw [String.toList_append, String.toList_append, List.append_assoc, spelled]
    by_cases below : exponent < 0 <;> simp [below]
  rw [whole]
  exact ⟨.present _ all, List.cons_ne_nil _ _⟩

/-- Digits go on from whole digits, which are no single zero. -/
theorem isWhole_cons {first : Char} {others : List Char} (proper : first ≠ '0')
    (digits : AreDigits (first :: others)) : IsWhole (first :: others) :=
  .inr ⟨⟨first, others, rfl, proper⟩, digits⟩

/-- A decimal is laid out with a fraction or an exponent. -/
theorem exists_parts_layOut (decimal : Decimal) :
    ∃ whole fraction mark, HasParts false (Binary64.layOut decimal).toList whole fraction mark := by
  unfold Binary64.layOut
  extract_lets digits count point decimals
  by_cases zero : decimal.coefficient = 0
  · rw [if_pos zero]
    exact ⟨['0'], ['0'], [], rfl, .inl rfl, areDigits_zeros 1, .absent, .inl (by simp)⟩
  obtain ⟨first, others, spelled, proper⟩ : ∃ first others, digits = first :: others ∧ first ≠ '0' :=
    exists_toDigits_eq zero
  have all : AreDigits (first :: others) := spelled ▸ areDigits_toDigits decimal.coefficient
  rw [if_neg zero, spelled]
  split
  · split
    · -- No digit stands before the point.
      refine ⟨['0'], List.replicate point.natAbs '0' ++ first :: others, [], ?_, .inl rfl,
        (areDigits_zeros _).append all, .absent, .inl (by simp)⟩
      simp [Binary64.zeros, numberLetters, signLetters, pointLetters]
    · split
      · -- No digit stands after the point.
        refine ⟨first :: others ++ List.replicate (point - count).toNat '0', ['0'], [], ?_,
          isWhole_cons proper (all.append (areDigits_zeros _)), areDigits_zeros 1, .absent, .inl (by simp)⟩
        simp [Binary64.zeros, numberLetters, signLetters, pointLetters]
      · obtain ⟨before, known⟩ : ∃ before : Nat, point.toNat = before + 1 := ⟨point.toNat - 1, by omega⟩
        have length : count = (first :: others).length := by rw [← spelled]
        refine ⟨first :: others.take before, others.drop before, [], ?_,
          isWhole_cons proper fun letter member => all letter (List.mem_of_mem_take (i := before + 1) member),
          fun letter member => all letter (List.mem_of_mem_drop (i := before + 1) member), .absent, .inl ?_⟩
        · have more : others.drop before ≠ [] := by
            rw [Ne, List.drop_eq_nil_iff]
            simp only [List.length_cons] at length
            omega
          simp [known, numberLetters, signLetters, pointLetters, more]
        · rw [Ne, List.drop_eq_nil_iff]
          simp only [List.length_cons] at length
          omega
  · refine ⟨[first], others, (Binary64.exponentText (point - 1)).toList, ?_,
      isWhole_cons proper fun letter member => all letter (List.mem_of_mem_take (i := 1) member),
      fun letter member => all letter (List.mem_of_mem_drop (i := 1) member), (isMark_exponentText _).1,
      .inr (isMark_exponentText _).2⟩
    have after : decimals = others := congrArg (List.drop 1) spelled
    rw [after]
    cases others <;> simp [numberLetters, signLetters, pointLetters]

/-- The parts of a finite number of 64 bits. -/
theorem exists_parts_text (negative : Bool) (significand : Nat) (exponent : Int) :
    ∃ whole fraction mark,
      HasParts negative (Binary64.finite negative significand exponent).text.toList whole fraction mark := by
  obtain ⟨whole, fraction, mark, parts⟩ := exists_parts_layOut (Binary64.shortest significand exponent)
  refine ⟨whole, fraction, mark, ?_, parts.isWhole, parts.digits, parts.isMark, parts.more⟩
  rw [Binary64.text, String.toList_append, parts.spelled]
  cases negative <;> rfl

end UnsafeCensus.Json
