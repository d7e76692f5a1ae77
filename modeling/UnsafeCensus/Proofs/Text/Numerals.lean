/-
**Numbers in a text.**

A number that is written into a text is read back from it when no other digits stand beside it.

* `firstNumber`, `lastNumber`: the number that the first run of digits in a text stands for, and the one at its
  end;
* `firstNumber_toString`, `lastNumber_toString`: what was written is read back;
* `colon_number_inj`: a number that follows a colon is told apart from what stands before;
* `numberAfter?`, `numberAfter?_toString`: a mark and a number are taken from the end of a text.
-/

import Mathlib

namespace UnsafeCensus

/-- The number that the first run of digits in a text stands for. -/
def firstNumber (text : String) : Nat :=
  Nat.ofDigitChars 10 ((text.toList.dropWhile fun letter => !letter.isDigit).takeWhile Char.isDigit) 0

/-- The number that the digits at the end of a text stand for. -/
def lastNumber (text : String) : Nat :=
  Nat.ofDigitChars 10 (text.toList.rtakeWhile Char.isDigit) 0

theorem toList_toString (number : Nat) : (toString number).toList = Nat.toDigits 10 number := by
  rw [Nat.toString_eq_ofList_toDigits, String.toList_ofList]

theorem isDigit_of_mem_toDigits {number : Nat} {letter : Char}
    (member : letter ∈ Nat.toDigits 10 number) : letter.isDigit = true :=
  Nat.isDigit_of_mem_toDigits (by decide) (by decide) member

theorem takeWhile_eq_nil {letters : List Char}
    (other : ∀ letter ∈ letters.head?, letter.isDigit = false) :
    letters.takeWhile Char.isDigit = [] := by
  cases letters with
  | nil => rfl
  | cons first rest => exact List.takeWhile_cons_of_neg (by simp [other first rfl])

/-- The digits at the end of a text, after a letter that is none, are those of the number there. -/
theorem rtakeWhile_toDigits {front : List Char} (number : Nat)
    (before : ∀ letter ∈ front.getLast?, letter.isDigit = false) :
    (front ++ Nat.toDigits 10 number).rtakeWhile Char.isDigit = Nat.toDigits 10 number := by
  have none : front.reverse.takeWhile Char.isDigit = [] := by
    rw [← List.head?_reverse] at before
    exact takeWhile_eq_nil before
  unfold List.rtakeWhile
  rw [List.reverse_append, List.takeWhile_append_of_pos, none, List.append_nil, List.reverse_reverse]
  intro letter member
  exact isDigit_of_mem_toDigits (List.mem_reverse.mp member)

/-- A number at the end of a text, after a letter that is no digit, is read back. -/
theorem lastNumber_toString {front : String} (number : Nat)
    (before : ∀ letter ∈ front.toList.getLast?, letter.isDigit = false) :
    lastNumber (front ++ toString number) = number := by
  unfold lastNumber
  rw [String.toList_append, toList_toString, rtakeWhile_toDigits number before]
  exact Nat.ofDigitChars_ten_toDigits

/-- A number after letters that are no digits, and before one, is read back. -/
theorem firstNumber_toString {front rest : String} (number : Nat)
    (before : ∀ letter ∈ front.toList, letter.isDigit = false)
    (after : ∀ letter ∈ rest.toList.head?, letter.isDigit = false) :
    firstNumber (front ++ toString number ++ rest) = number := by
  have digits : (Nat.toDigits 10 number ++ rest.toList).takeWhile Char.isDigit
      = Nat.toDigits 10 number := by
    rw [List.takeWhile_append_of_pos fun letter => isDigit_of_mem_toDigits, takeWhile_eq_nil after,
      List.append_nil]
  have skipped : (front.toList ++ (Nat.toDigits 10 number ++ rest.toList)).dropWhile
      (fun letter => !letter.isDigit) = Nat.toDigits 10 number ++ rest.toList := by
    rw [List.dropWhile_append_of_pos fun letter member => by simp [before letter member]]
    cases written : Nat.toDigits 10 number with
    | nil => exact absurd written Nat.toDigits_ne_nil
    | cons first others =>
      have digit : first.isDigit = true := isDigit_of_mem_toDigits (written ▸ List.mem_cons_self)
      rw [List.cons_append, List.dropWhile_cons_of_neg (by simp [digit])]
  unfold firstNumber
  rw [String.toList_append, String.toList_append, toList_toString, List.append_assoc, skipped, digits]
  exact Nat.ofDigitChars_ten_toDigits

/-- A number after a colon is told apart from what stands before. -/
theorem colon_number_inj {front front' : String} {number number' : Nat}
    (same : front ++ ":" ++ toString number = front' ++ ":" ++ toString number') :
    front = front' ∧ number = number' := by
  have colon (front : String) : ∀ letter ∈ (front ++ ":").toList.getLast?, letter.isDigit = false := by
    intro letter last
    rw [String.toList_append, show ":".toList = [':'] from rfl, List.getLast?_concat,
      Option.mem_some_iff] at last
    rw [← last]
    rfl
  have numbers := congrArg lastNumber same
  rw [lastNumber_toString number (colon front), lastNumber_toString number' (colon front')] at numbers
  subst numbers
  have letters := congrArg String.toList same
  simp only [String.toList_append, List.append_left_inj] at letters
  exact ⟨String.toList_inj.mp letters, rfl⟩

/-! ### Reading from the end -/

/-- What stands before the digits at the end of a text. -/
def beforeNumber (text : String) : String :=
  String.ofList (text.toList.rdropWhile Char.isDigit)

theorem beforeNumber_toString {front : String} (number : Nat)
    (before : ∀ letter ∈ front.toList.getLast?, letter.isDigit = false) :
    beforeNumber (front ++ toString number) = front := by
  have whole := List.rdropWhile_append_rtakeWhile (p := Char.isDigit)
    (l := front.toList ++ Nat.toDigits 10 number)
  rw [rtakeWhile_toDigits number before, List.append_left_inj] at whole
  unfold beforeNumber
  rw [String.toList_append, toList_toString, whole, String.ofList_toList]

/-- What stands before a mark and a number at the end of a text, and the number. -/
def numberAfter? (mark text : String) : Option (String × Nat) :=
  let front := (beforeNumber text).toList
  if mark.toList.isSuffixOf front then
    some (String.ofList (front.rdrop mark.toList.length), lastNumber text)
  else none

/-- A mark that does not end in a digit. -/
def isMark (mark : String) : Bool :=
  mark.toList.getLast?.any fun last => !last.isDigit

/-- **A number after a mark is read back** with what stands before, whatever this is. -/
theorem numberAfter?_toString {mark : String} (front : String) (number : Nat) (ends : isMark mark = true) :
    numberAfter? mark (front ++ mark ++ toString number) = some (front, number) := by
  obtain ⟨last, final, noDigit⟩ := (Option.any_eq_true _ _).mp ends
  have before : ∀ letter ∈ (front ++ mark).toList.getLast?, letter.isDigit = false := by
    intro letter member
    rw [String.toList_append, List.getLast?_append, final, Option.some_or, Option.mem_some_iff] at member
    rw [← member]
    exact (Bool.not_eq_true' _).mp noDigit
  have marked : mark.toList.isSuffixOf (front.toList ++ mark.toList) = true :=
    List.isSuffixOf_iff_suffix.mpr (List.suffix_append _ _)
  unfold numberAfter?
  rw [beforeNumber_toString number before, lastNumber_toString number before, String.toList_append]
  dsimp only
  rw [if_pos marked, List.rdrop_append_length, String.ofList_toList]

end UnsafeCensus
