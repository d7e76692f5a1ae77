/-
**Documents beyond the limits of a reader.**

A document is refused for the digits of an integer only when it has so many digits in a row, and for its nesting
only when it has more opening brackets and braces than lists and objects may stand in each other. The reader
leaves an end of what it is given, so what is found in the rest is in the whole.

* `LongDigits`, `openings`: more digits in a row than an integer may have, and how many lists and objects may
  begin in some letters;
* `Traces`: a reader that leaves an end of what it is given, and is refused for its limits only when the digits or
  the openings are there; readers in a sequence trace when each of them does;
* `traces_readText`, `traces_readNumber`, `traces_values`: the readers trace;
* `longDigits_of_read`, `openings_of_read`: a document that is refused for a limit is beyond it.
-/

import Mathlib
import UnsafeCensus.Json.Reader

namespace UnsafeCensus.Json

/-- Some letters have digits in a row, more than an integer may have. -/
def LongDigits (letters : List Char) (count : Nat) : Prop :=
  mostIntegerDigits < count
    ∧ ∃ digits, digits <:+: letters ∧ digits.length = count ∧ ∀ digit ∈ digits, digit.isDigit = true

theorem LongDigits.mono {letters whole : List Char} {count : Nat} (long : LongDigits letters count)
    (suffix : letters <:+ whole) : LongDigits whole count := by
  obtain ⟨many, digits, inside, length, all⟩ := long
  exact ⟨many, digits, inside.trans suffix.isInfix, length, all⟩

/-- Whether a letter may begin a list or an object. -/
def isOpening (letter : Char) : Bool :=
  letter == '[' || letter == '\x7b'

/-- How many letters may begin a list or an object. -/
def openings (letters : List Char) : Nat :=
  letters.countP isOpening

theorem openings_mono {letters whole : List Char} (suffix : letters <:+ whole) :
    openings letters ≤ openings whole :=
  suffix.sublist.countP_le

theorem Rest.skip_suffix (rest : Rest) (count : Nat) : (rest.skip count).letters <:+ rest.letters :=
  List.drop_suffix count rest.letters

theorem Rest.skipBlanks_suffix (rest : Rest) : rest.skipBlanks.letters <:+ rest.letters :=
  rest.skip_suffix _

/-- Whether a problem is no limit of the reader. -/
def Problem.isOther : Problem → Bool
  | tooManyDigits _ | tooDeep _ => false
  | _ => true

/-- The limits of a reader whose integers have the usual count of digits. -/
def Limits.usual (nesting : Option Nat) : Limits :=
  ⟨some mostIntegerDigits, nesting⟩

/-- A result leaves an end of what a reader was given. A refusal for digits tells of digits in it, and a refusal
for nesting tells that more lists and objects may begin in it than may stand in each other. -/
structure Traces {α : Type} (nesting : Option Nat) (rest : Rest) (result : Except Fault (α × Rest)) :
    Prop where
  left : ∀ value after, result = .ok (value, after) → after.letters <:+ rest.letters
  digits : ∀ count offset, result = .error ⟨.tooManyDigits count, offset⟩ →
    LongDigits rest.letters count
  depth : ∀ container offset, result = .error ⟨.tooDeep container, offset⟩ →
    ∃ room, nesting = some room ∧ room < openings rest.letters

namespace Traces

variable {α β : Type} {nesting : Option Nat} {rest after : Rest}

theorem ok (value : α) (suffix : after.letters <:+ rest.letters) :
    Traces nesting rest (.ok (value, after)) := by
  refine ⟨fun value after same => ?_, nofun, nofun⟩
  cases same
  exact suffix

theorem error {problem : Problem} (other : problem.isOther = true) (offset : Nat) :
    Traces nesting rest (.error ⟨problem, offset⟩ : Except Fault (α × Rest)) := by
  refine ⟨nofun, fun count offset same => ?_, fun container offset same => ?_⟩
  all_goals
    cases same
    cases other

/-- What traces what is left traces the whole. -/
theorem mono {result : Except Fault (α × Rest)} (traces : Traces nesting after result)
    (suffix : after.letters <:+ rest.letters) : Traces nesting rest result := by
  refine ⟨fun value last same => (traces.left value last same).trans suffix,
    fun count offset same => (traces.digits count offset same).mono suffix, fun container offset same => ?_⟩
  obtain ⟨room, known, crowded⟩ := traces.depth container offset same
  exact ⟨room, known, crowded.trans_le (openings_mono suffix)⟩

/-- Readers in a sequence, the second of which reads what the first one left. -/
theorem bind {first : Except Fault (α × Rest)} {second : α × Rest → Except Fault (β × Rest)}
    (start : Traces nesting rest first) (next : ∀ value after, Traces nesting after (second (value, after))) :
    Traces nesting rest (first >>= second) := by
  cases first with
  | error fault =>
    refine ⟨nofun, fun count offset same => ?_, fun container offset same => ?_⟩
    · cases same
      exact start.digits count offset rfl
    · cases same
      exact start.depth container offset rfl
  | ok read =>
    obtain ⟨value, after⟩ := read
    exact (next value after).mono (start.left value after rfl)

/-- What traces the inside of a list or an object, in which one less may stand, traces the whole of it. -/
theorem enclosed {room : Nat} {result : Except Fault (α × Rest)} {opening : Char} {others : List Char}
    (traces : Traces (some room) after result) (spelled : rest.letters = opening :: others)
    (opens : isOpening opening = true) (suffix : after.letters <:+ others) :
    Traces (some (room + 1)) rest result := by
  have whole : after.letters <:+ rest.letters := by
    rw [spelled]
    exact suffix.trans (List.suffix_cons opening others)
  refine ⟨fun value last same => (traces.left value last same).trans whole,
    fun count offset same => (traces.digits count offset same).mono whole, fun container offset same => ?_⟩
  obtain ⟨_, ⟨⟩, crowded⟩ := traces.depth container offset same
  refine ⟨room + 1, rfl, ?_⟩
  rw [spelled, openings, List.countP_cons_of_pos opens]
  exact Nat.succ_lt_succ (crowded.trans_le (openings_mono suffix))

/-- A list or an object is refused where none may stand any more. -/
theorem tooDeep {opening : Char} {others : List Char} (spelled : rest.letters = opening :: others)
    (opens : isOpening opening = true) (container : Container) :
    Traces (some 0) rest (rest.refuse (.tooDeep container) : Except Fault (α × Rest)) := by
  refine ⟨nofun, nofun, fun _ _ _ => ⟨0, rfl, ?_⟩⟩
  rw [spelled, openings, List.countP_cons_of_pos opens]
  exact Nat.succ_pos _

end Traces

variable {nesting : Option Nat}

/-! ### Texts -/

theorem fourDigits_eq_error {mark : Rest} {fault : Fault} (refused : fourDigits mark = .error fault) :
    fault.problem.isOther = true := by
  unfold fourDigits at refused
  simp only at refused
  split at refused
  · cases refused
    rfl
  · split at refused
    · cases refused
    · cases refused
      rfl

/-- An escape is not refused for digits in a row. -/
theorem unicodeEscape_eq_error {mark : Rest} {fault : Fault}
    (refused : unicodeEscape mark = .error fault) : fault.problem.isOther = true := by
  unfold unicodeEscape at refused
  cases first : fourDigits mark with
  | error fault' =>
    rw [first] at refused
    cases refused
    exact fourDigits_eq_error first
  | ok point =>
    rw [first] at refused
    simp only [bind, Except.bind] at refused
    split at refused
    · split at refused
      · cases refused
        rfl
      · split at refused <;> cases refused
    · cases refused

theorem traces_readText (opening fuel : Nat) (rest : Rest) :
    Traces nesting rest (readText opening fuel rest) := by
  fun_induction readText opening fuel rest with
  | case1 | case2 | case7 => exact .error (by rfl) opening
  | case3 _ rest => exact .ok _ (rest.skip_suffix 1)
  | case4 fuel rest letter after letters unicode hypothesis =>
    cases escape : unicodeEscape (rest.skip 1) with
    | error fault => exact .error (unicodeEscape_eq_error escape) fault.offset
    | ok found =>
      exact ((hypothesis found.2).mono (rest.skip_suffix _)).bind fun _ _ => .ok _ List.suffix_rfl
  | case5 fuel rest letter after letters other point known hypothesis =>
    exact (hypothesis.mono (rest.skip_suffix 2)).bind fun _ _ => .ok _ List.suffix_rfl
  | case6 _ rest => exact .error (by rfl) rest.offset
  | case8 _ rest => exact .error (by rfl) rest.offset
  | case9 fuel rest letter after _ _ _ letters visible hypothesis =>
    exact (hypothesis.mono (rest.skip_suffix 1)).bind fun _ _ => .ok _ List.suffix_rfl

/-! ### Numbers -/

/-- A number is refused for the digits that it begins with. -/
theorem traces_readNumber (rest : Rest) :
    Traces nesting rest (readNumber (some mostIntegerDigits) rest) := by
  unfold readNumber
  extract_lets negative signs unsigned whole afterWhole fraction pointed
  have start : unsigned <:+ rest.letters := List.drop_suffix signs rest.letters
  clear_value unsigned
  have digits : whole <+: unsigned ∧ ∀ digit ∈ whole, digit.isDigit = true := by
    unfold whole wholeDigits
    split
    · exact ⟨⟨_, rfl⟩, by simp⟩
    · exact ⟨List.takeWhile_prefix _, fun digit member => List.mem_takeWhile_imp member⟩
  have inside : whole <:+: rest.letters := digits.1.isInfix.trans start.isInfix
  generalize exponentDigits (afterWhole.drop pointed) = found
  obtain ⟨exponentNegative, exponent, exponentTaken⟩ := found
  dsimp only
  split
  · exact .error (by rfl) rest.offset
  · split
    · split
      · rename_i many
        refine ⟨nofun, fun count offset same => ?_, nofun⟩
        cases same
        exact ⟨of_decide_eq_true many, whole, inside, rfl, digits.2⟩
      · exact .ok _ (rest.skip_suffix _)
    · exact .ok _ (rest.skip_suffix _)

/-! ### Values -/

/-- A reader that goes on after some blanks and a mark. -/
theorem Rest.next_suffix (rest : Rest) : (rest.skip 1).skipBlanks.letters <:+ rest.letters :=
  (rest.skip 1).skipBlanks_suffix.trans (rest.skip_suffix 1)

/-- What the inside of a list or an object traces, wherever one may stand. -/
theorem traces_inside {α : Type} {rest : Rest} {opening : Char} {others : List Char} (container : Container)
    (spelled : rest.letters = opening :: others) (opens : isOpening opening = true)
    {read : Limits → Except Fault (α × Rest)}
    (inside : ∀ nesting, Traces nesting (rest.skip 1).skipBlanks (read (.usual nesting))) :
    Traces nesting rest (match (Limits.usual nesting).inside? with
      | none => rest.refuse (.tooDeep container)
      | some inner => read inner) := by
  have suffix : (rest.skip 1).skipBlanks.letters <:+ others := by
    have first : (rest.skip 1).letters = others := by rw [Rest.skip, spelled, List.drop_one, List.tail_cons]
    exact (rest.skip 1).skipBlanks_suffix.trans (first ▸ List.suffix_rfl)
  cases nesting with
  | none => exact (inside none).mono rest.next_suffix
  | some room =>
    cases room with
    | zero => exact .tooDeep spelled opens container
    | succ room => exact (inside (some room)).enclosed spelled opens suffix

/-- Values, items and members trace, by induction on the fuel that they share. -/
theorem traces_values (fuel : Nat) : ∀ nesting,
    (∀ rest, Traces nesting rest (readValue (.usual nesting) fuel rest))
      ∧ (∀ rest, Traces nesting rest (readItems (.usual nesting) fuel rest))
      ∧ ∀ members rest, Traces nesting rest (readMembers (.usual nesting) fuel members rest) := by
  induction fuel with
  | zero =>
    exact fun nesting => ⟨fun rest => .error (by rfl) rest.offset, fun rest => .error (by rfl) rest.offset,
      fun _ rest => .error (by rfl) rest.offset⟩
  | succ fuel hypothesis =>
    intro nesting
    obtain ⟨values, items, members⟩ := hypothesis nesting
    refine ⟨fun rest => ?_, fun rest => ?_, fun done rest => ?_⟩
    · unfold readValue
      split
      · exact ((traces_readText _ _ _).mono (rest.skip_suffix 1)).bind fun _ _ => .ok _ List.suffix_rfl
      · rename_i others spelled
        refine traces_inside .list spelled (by rfl) fun nesting => ?_
        dsimp only
        split
        · exact .ok _ (Rest.skip_suffix _ 1)
        · exact ((hypothesis nesting).2.1 _).bind fun _ _ => .ok _ List.suffix_rfl
      · rename_i others spelled
        refine traces_inside .object spelled (by rfl) fun nesting => ?_
        dsimp only
        split
        · exact .ok _ (Rest.skip_suffix _ 1)
        · exact ((hypothesis nesting).2.2 [] _).bind fun _ _ => .ok _ List.suffix_rfl
      · split
        · exact .ok _ (rest.skip_suffix _)
        · exact traces_readNumber rest
    · unfold readItems
      refine (values rest).bind fun item after => ?_
      dsimp only
      split
      · exact .ok _ ((Rest.skip_suffix _ 1).trans after.skipBlanks_suffix)
      · refine ((items _).mono ?_).bind fun _ _ => .ok _ List.suffix_rfl
        exact after.skipBlanks.next_suffix.trans after.skipBlanks_suffix
      · exact .error (by rfl) _
    · unfold readMembers
      split
      · refine ((traces_readText _ _ _).mono (rest.skip_suffix 1)).bind fun name after => ?_
        dsimp only
        split
        · refine ((values _).mono (after.skipBlanks.next_suffix.trans after.skipBlanks_suffix)).bind
            fun value last => ?_
          dsimp only
          split
          · exact .ok _ ((Rest.skip_suffix _ 1).trans last.skipBlanks_suffix)
          · exact (members _ _).mono (last.skipBlanks.next_suffix.trans last.skipBlanks_suffix)
          · exact .error (by rfl) _
        · exact .error (by rfl) _
      · exact .error (by rfl) rest.offset

/-- A document that is refused for a limit is refused by the reader of its value. -/
theorem readValue_of_read {letters : List Char} {fault : Fault} (limit : fault.problem.isOther = false)
    (refused : read nesting letters = .error fault) :
    readValue (.usual (nesting.map (· + 1))) (2 * letters.length + 2) (Rest.mk letters 0).skipBlanks
      = .error fault := by
  unfold read readWithin at refused
  split at refused
  · cases refused
    cases limit
  · cases first : readValue (.usual (nesting.map (· + 1))) (2 * letters.length + 2)
        (Rest.mk letters 0).skipBlanks with
    | error fault' =>
      have same := congrArg (· >>= fun found : Value × Rest =>
        if found.2.skipBlanks.letters.isEmpty then pure found.1
        else found.2.skipBlanks.refuse .extraData) first
      exact congrArg Except.error (Except.error.inj (same.symm.trans refused))
    | ok found =>
      unfold Limits.usual at first
      rw [first] at refused
      simp only [bind, Except.bind] at refused
      split at refused
      · cases refused
      · cases refused
        cases limit

/-- **A document that is refused for its digits has them**: more in a row than an integer may have. -/
theorem longDigits_of_read {letters : List Char} {count offset : Nat}
    (refused : read nesting letters = .error ⟨.tooManyDigits count, offset⟩) : LongDigits letters count :=
  (((traces_values _ _).1 _).digits count offset (readValue_of_read rfl refused)).mono (Rest.skipBlanks_suffix _)

/-- **A document that is refused for its nesting** has more openings than lists and objects may stand in each
other. -/
theorem openings_of_read {letters : List Char} {container : Container} {offset : Nat}
    (refused : read nesting letters = .error ⟨.tooDeep container, offset⟩) :
    ∃ room, nesting = some room ∧ room + 1 < openings letters := by
  obtain ⟨most, known, crowded⟩ :=
    ((traces_values _ _).1 _).depth container offset (readValue_of_read rfl refused)
  cases nesting with
  | none => cases known
  | some room =>
    cases known
    exact ⟨room, rfl, crowded.trans_le (openings_mono (Rest.skipBlanks_suffix _))⟩

end UnsafeCensus.Json
