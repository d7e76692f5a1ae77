/-
**Texts are read back.**

Each code point is written as a letter, as an escape of one letter, or as one or two escapes of four digits. A
reader takes them one after another, since a second escape is joined to the first one only when the two make a
pair, and then they were written for one code point.

* `Rest.skip_skip`, `Rest.letters_skip`: what is left after some letters and some more;
* `IsText`: code points of characters, no halves of pairs among them;
* `hexNumber?_hexDigits`: digits of base sixteen are read back;
* `unicodeEscape_unit`, `unicodeEscape_pair`: one escape and a pair of them;
* `readText_point`, `readText_written`: a code point and a whole text are read back.
-/

import Mathlib
import UnsafeCensus.Json.Reader
import UnsafeCensus.Json.Writer

namespace UnsafeCensus.Json

namespace Rest

variable {rest : Rest}

@[simp] theorem skip_skip (rest : Rest) (first second : Nat) :
    (rest.skip first).skip second = rest.skip (first + second) := by
  simp [skip, Nat.add_assoc]

/-- What is left after the letters in front. -/
theorem letters_skip {front back : List Char} (spelled : rest.letters = front ++ back) :
    (rest.skip front.length).letters = back := by
  rw [skip, spelled, List.drop_left]

/-- What is left after one letter. -/
theorem letters_skip_one {first : Char} {back : List Char} (spelled : rest.letters = first :: back) :
    (rest.skip 1).letters = back := by
  rw [skip, spelled, List.drop_one, List.tail_cons]

end Rest

/-! ### Digits of base sixteen -/

@[simp] theorem length_hexDigits (width value : Nat) : (Quoted.hexDigits width value).length = width := by
  induction width generalizing value with
  | zero => rfl
  | succ width hypothesis => rw [Quoted.hexDigits, List.length_append, hypothesis, List.length_singleton]

theorem hexValue?_digitChar {value : Nat} (small : value < 16) :
    hexValue? (Nat.digitChar value) = some value := by
  revert value
  decide

/-- Digits of base sixteen are read back. -/
theorem hexNumber?_hexDigits (width value : Nat) :
    hexNumber? (Quoted.hexDigits width value) = some (value % 16 ^ width) := by
  induction width generalizing value with
  | zero => simp [Quoted.hexDigits, hexNumber?, Nat.mod_one]
  | succ width hypothesis =>
    have front : List.foldl _ (some 0) (Quoted.hexDigits width (value / 16)) = _ := hypothesis (value / 16)
    have digit := hexValue?_digitChar (Nat.mod_lt value (by decide : 0 < 16))
    rw [Quoted.hexDigits, hexNumber?, List.foldl_append, front]
    simp only [List.foldl_cons, List.foldl_nil, digit, Option.pure_def, Option.bind_eq_bind, Option.bind_some]
    rw [pow_succ', Nat.mod_mul, Nat.add_comm]

theorem hexNumber?_unit {unit : Nat} (small : unit < 0x10000) :
    hexNumber? (Quoted.hexDigits 4 unit) = some unit := by
  rw [hexNumber?_hexDigits, Nat.mod_eq_of_lt (by simpa using small)]

/-! ### Escapes of four digits -/

variable {mark rest : Rest} {unit point : Nat} {tail : List Char}

theorem fourDigits_unit (small : unit < 0x10000) (more : tail ≠ [])
    (spelled : mark.letters = 'u' :: (Quoted.hexDigits 4 unit ++ tail)) : fourDigits mark = .ok unit := by
  have length := List.length_pos_iff.mpr more
  have enough : ¬ (Quoted.hexDigits 4 unit ++ tail).length < 5 := by
    rw [List.length_append, length_hexDigits]
    omega
  have taken : (Quoted.hexDigits 4 unit ++ tail).take 4 = Quoted.hexDigits 4 unit :=
    List.take_left' (length_hexDigits 4 unit)
  rw [fourDigits, spelled]
  simp only [List.drop_succ_cons, List.drop_zero]
  rw [if_neg enough, taken, hexNumber?_unit small]

/-- An escape that is no first half of a pair stands for itself. -/
theorem unicodeEscape_unit (small : unit < 0x10000) (whole : isHighSurrogate unit = false) (more : tail ≠ [])
    (spelled : mark.letters = 'u' :: (Quoted.hexDigits 4 unit ++ tail)) :
    unicodeEscape mark = .ok (unit, 5) := by
  rw [unicodeEscape, fourDigits_unit small more spelled]
  simp [bind, Except.bind, whole, pure, Except.pure]

/-- Two escapes that make a pair stand for one code point. -/
theorem unicodeEscape_pair {high low : Nat} (first : isHighSurrogate high = true)
    (second : isLowSurrogate low = true) (more : tail ≠ [])
    (spelled : mark.letters = 'u' :: (Quoted.hexDigits 4 high ++ (unitEscape low ++ tail))) :
    unicodeEscape mark = .ok (joinSurrogates high low, 11) := by
  have small : high < 0x10000 := by
    simp only [isHighSurrogate, Bool.and_eq_true, decide_eq_true_eq] at first
    omega
  have small' : low < 0x10000 := by
    simp only [isLowSurrogate, Bool.and_eq_true, decide_eq_true_eq] at second
    omega
  have length := List.length_pos_iff.mpr more
  have next : (mark.skip 5).letters = unitEscape low ++ tail := by
    have behind := Rest.letters_skip (Rest.letters_skip_one spelled)
    rwa [Rest.skip_skip, length_hexDigits] at behind
  have more' : unitEscape low ++ tail ≠ [] := by simp [unitEscape]
  have enough : 6 < (mark.skip 5).letters.length := by
    rw [next]
    simp [unitEscape]
    omega
  have taken : (((mark.skip 5).skip 1).letters.drop 1).take 4 = Quoted.hexDigits 4 low := by
    rw [Rest.skip, next]
    exact List.take_left' (length_hexDigits 4 low)
  have marked : (mark.skip 5).letters.take 2 = ['\\', 'u'] := by
    rw [next]
    rfl
  rw [unicodeEscape, fourDigits_unit small more' spelled]
  simp only [bind, Except.bind]
  rw [first, decide_eq_true enough, marked, taken, hexNumber?_unit small', if_pos (by decide)]
  exact if_pos second

/-! ### Code points -/

/-- Code points of characters. -/
def IsText (points : Text) : Prop :=
  ∀ point ∈ points, point.isValidChar

theorem isText_ofString (text : String) : IsText (Text.ofString text) := by
  intro point member
  obtain ⟨letter, _, rfl⟩ := List.mem_map.mp member
  exact letter.valid

/-- The text of characters is read as these characters. -/
theorem Text.toString_ofString (text : String) : Text.toString (Text.ofString text) = text := by
  have back : (fun point : Nat => if point.isValidChar then Char.ofNat point else '\uFFFD') ∘ Char.toNat
      = id := by
    funext letter
    rw [Function.comp_apply, if_pos (show letter.toNat.isValidChar from letter.valid), Char.ofNat_toNat]
    rfl
  rw [Text.toString, Text.ofString, List.map_map, back, List.map_id, String.ofList_toList]

theorem length_writtenPoint_pos (point : Nat) : 0 < (writtenPoint point).length := by
  fun_cases writtenPoint point <;> simp [unitEscape]

/-- What a code point and what is read after it give. -/
def withPoint (point : Nat) (result : Except Fault (Text × Rest)) : Except Fault (Text × Rest) :=
  result.map fun read => (point :: read.1, read.2)

variable {opening fuel : Nat}

theorem readText_escape {letter : Char} (other : letter ≠ 'u') (known : escaped? letter = some point)
    (spelled : rest.letters = '\\' :: letter :: tail) :
    readText opening (fuel + 1) rest = withPoint point (readText opening fuel (rest.skip 2)) := by
  rw [readText, spelled]
  simp only [beq_iff_eq, other, if_false, known]
  cases readText opening fuel (rest.skip 2) <;> rfl

theorem readText_unicode {taken : Nat} (escape : unicodeEscape (rest.skip 1) = .ok (point, taken))
    (spelled : rest.letters = '\\' :: 'u' :: tail) :
    readText opening (fuel + 1) rest = withPoint point (readText opening fuel (rest.skip (1 + taken))) := by
  rw [readText, spelled]
  simp only [beq_self_eq_true, if_true, escape, bind, Except.bind]
  cases readText opening fuel (rest.skip (1 + taken)) <;> rfl

theorem readText_letter {letter : Char} (quote : letter ≠ '"') (slash : letter ≠ '\\')
    (visible : ¬ letter.toNat ≤ 0x1F) (spelled : rest.letters = letter :: tail) :
    readText opening (fuel + 1) rest = withPoint letter.toNat (readText opening fuel (rest.skip 1)) := by
  rw [readText, spelled]
  split
  · simp_all
  · simp_all
  · simp_all
  · simp_all
  · rename_i same
    cases same
    rw [if_neg visible]
    cases readText opening fuel (rest.skip 1) <;> rfl

/-- A code point of a character is read back, whatever is written after it. -/
theorem readText_point (valid : point.isValidChar) (more : tail ≠ [])
    (spelled : rest.letters = writtenPoint point ++ tail) :
    readText opening (fuel + 1) rest
      = withPoint point (readText opening fuel (rest.skip (writtenPoint point).length)) := by
  revert spelled
  fun_cases writtenPoint point with
  | case1 | case2 | case3 | case4 | case5 | case6 | case7 =>
    exact fun spelled => readText_escape (by decide) rfl spelled
  | case8 point quote slash _ _ _ _ _ visible =>
    intro spelled
    have same : (Char.ofNat point).toNat = point := by rw [Char.toNat_ofNat, if_pos valid]
    rw [readText_letter (by rintro equal; rw [equal] at same; exact quote same.symm)
      (by rintro equal; rw [equal] at same; exact slash same.symm) (by omega) spelled, same]
    rfl
  | case9 point _ _ _ _ _ _ _ hidden small =>
    intro spelled
    have spelled' : rest.letters = '\\' :: 'u' :: (Quoted.hexDigits 4 point ++ tail) := spelled
    have whole : isHighSurrogate point = false := by
      rcases valid with low | high <;> simp [isHighSurrogate] <;> omega
    have escape := unicodeEscape_unit small whole more (Rest.letters_skip_one spelled')
    rw [readText_unicode escape spelled', unitEscape, List.length_cons, List.length_cons, length_hexDigits]
  | case10 point _ _ _ _ _ _ _ hidden large =>
    intro spelled
    have top : point < 0x110000 := by rcases valid with low | high <;> omega
    obtain ⟨high, highIs⟩ : ∃ high, high = 0xD800 + (point - 0x10000) / 0x400 := ⟨_, rfl⟩
    obtain ⟨low, lowIs⟩ : ∃ low, low = 0xDC00 + (point - 0x10000) % 0x400 := ⟨_, rfl⟩
    rw [← highIs, ← lowIs] at spelled ⊢
    have first : isHighSurrogate high = true := by
      simp only [isHighSurrogate, Bool.and_eq_true, decide_eq_true_eq]
      omega
    have second : isLowSurrogate low = true := by
      simp only [isLowSurrogate, Bool.and_eq_true, decide_eq_true_eq]
      omega
    have joined : joinSurrogates high low = point := by
      unfold joinSurrogates
      omega
    have spelled' : rest.letters = '\\' :: 'u' :: (Quoted.hexDigits 4 high ++ (unitEscape low ++ tail)) := by
      rw [spelled, List.append_assoc]
      rfl
    have escape := unicodeEscape_pair first second more (Rest.letters_skip_one spelled')
    rw [joined] at escape
    rw [readText_unicode escape spelled', List.length_append]
    simp only [unitEscape, List.length_cons, length_hexDigits]

/-- **A text is read back**, whatever stands behind its closing quote. -/
theorem readText_written {points : Text} (isText : IsText points) {tail : List Char}
    (spelled : rest.letters = points.flatMap writtenPoint ++ '"' :: tail)
    (enough : (points.flatMap writtenPoint).length < fuel) :
    readText opening fuel rest = .ok (points, rest.skip ((points.flatMap writtenPoint).length + 1)) := by
  induction points generalizing rest fuel with
  | nil =>
    obtain ⟨fuel, rfl⟩ := Nat.exists_eq_add_of_lt enough
    rw [readText, spelled]
    rfl
  | cons point points hypothesis =>
    rw [List.flatMap_cons, List.append_assoc] at spelled
    rw [List.flatMap_cons, List.length_append] at enough ⊢
    have written := length_writtenPoint_pos point
    obtain ⟨valid, others⟩ := List.forall_mem_cons.mp isText
    obtain ⟨fuel, rfl⟩ : ∃ before, fuel = before + 1 := ⟨fuel - 1, by omega⟩
    rw [readText_point valid (by simp) spelled, hypothesis others (Rest.letters_skip spelled) (by omega),
      Rest.skip_skip, ← Nat.add_assoc]
    rfl

end UnsafeCensus.Json
