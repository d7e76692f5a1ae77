/-
**A written document is read back.**

What is written of a value is read as the value, wherever it stands before the end of a line: an item of a list and
a member of an object end before a comma or a line feed, and a reader passes over the blanks between them. Only a
number of 64 bits is read as the number that its text stands for.

* `Value.reread`: a value with the numbers of 64 bits that their texts stand for;
* `Value.Legible`: a value whose texts are of characters, whose integers and whose nesting are within limits and
  whose members have different names;
* `readItems_separated`, `readMembers_separated`: items and members, one a line;
* `Spells.list`, `Spells.object`: items and members between brackets;
* `spells_written`: what is written of a value, by induction on the value;
* `readWithin_written`: a whole document.
-/

import Mathlib
import UnsafeCensus.Proofs.Json.Ascii
import UnsafeCensus.Proofs.Json.Spelled

namespace UnsafeCensus.Json

/-! ### Lists -/

variable {limits inner : Limits} {rest after : Rest} {fuel : Nat} {letters tail blanks closing : List Char}

theorem readItems_of_bracket {item : Value} (read : readValue limits fuel rest = .ok (item, after))
    (spelled : after.skipBlanks.letters = ']' :: tail) :
    readItems limits (fuel + 1) rest = .ok ([item], after.skipBlanks.skip 1) := by
  rw [readItems, read]
  simp only [bind, Except.bind]
  rw [spelled]
  rfl

theorem readItems_of_comma {item : Value} (read : readValue limits fuel rest = .ok (item, after))
    (spelled : after.skipBlanks.letters = ',' :: tail) :
    readItems limits (fuel + 1) rest
      = (readItems limits fuel (after.skipBlanks.skip 1).skipBlanks).map fun read => (item :: read.1, read.2) := by
  rw [readItems, read]
  simp only [bind, Except.bind]
  rw [spelled]
  cases readItems limits fuel (after.skipBlanks.skip 1).skipBlanks <;> rfl

/-- Blanks that begin on a new line. -/
structure OpensLine (blanks : List Char) : Prop where
  areBlanks : AreBlanks blanks
  begins : ∃ others, blanks = '\n' :: others

theorem opensLine_newLine (depth : Nat) : OpensLine (newLine depth).toList :=
  ⟨areBlanks_newLine depth, _, String.toList_ofList⟩

theorem OpensLine.delimits (opens : OpensLine blanks) (tail : List Char) : Delimits (blanks ++ tail) := by
  obtain ⟨others, rfl⟩ := opens.begins
  rintro _ ⟨⟩
  exact .inr rfl

/-- Parts with a comma and a new line between them. -/
def separated (blanks : List Char) (parts : List (List Char)) : List Char :=
  (',' :: blanks).intercalate parts

theorem separated_cons_cons (blanks first second : List Char) (others : List (List Char)) :
    separated blanks (first :: second :: others)
      = first ++ (',' :: (blanks ++ separated blanks (second :: others))) := by
  rw [separated, List.intercalate_cons_cons, List.append_assoc]
  rfl

theorem exists_separated_eq (blanks part : List Char) (parts : List (List Char)) :
    ∃ others, separated blanks (part :: parts) = part ++ others := by
  cases parts with
  | nil => exact ⟨[], by rw [List.append_nil, separated, List.intercalate_singleton]⟩
  | cons second parts => exact ⟨_, separated_cons_cons blanks part second parts⟩

theorem Spells.stops_separated {value : Value} (spells : Spells limits value letters) (parts : List (List Char))
    (tail : List Char) : ∀ letter ∈ (separated blanks (letters :: parts) ++ tail).head?, isBlank letter = false := by
  obtain ⟨others, same⟩ := exists_separated_eq blanks letters parts
  rw [same, List.append_assoc]
  exact spells.stops _

/-- After a bracket or a comma a reader goes on at the part on the next line. -/
theorem Rest.next_part {mark : Char} (opens : OpensLine blanks)
    (stops : ∀ letter ∈ tail.head?, isBlank letter = false) (spelled : after.letters = mark :: (blanks ++ tail)) :
    (after.skip 1).skipBlanks = after.skip (1 + blanks.length) ∧ (after.skip (1 + blanks.length)).letters = tail := by
  have inside : (after.skip 1).letters = blanks ++ tail := Rest.letters_skip_one spelled
  refine ⟨(Rest.skipBlanks_eq _ opens.areBlanks stops inside).trans (Rest.skip_skip ..), ?_⟩
  rw [← Rest.skip_skip]
  exact Rest.letters_skip inside

/-- After the last part a reader goes on at the closing bracket. -/
theorem Rest.last_part {bracket : Char} (closes : OpensLine closing) (proper : isBlank bracket = false)
    (spelled : after.letters = closing ++ bracket :: tail) :
    after.skipBlanks = after.skip closing.length ∧ (after.skip closing.length).letters = bracket :: tail := by
  refine ⟨Rest.skipBlanks_eq _ closes.areBlanks ?_ spelled, Rest.letters_skip spelled⟩
  rintro _ ⟨⟩
  exact proper

/-- The items of a list are read up to its closing bracket. -/
theorem readItems_separated (opens : OpensLine blanks) (closes : OpensLine closing) {item : Value}
    {items : List Value} {part : List Char} {parts : List (List Char)} (spells : Spells limits item part)
    (others : List.Forall₂ (Spells limits) items parts)
    (spelled : rest.letters = separated blanks (part :: parts) ++ (closing ++ ']' :: tail))
    (enough : 2 * (separated blanks (part :: parts)).length < fuel) :
    readItems limits fuel rest = .ok (item :: items,
      rest.skip ((separated blanks (part :: parts)).length + (closing.length + 1))) := by
  -- An item takes one step of the fuel that its letters allow for, and the comma behind it two more.
  induction others generalizing item part rest fuel with
  | nil =>
    obtain ⟨fuel, rfl⟩ : ∃ before, fuel = before + 1 := ⟨fuel - 1, by omega⟩
    have only : separated blanks [part] = part := List.intercalate_singleton
    rw [only] at spelled enough ⊢
    have read := spells.reads fuel spelled (closes.delimits _) (by omega)
    obtain ⟨behind, last⟩ := Rest.last_part closes rfl (Rest.letters_skip spelled)
    rw [readItems_of_bracket read (by rw [behind, last]), behind, Rest.skip_skip, Rest.skip_skip]
  | @cons next part' items parts spells' others hypothesis =>
    obtain ⟨fuel, rfl⟩ : ∃ before, fuel = before + 1 := ⟨fuel - 1, by omega⟩
    rw [separated_cons_cons] at spelled enough ⊢
    have length :
        2 * part.length + 2 * (blanks.length + (separated blanks (part' :: parts)).length) + 2 < fuel + 1 := by
      simp only [List.length_append, List.length_cons] at enough
      omega
    have spelled' : rest.letters
        = part ++ ',' :: (blanks ++ (separated blanks (part' :: parts) ++ (closing ++ ']' :: tail))) := by
      rw [spelled, List.append_assoc, List.cons_append, List.append_assoc]
    have read := spells.reads fuel spelled' (by rintro _ ⟨⟩; exact .inl rfl) (by omega)
    have behind := Rest.letters_skip spelled'
    have still := Rest.skipBlanks_of_cons rfl behind
    obtain ⟨onward, next⟩ := Rest.next_part opens (spells'.stops_separated parts _) behind
    rw [readItems_of_comma read (by rw [still, behind]), still, onward,
      hypothesis spells' next (by omega)]
    simp only [Except.map, Rest.skip_skip, List.length_append, List.length_cons]
    congr 3
    omega

/-! ### Objects -/

/-- Letters that are read as a member of an object: its name, a colon and its value. -/
structure SpellsMember (limits : Limits) (member : Text × Value) (letters : List Char) : Prop where
  isText : IsText member.1
  spelled : ∃ part, letters = (writtenText member.1).toList ++ ':' :: ' ' :: part ∧ Spells limits member.2 part

/-- A member that is not there yet comes last. -/
theorem set_of_not_mem {members : List (Text × Value)} {name : Text} (value : Value)
    (absent : name ∉ members.map Prod.fst) : set members name value = members ++ [(name, value)] := by
  refine if_neg ?_
  rw [List.any_eq_true]
  rintro ⟨entry, member, same⟩
  exact absent (beq_iff_eq.mp same ▸ List.mem_map_of_mem member)

variable {done members : List (Text × Value)} {member : Text × Value} {part : List Char}

theorem not_mem_names (differ : ((done ++ member :: members).map Prod.fst).Nodup) : member.1 ∉ done.map Prod.fst := by
  simp only [List.map_append, List.map_cons] at differ
  exact fun known => List.disjoint_of_nodup_append differ known (List.mem_cons_self ..)

theorem readMembers_of_name {name : Text} {value : Value} {colon valued : Rest} (done : List (Text × Value))
    {others more : List Char} (quoted : rest.letters = '"' :: others)
    (read : readText rest.offset (rest.letters.length + 1) (rest.skip 1) = .ok (name, colon))
    (spelled : colon.skipBlanks.letters = ':' :: more)
    (spelledValue : readValue limits fuel (colon.skipBlanks.skip 1).skipBlanks = .ok (value, valued)) :
    readMembers limits (fuel + 1) done rest =
      match valued.skipBlanks.letters with
      | '\x7d' :: _ => .ok (set done name value, valued.skipBlanks.skip 1)
      | ',' :: _ => readMembers limits fuel (set done name value) (valued.skipBlanks.skip 1).skipBlanks
      | _ => valued.skipBlanks.refuse .expectingComma := by
  rw [readMembers, quoted]
  simp only
  rw [← quoted, read]
  simp only [bind, Except.bind]
  rw [spelled]
  simp only
  rw [spelledValue]
  rfl

/-- A member is read up to what follows it. -/
theorem readMembers_of_member (done : List (Text × Value)) (spells : SpellsMember limits member part)
    (spelled : rest.letters = part ++ tail) (delimits : Delimits tail) (enough : 2 * part.length ≤ fuel) :
    readMembers limits (fuel + 1) done rest =
      match (rest.skip part.length).skipBlanks.letters with
      | '\x7d' :: _ => .ok (set done member.1 member.2, (rest.skip part.length).skipBlanks.skip 1)
      | ',' :: _ =>
        readMembers limits fuel (set done member.1 member.2) ((rest.skip part.length).skipBlanks.skip 1).skipBlanks
      | _ => (rest.skip part.length).skipBlanks.refuse .expectingComma := by
  obtain ⟨letters, rfl, value⟩ := spells.spelled
  have spelledName : rest.letters = (writtenText member.1).toList ++ (':' :: ([' '] ++ (letters ++ tail))) := by
    rw [spelled, List.append_assoc]
    rfl
  have quoted : rest.letters
      = '"' :: (member.1.flatMap writtenPoint ++ ['"'] ++ (':' :: ([' '] ++ (letters ++ tail)))) := by
    rw [spelledName, toList_writtenText]
    rfl
  have colon := Rest.letters_skip spelledName
  have still := Rest.skipBlanks_of_cons rfl colon
  have colon' := colon
  rw [← still] at colon'
  have behind := Rest.letters_skip_one colon
  have onward := Rest.skipBlanks_eq [' '] (by simp [AreBlanks, isBlank]) (value.stops tail) behind
  have read := value.reads fuel (Rest.letters_skip_one behind) delimits
    (by simp only [List.length_append, List.length_cons] at enough; omega)
  have length : (writtenText member.1).toList.length + (1 + 1) + letters.length
      = ((writtenText member.1).toList ++ ':' :: ' ' :: letters).length := by
    simp only [List.length_append, List.length_cons]
    omega
  rw [Rest.skip_skip, Rest.skip_skip, Rest.skip_skip, length] at read
  have valued : readValue limits fuel
      ((rest.skip (writtenText member.1).toList.length).skipBlanks.skip 1).skipBlanks
        = .ok (member.2, rest.skip ((writtenText member.1).toList ++ ':' :: ' ' :: letters).length) := by
    rw [still, onward, Rest.skip_skip, Rest.skip_skip, List.length_singleton, read]
  exact (readMembers_of_name done quoted (readText_writtenText spells.isText _ spelledName) colon' valued :)

theorem SpellsMember.stops_separated (spells : SpellsMember limits member part) (parts : List (List Char))
    (tail : List Char) : ∀ letter ∈ (separated blanks (part :: parts) ++ tail).head?, isBlank letter = false := by
  obtain ⟨letters, rfl, value⟩ := spells.spelled
  obtain ⟨others, same⟩ :=
    exists_separated_eq blanks ((writtenText member.1).toList ++ ':' :: ' ' :: letters) parts
  rw [same, toList_writtenText]
  rintro _ ⟨⟩
  rfl

/-- The members of an object are read up to its closing brace, behind those already read. -/
theorem readMembers_separated (done : List (Text × Value)) (opens : OpensLine blanks) (closes : OpensLine closing)
    {parts : List (List Char)} (spells : SpellsMember limits member part)
    (others : List.Forall₂ (SpellsMember limits) members parts)
    (differ : ((done ++ member :: members).map Prod.fst).Nodup)
    (spelled : rest.letters = separated blanks (part :: parts) ++ (closing ++ '\x7d' :: tail))
    (enough : 2 * (separated blanks (part :: parts)).length < fuel) :
    readMembers limits fuel done rest = .ok (done ++ member :: members,
      rest.skip ((separated blanks (part :: parts)).length + (closing.length + 1))) := by
  induction others generalizing member part rest fuel done with
  | nil =>
    obtain ⟨fuel, rfl⟩ : ∃ before, fuel = before + 1 := ⟨fuel - 1, by omega⟩
    have only : separated blanks [part] = part := List.intercalate_singleton
    rw [only] at spelled enough ⊢
    obtain ⟨behind, last⟩ := Rest.last_part closes rfl (Rest.letters_skip spelled)
    rw [readMembers_of_member done spells spelled (closes.delimits _) (by omega), behind, last,
      set_of_not_mem _ (not_mem_names differ)]
    simp only [Rest.skip_skip, Nat.add_assoc]
  | @cons next part' members parts spells' others hypothesis =>
    obtain ⟨fuel, rfl⟩ : ∃ before, fuel = before + 1 := ⟨fuel - 1, by omega⟩
    rw [separated_cons_cons] at spelled enough ⊢
    have length :
        2 * part.length + 2 * (blanks.length + (separated blanks (part' :: parts)).length) + 2 < fuel + 1 := by
      simp only [List.length_append, List.length_cons] at enough
      omega
    have spelled' : rest.letters
        = part ++ ',' :: (blanks ++ (separated blanks (part' :: parts) ++ (closing ++ '\x7d' :: tail))) := by
      rw [spelled, List.append_assoc, List.cons_append, List.append_assoc]
    have behind := Rest.letters_skip spelled'
    have still := Rest.skipBlanks_of_cons rfl behind
    obtain ⟨onward, inside⟩ := Rest.next_part opens (spells'.stops_separated parts _) behind
    rw [readMembers_of_member done spells spelled' (by rintro _ ⟨⟩; exact .inl rfl) (by omega), still, behind,
      set_of_not_mem _ (not_mem_names differ)]
    simp only
    rw [onward, hypothesis _ spells' (by rwa [List.append_assoc]) inside (by omega), List.append_assoc]
    simp only [Rest.skip_skip, List.length_append, List.length_cons]
    congr 3
    omega

/-! ### Brackets -/

/-- Lines between brackets, with the line feeds and blanks around them. -/
theorem toList_enclosed (opening bracket : String) (depth : Nat) (line : String) (lines : List String) :
    (enclosed opening bracket depth (line :: lines)).toList
      = opening.toList ++ ((newLine (depth + 1)).toList
        ++ (separated (newLine (depth + 1)).toList (line.toList :: lines.map String.toList)
          ++ ((newLine depth).toList ++ bracket.toList))) := by
  rw [enclosed, if_neg (by simp)]
  simp only [String.toList_append, String.toList_intercalate, separated, List.append_assoc, List.map_cons]
  rfl

theorem toList_enclosed_nil (opening bracket : String) (depth : Nat) :
    (enclosed opening bracket depth []).toList = opening.toList ++ bracket.toList :=
  String.toList_append ..

variable {opening bracket : String} (front back : Char) {depth : Nat}

/-- Between brackets with nothing in them a reader is at the closing one. -/
theorem Rest.inside_nil (isFront : opening.toList = [front]) (isBack : bracket.toList = [back])
    (proper : isBlank back = false) (spelled : rest.letters = (enclosed opening bracket depth []).toList ++ tail) :
    rest.letters = front :: back :: tail ∧ (rest.skip 1).skipBlanks = rest.skip 1
      ∧ (rest.skip 1).letters = back :: tail
      ∧ (rest.skip 1).skip 1 = rest.skip (enclosed opening bracket depth []).toList.length := by
  rw [toList_enclosed_nil, isFront, isBack] at spelled ⊢
  have inside : (rest.skip 1).letters = back :: tail := Rest.letters_skip_one spelled
  exact ⟨spelled, Rest.skipBlanks_of_cons proper inside, inside, Rest.skip_skip ..⟩

/-- Between brackets with lines in them a reader is at the first line, and behind the last one a line feed, the blanks
of a line and the closing bracket are left. -/
theorem Rest.inside_cons (isFront : opening.toList = [front]) (isBack : bracket.toList = [back]) {line : String}
    {lines : List String} {first : Char} {others : List Char} (begins : line.toList = first :: others)
    (proper : isBlank first = false ∧ first ≠ back)
    (spelled : rest.letters = (enclosed opening bracket depth (line :: lines)).toList ++ tail) :
    ∃ inside letters, (∃ others, rest.letters = front :: others) ∧ (rest.skip 1).skipBlanks = inside
      ∧ letters = separated (newLine (depth + 1)).toList (line.toList :: lines.map String.toList)
      ∧ inside.letters = letters ++ ((newLine depth).toList ++ back :: tail)
      ∧ (inside.letters.head? == some back) = false
      ∧ letters.length + 2 ≤ (enclosed opening bracket depth (line :: lines)).toList.length
      ∧ inside.skip (letters.length + ((newLine depth).toList.length + 1))
        = rest.skip (enclosed opening bracket depth (line :: lines)).toList.length := by
  obtain ⟨letters, isLetters⟩ : ∃ letters,
      letters = separated (newLine (depth + 1)).toList (line.toList :: lines.map String.toList) := ⟨_, rfl⟩
  obtain ⟨behind, same⟩ : ∃ behind, letters = first :: behind := by
    obtain ⟨behind, same⟩ := exists_separated_eq (newLine (depth + 1)).toList line.toList (lines.map String.toList)
    exact ⟨others ++ behind, by rw [isLetters, same, begins]; rfl⟩
  simp only [toList_enclosed, ← isLetters, isFront, isBack] at spelled ⊢
  have spelled' : rest.letters
      = front :: ((newLine (depth + 1)).toList ++ (letters ++ ((newLine depth).toList ++ back :: tail))) := by
    rw [spelled]
    simp only [List.append_assoc, List.cons_append, List.nil_append]
  obtain ⟨onward, inside⟩ := Rest.next_part (opensLine_newLine _) (by rw [same]; rintro _ ⟨⟩; exact proper.1) spelled'
  refine ⟨_, letters, ⟨_, spelled'⟩, onward, rfl, inside, ?_, ?_, ?_⟩
  · rw [inside, same]
    simpa using proper.2
  · simp only [List.length_append, List.length_singleton]
    omega
  · rw [Rest.skip_skip]
    refine congrArg rest.skip ?_
    simp only [List.length_append, List.length_singleton]
    omega

theorem Spells.list {items : List Value} {lines : List String} (depth : Nat) (room : limits.inside? = some inner)
    (spells : List.Forall₂ (fun item line => Spells inner item line.toList) items lines) :
    Spells limits (.list items) (enclosed "[" "]" depth lines).toList := by
  cases spells with
  | nil =>
    refine ⟨⟨'[', [']'], toList_enclosed_nil .., by decide⟩, fun fuel {rest tail} spelled _ enough => ?_⟩
    obtain ⟨fuel, rfl⟩ : ∃ before, fuel = before + 1 := ⟨fuel - 1, by simp [toList_enclosed_nil] at enough; omega⟩
    obtain ⟨front, still, inside, behind⟩ := Rest.inside_nil '[' ']' rfl rfl rfl spelled
    rw [readValue_of_bracket fuel room front, still, inside, List.head?_cons, if_pos (beq_self_eq_true _), behind]
  | @cons item line items lines first others =>
    refine ⟨⟨'[', _, toList_enclosed .., by decide⟩, fun fuel {rest tail} spelled _ enough => ?_⟩
    obtain ⟨letter, _, begins, proper⟩ := first.begins
    obtain ⟨inside, letters, ⟨_, front⟩, onward, rfl, spelledInside, more, length, behind⟩ :=
      Rest.inside_cons '[' ']' rfl rfl begins proper spelled
    obtain ⟨fuel, rfl⟩ : ∃ before, fuel = before + 1 := ⟨fuel - 1, by omega⟩
    rw [readValue_of_bracket fuel room front, onward, more, if_neg Bool.false_ne_true,
      readItems_separated (opensLine_newLine _) (opensLine_newLine _) first (List.forall₂_map_right_iff.mpr others)
        spelledInside (by omega), behind]
    rfl

theorem Spells.object {lines : List String} (depth : Nat) (room : limits.inside? = some inner)
    (differ : (members.map Prod.fst).Nodup)
    (spells : List.Forall₂ (fun member line => SpellsMember inner member line.toList) members lines) :
    Spells limits (.object members) (enclosed "\x7b" "\x7d" depth lines).toList := by
  cases spells with
  | nil =>
    refine ⟨⟨'\x7b', ['\x7d'], toList_enclosed_nil .., by decide⟩, fun fuel {rest tail} spelled _ enough => ?_⟩
    obtain ⟨fuel, rfl⟩ : ∃ before, fuel = before + 1 := ⟨fuel - 1, by simp [toList_enclosed_nil] at enough; omega⟩
    obtain ⟨front, still, inside, behind⟩ := Rest.inside_nil '\x7b' '\x7d' rfl rfl rfl spelled
    rw [readValue_of_brace fuel room front, still, inside, List.head?_cons, if_pos (beq_self_eq_true _), behind]
  | @cons member line members lines first others =>
    refine ⟨⟨'\x7b', _, toList_enclosed .., by decide⟩, fun fuel {rest tail} spelled _ enough => ?_⟩
    obtain ⟨_, begins⟩ : ∃ letters, line.toList = '"' :: letters := by
      obtain ⟨part, same, _⟩ := first.spelled
      exact ⟨_, by rw [same, toList_writtenText]; rfl⟩
    obtain ⟨inside, letters, ⟨_, front⟩, onward, rfl, spelledInside, more, length, behind⟩ :=
      Rest.inside_cons '\x7b' '\x7d' rfl rfl begins (by decide) spelled
    obtain ⟨fuel, rfl⟩ : ∃ before, fuel = before + 1 := ⟨fuel - 1, by omega⟩
    rw [readValue_of_brace fuel room front, onward, more, if_neg Bool.false_ne_true,
      readMembers_separated [] (opensLine_newLine _) (opensLine_newLine _) first
        (List.forall₂_map_right_iff.mpr others) differ spelledInside (by omega), behind]
    rfl

/-! ### Values -/

namespace Value

mutual

/-- A value with the numbers of 64 bits that their texts stand for. -/
def reread : Value → Value
  | real number => .real (rereadReal number)
  | list items => .list (rereadItems items)
  | object members => .object (rereadMembers members)
  | value => value

/-- The items of a list with such numbers. -/
def rereadItems : List Value → List Value
  | [] => []
  | item :: rest => reread item :: rereadItems rest

/-- The members of an object with such numbers. -/
def rereadMembers : List (Text × Value) → List (Text × Value)
  | [] => []
  | (name, value) :: rest => (name, reread value) :: rereadMembers rest

end

mutual

/-- A value whose texts are of characters, whose integers and whose nesting are within limits and whose members have
different names. -/
def Legible : Limits → Value → Prop
  | limits, integer value => isAbove limits.digits (Nat.toDigits 10 value.natAbs).length = false
  | _, text points => IsText points
  | limits, list items => ∃ inner, limits.inside? = some inner ∧ LegibleItems inner items
  | limits, object members =>
    ∃ inner, limits.inside? = some inner ∧ (members.map Prod.fst).Nodup ∧ LegibleMembers inner members
  | _, _ => True

/-- The items of a list are such values. -/
def LegibleItems : Limits → List Value → Prop
  | _, [] => True
  | limits, item :: rest => Legible limits item ∧ LegibleItems limits rest

/-- The members of an object are such values, with names of characters. -/
def LegibleMembers : Limits → List (Text × Value) → Prop
  | _, [] => True
  | limits, (name, value) :: rest => IsText name ∧ Legible limits value ∧ LegibleMembers limits rest

end

end Value

theorem Value.names_rereadMembers (members : List (Text × Value)) :
    (Value.rereadMembers members).map Prod.fst = members.map Prod.fst := by
  induction members with
  | nil => rfl
  | cons member rest hypothesis => rw [Value.rereadMembers, List.map_cons, List.map_cons, hypothesis]

mutual

/-- What is written of a value is read as the value. -/
theorem spells_written (depth : Nat) : ∀ {limits : Limits} {value : Value}, value.Legible limits →
    Spells limits value.reread (value.writtenAt depth).toList
  | _, .null, _ => .word "null" (by simp [mem_words_iff]; rfl)
  | _, .boolean true, _ => .word "true" (by simp [mem_words_iff]; rfl)
  | _, .boolean false, _ => .word "false" (by simp [mem_words_iff]; rfl)
  | _, .integer _, legible => .integer legible
  | _, .real number, _ => .real number
  | _, .text _, legible => .text legible
  | _, .list _, ⟨_, room, legible⟩ => .list depth room (spells_writtenItems (depth + 1) legible)
  | _, .object members, ⟨_, room, differ, legible⟩ =>
    .object depth room (by rwa [Value.names_rereadMembers]) (spells_writtenMembers (depth + 1) legible)

theorem spells_writtenItems (depth : Nat) : ∀ {limits : Limits} {items : List Value},
    Value.LegibleItems limits items →
    List.Forall₂ (fun item line => Spells limits item line.toList) (Value.rereadItems items)
      (Value.writtenItems depth items)
  | _, [], _ => .nil
  | _, _ :: _, legible => .cons (spells_written depth legible.1) (spells_writtenItems depth legible.2)

theorem spells_writtenMembers (depth : Nat) : ∀ {limits : Limits} {members : List (Text × Value)},
    Value.LegibleMembers limits members →
    List.Forall₂ (fun member line => SpellsMember limits member line.toList) (Value.rereadMembers members)
      (Value.writtenMembers depth members)
  | _, [], _ => .nil
  | _, (_, value) :: _, legible =>
    .cons ⟨legible.1, _, by rw [String.toList_append, String.toList_append, List.append_assoc]; rfl,
      spells_written depth legible.2.1⟩ (spells_writtenMembers depth legible.2.2)

end

/-- **A document that is written of a value is read as the value**, with blanks behind it. -/
theorem readWithin_written {value : Value} (legible : value.Legible limits) (areBlanks : AreBlanks blanks)
    (delimits : Delimits blanks) : readWithin limits (value.written.toList ++ blanks) = .ok value.reread := by
  have spells : Spells limits value.reread value.written.toList := spells_written 0 legible
  obtain ⟨first, others, spelled, noBlank, _⟩ := spells.begins
  obtain ⟨document, isDocument⟩ : ∃ document, document = value.written.toList ++ blanks := ⟨_, rfl⟩
  have begins : document = first :: (others ++ blanks) := by rw [isDocument, spelled, List.cons_append]
  have noMark : (document.head? == some '\uFEFF') = false := by
    rw [begins, List.head?_cons]
    refine beq_eq_false_iff_ne.mpr fun same => ?_
    cases same
    exact absurd (areAscii_written value '\uFEFF' (by rw [spelled]; exact .head _)) (by decide)
  have start : (Rest.mk document 0).skipBlanks = ⟨document, 0⟩ := Rest.skipBlanks_of_cons noBlank begins
  have enough : 2 * value.written.toList.length ≤ 2 * document.length + 2 := by
    rw [isDocument, List.length_append]
    omega
  have read : readValue limits (2 * document.length + 2) ⟨document, 0⟩
      = .ok (value.reread, Rest.skip ⟨document, 0⟩ value.written.toList.length) :=
    spells.reads _ isDocument delimits enough
  have left : (Rest.skip ⟨document, 0⟩ value.written.toList.length).letters = blanks ++ [] := by
    rw [List.append_nil]
    exact Rest.letters_skip isDocument
  have ended := Rest.skipBlanks_eq blanks areBlanks (by simp) left
  rw [← isDocument, readWithin, if_neg (by rw [noMark]; decide), start, read]
  simp only [bind, Except.bind]
  rw [ended, Rest.letters_skip left]
  rfl

end UnsafeCensus.Json
