/-
**Which attribute names the file of a module.**

A path attribute is spelled `#[path = "…"]`, with blanks between its tokens. An attribute above a module is searched
for such a spelling anywhere in its text, also inside a literal. So the file of a module is named by the nearest
attribute in whose text a path attribute occurs, and by its first occurrence there. Where this attribute is a path
attribute as a whole, it is the nearest path attribute above the module.

* `Spells`: how a path attribute is spelled;
* `after?_eq_some_iff`, `untilQuote?_eq_some_iff`, `valueAt?_eq_some_iff`: what is read at the front of some
  characters;
* `OccursAt`, `IsFirst`, `valueIn?_eq_some_iff`: what is found among some characters is the first occurrence;
* `Mentions`, `IsPathAttribute`: an attribute in whose text a path attribute occurs, and one that is a path attribute;
* `Nearest`: the first of some siblings with a property;
* `pathAttribute?_eq_some_iff`: the attribute that names the file of a module;
* `documented_names_file`: a text in a literal that names the file of a module.
-/

import Mathlib
import UnsafeCensus.Crate.PathAttribute
import UnsafeCensus.Grammar.Grammar
import UnsafeCensus.Proofs.Crate.Declared

namespace UnsafeCensus.Crate

open Syntax

variable {letters rest value : List Char}

/-! ### How a path attribute is spelled -/

/-- All characters are blanks. -/
def Blanks (letters : List Char) : Prop :=
  ∀ letter ∈ letters, Digit.isBlank letter = true

/-- Some characters after blanks, and what follows them. -/
def Follow (expected rest letters : List Char) : Prop :=
  ∃ blanks, Blanks blanks ∧ letters = blanks ++ (expected ++ rest)

/-- Some tokens, each after blanks, and what follows them. -/
def Written : List (List Char) → List Char → List Char → Prop
  | [], rest, letters => letters = rest
  | token :: tokens, rest, letters => ∃ next, Follow token next letters ∧ Written tokens rest next

/-- The tokens of a path attribute after its first character. -/
def tokensOf (value : List Char) : List (List Char) :=
  [['['], ['p', 'a', 't', 'h'], ['='], '"' :: (value ++ ['"']), [']']]

/-- A path attribute with a value, which holds no quote, and what follows it. -/
def SpellsBefore (value rest letters : List Char) : Prop :=
  '"' ∉ value ∧ ∃ others, letters = '#' :: others ∧ Written (tokensOf value) rest others

/-- A path attribute with a value and nothing else. -/
def Spells (value letters : List Char) : Prop :=
  SpellsBefore value [] letters

/-- Tokens before a rest are the tokens alone and then the rest. -/
theorem written_iff {tokens : List (List Char)} :
    Written tokens rest letters ↔ ∃ spelled, Written tokens [] spelled ∧ letters = spelled ++ rest := by
  induction tokens generalizing letters with
  | nil => simp [Written]
  | cons token tokens hypothesis =>
    constructor
    · rintro ⟨next, ⟨blanks, blank, rfl⟩, onward⟩
      obtain ⟨spelled, alone, rfl⟩ := hypothesis.mp onward
      exact ⟨blanks ++ (token ++ spelled), ⟨spelled, ⟨blanks, blank, rfl⟩, alone⟩, by simp⟩
    · rintro ⟨spelled, ⟨next, ⟨blanks, blank, rfl⟩, alone⟩, rfl⟩
      exact ⟨next ++ rest, ⟨blanks, blank, by simp⟩, hypothesis.mpr ⟨next, alone, rfl⟩⟩

/-- A path attribute before a rest is a path attribute and then the rest. -/
theorem spellsBefore_iff :
    SpellsBefore value rest letters ↔ ∃ spelled, Spells value spelled ∧ letters = spelled ++ rest := by
  constructor
  · rintro ⟨plain, others, rfl, tokens⟩
    obtain ⟨spelled, alone, rfl⟩ := written_iff.mp tokens
    exact ⟨'#' :: spelled, ⟨plain, spelled, rfl, alone⟩, rfl⟩
  · rintro ⟨spelled, ⟨plain, others, rfl, alone⟩, rfl⟩
    exact ⟨plain, others ++ rest, rfl, written_iff.mpr ⟨others, alone, rfl⟩⟩

/-! ### What is read at the front -/

/-- Characters that start with no blank are read after blanks. -/
theorem after?_eq_some_iff {first : Char} {others : List Char} (solid : Digit.isBlank first = false) :
    after? (first :: others) letters = some rest ↔ Follow (first :: others) rest letters := by
  unfold after?
  dsimp only
  constructor
  · intro read
    split at read
    · rename_i front
      obtain ⟨back, joined⟩ := List.isPrefixOf_iff_prefix.mp front
      rw [← joined, List.drop_left, Option.some.injEq] at read
      subst read
      exact ⟨letters.takeWhile Digit.isBlank, fun letter => List.mem_takeWhile_imp, by
        rw [joined, List.takeWhile_append_dropWhile]⟩
    · cases read
  · rintro ⟨blanks, blank, rfl⟩
    have dropped : (blanks ++ (first :: others ++ rest)).dropWhile Digit.isBlank = first :: others ++ rest := by
      rw [List.dropWhile_append_of_pos blank, List.cons_append, List.dropWhile_cons_of_neg (by simp [solid])]
    rw [dropped, if_pos (List.isPrefixOf_iff_prefix.mpr (List.prefix_append _ _)), List.drop_left]

/-- The text before the next quote is read. -/
theorem untilQuote?_eq_some_iff :
    untilQuote? letters = some (value, rest) ↔ '"' ∉ value ∧ letters = value ++ '"' :: rest := by
  unfold untilQuote?
  constructor
  · intro read
    split at read
    · cases read
    · rename_i quote others found
      cases read
      have split := List.takeWhile_append_dropWhile (p := (· != '"')) (l := letters)
      have ended : quote = '"' := by
        have stop := List.head?_dropWhile_not (· != '"') letters
        rw [found] at stop
        simpa using stop
      rw [found, ended] at split
      exact ⟨fun member => by simpa using List.mem_takeWhile_imp member, split.symm⟩
  · rintro ⟨plain, rfl⟩
    have front : ∀ letter ∈ value, (letter != '"') = true :=
      fun letter member => bne_iff_ne.mpr fun same => plain (same ▸ member)
    rw [List.dropWhile_append_of_pos front, List.takeWhile_append_of_pos front,
      List.dropWhile_cons_of_neg (by decide), List.takeWhile_cons_of_neg (by decide), List.append_nil]

/-- A quoted text is a quote, the text before the next quote and this quote. -/
theorem follow_quoted_iff {close : List Char} :
    Follow ('"' :: (value ++ ['"'])) close letters ↔ Follow ['"'] (value ++ '"' :: close) letters := by
  simp [Follow]

/-- **What is read at the front of some characters** is a path attribute that is spelled there. -/
theorem valueAt?_eq_some_iff :
    valueAt? letters = some value ↔ ∃ rest, SpellsBefore value rest letters := by
  have blank : Digit.isBlank '[' = false ∧ Digit.isBlank 'p' = false ∧ Digit.isBlank '=' = false
      ∧ Digit.isBlank '"' = false ∧ Digit.isBlank ']' = false := by decide
  unfold valueAt?
  cases letters with
  | nil => simp [SpellsBefore]
  | cons letter others =>
    by_cases hash : letter = '#'
    · subst hash
      obtain ⟨bracket, word, sign, quote, close⟩ := blank
      simp only [List.head?_cons, bne_self_eq_false, Bool.false_eq_true, if_false, List.drop_succ_cons,
        List.drop_zero, Option.bind_eq_bind, Option.pure_def, Option.bind_eq_some_iff,
        after?_eq_some_iff bracket, after?_eq_some_iff word, after?_eq_some_iff sign,
        after?_eq_some_iff quote, after?_eq_some_iff close, Prod.exists, untilQuote?_eq_some_iff,
        Option.some.injEq]
      constructor
      · rintro ⟨_, opened, _, named, _, equals, _, quoted, text, after, ⟨plain, rfl⟩, rest, closed, rfl⟩
        exact ⟨rest, plain, others, rfl, _, opened, _, named, _, equals, after,
          follow_quoted_iff.mpr quoted, rest, closed, rfl⟩
      · rintro ⟨rest, plain, _, ⟨⟩, _, opened, _, named, _, equals, after, quoted, _, closed, rfl⟩
        exact ⟨_, opened, _, named, _, equals, _, follow_quoted_iff.mp quoted, value, after,
          ⟨plain, rfl⟩, _, closed, rfl⟩
    · simp [SpellsBefore, hash]

/-- A path attribute at the front has one value. -/
theorem SpellsBefore.unique {value' rest' : List Char} (first : SpellsBefore value rest letters)
    (second : SpellsBefore value' rest' letters) : value = value' :=
  Option.some.inj ((valueAt?_eq_some_iff.mpr ⟨rest, first⟩).symm.trans
    (valueAt?_eq_some_iff.mpr ⟨rest', second⟩))

/-! ### What is found among characters -/

/-- The first path attribute among some characters has a value. -/
inductive IsFirst (value : List Char) : List Char → Prop where
  | here {letters rest : List Char} (spelled : SpellsBefore value rest letters) : IsFirst value letters
  | later {letter : Char} {letters : List Char}
      (none : ∀ value' rest, ¬SpellsBefore value' rest (letter :: letters)) (found : IsFirst value letters) :
      IsFirst value (letter :: letters)

/-- A path attribute occurs among some characters. -/
def Occurs (letters : List Char) : Prop :=
  ∃ front value spelled back, letters = front ++ (spelled ++ back) ∧ Spells value spelled

theorem valueAt?_eq_none_iff :
    valueAt? letters = none ↔ ∀ value rest, ¬SpellsBefore value rest letters := by
  rw [Option.eq_none_iff_forall_ne_some]
  refine forall_congr' fun value => ?_
  rw [Ne, valueAt?_eq_some_iff, not_exists]

/-- **What is found among some characters** is the value of the first path attribute. -/
theorem valueIn?_eq_some_iff : valueIn? letters = some value ↔ IsFirst value letters := by
  induction letters with
  | nil =>
    refine ⟨nofun, ?_⟩
    rintro (⟨_, _, ⟨⟩, _⟩ | _)
  | cons letter letters hypothesis =>
    rw [valueIn?]
    cases read : valueAt? (letter :: letters) with
    | some found =>
      obtain ⟨rest, spelled⟩ := valueAt?_eq_some_iff.mp read
      refine ⟨fun same => .here (Option.some.inj same ▸ spelled), fun first => ?_⟩
      cases first with
      | here spelled' => exact congrArg some (spelled.unique spelled')
      | later none => exact absurd spelled (none found rest)
    | none =>
      have none := valueAt?_eq_none_iff.mp read
      refine ⟨fun found => .later none (hypothesis.mp found), fun first => ?_⟩
      cases first with
      | here spelled => exact absurd spelled (none _ _)
      | later _ found => exact hypothesis.mpr found

/-- Some path attribute is the first one exactly when one occurs. -/
theorem exists_isFirst_iff : (∃ value, IsFirst value letters) ↔ Occurs letters := by
  constructor
  · rintro ⟨value, first⟩
    induction first with
    | here before =>
      obtain ⟨spelled, alone, joined⟩ := spellsBefore_iff.mp before
      exact ⟨[], value, spelled, _, joined, alone⟩
    | later _ _ hypothesis =>
      obtain ⟨front, value, spelled, back, joined, alone⟩ := hypothesis
      exact ⟨_ :: front, value, spelled, back, congrArg _ joined, alone⟩
  · rintro ⟨front, value, spelled, back, rfl, alone⟩
    have before : SpellsBefore value back (spelled ++ back) := spellsBefore_iff.mpr ⟨spelled, alone, rfl⟩
    induction front with
    | nil => exact ⟨value, .here before⟩
    | cons letter front hypothesis =>
      obtain ⟨found, first⟩ := hypothesis
      by_cases here : ∃ value' rest, SpellsBefore value' rest (letter :: (front ++ (spelled ++ back)))
      · obtain ⟨value', rest, spelled'⟩ := here
        exact ⟨value', .here spelled'⟩
      · simp only [not_exists] at here
        exact ⟨found, .later here first⟩

/-- Nothing is found exactly where no path attribute occurs. -/
theorem valueIn?_eq_none_iff : valueIn? letters = none ↔ ¬Occurs letters := by
  rw [← exists_isFirst_iff, not_exists, Option.eq_none_iff_forall_ne_some]
  exact forall_congr' fun value => not_congr valueIn?_eq_some_iff

/-- A path attribute alone is the first one in itself. -/
theorem isFirst_iff_of_spells {value' : List Char} (alone : Spells value letters) :
    IsFirst value' letters ↔ value' = value := by
  have first : IsFirst value letters := .here alone
  refine ⟨fun other => ?_, fun same => same ▸ first⟩
  exact Option.some.inj ((valueIn?_eq_some_iff.mpr other).symm.trans (valueIn?_eq_some_iff.mpr first))

/-! ### Attributes above a module -/

/-- The first of some siblings with a property. -/
def Nearest (holds : Tree → Prop) (siblings : List Tree) (sibling : Tree) : Prop :=
  ∃ near far, siblings = near ++ sibling :: far ∧ holds sibling ∧ ∀ other ∈ near, ¬holds other

/-- An attribute in whose text a path attribute occurs. -/
def Mentions (data : ByteArray) (sibling : Tree) : Prop :=
  sibling.type = "attribute_item" ∧ Occurs (sibling.textOf data).toList

/-- An attribute whose whole text is a path attribute with a value. -/
def IsPathAttribute (data : ByteArray) (value : String) (sibling : Tree) : Prop :=
  sibling.type = "attribute_item" ∧ Spells value.toList (sibling.textOf data).toList

variable {data : ByteArray} {run : List Tree} {sibling : Tree}

theorem mentions_of_isPathAttribute {value : String} (whole : IsPathAttribute data value sibling) :
    Mentions data sibling :=
  ⟨whole.1, exists_isFirst_iff.mp ⟨_, .here whole.2⟩⟩

theorem exists_nearest {holds : Tree → Prop} {siblings : List Tree} (member : sibling ∈ siblings)
    (there : holds sibling) : ∃ nearest, Nearest holds siblings nearest := by
  induction siblings with
  | nil => exact absurd member List.not_mem_nil
  | cons first others hypothesis =>
    by_cases here : holds first
    · exact ⟨first, [], others, rfl, here, nofun⟩
    · rcases List.mem_cons.mp member with rfl | member
      · exact absurd there here
      · obtain ⟨nearest, near, far, rfl, found, before⟩ := hypothesis member
        exact ⟨nearest, first :: near, far, rfl, found, List.forall_mem_cons.mpr ⟨here, before⟩⟩

/-- When the nearest sibling with a property has a stronger one, it is the nearest with this one. -/
theorem nearest_congr {holds stronger : Tree → Prop} (weaken : ∀ sibling, stronger sibling → holds sibling)
    (strengthen : ∀ sibling, Nearest holds run sibling → stronger sibling) :
    Nearest holds run sibling ↔ Nearest stronger run sibling := by
  constructor
  · intro nearest
    have strong := strengthen sibling nearest
    obtain ⟨near, far, split, _, before⟩ := nearest
    exact ⟨near, far, split, strong, fun other member has => before other member (weaken other has)⟩
  · rintro ⟨near, far, rfl, strong, before⟩
    refine ⟨near, far, rfl, weaken _ strong, fun other member has => ?_⟩
    -- The nearest sibling with the property would stand before, and have the stronger one.
    obtain ⟨nearest, front, back, rfl, found, earlier⟩ := exists_nearest member has
    refine before nearest (by simp) (strengthen nearest ⟨front, back ++ sibling :: far, ?_, found, earlier⟩)
    simp

/-- What an attribute has to say of the file of a module. -/
theorem valueOf_eq_some_iff {value : String} :
    (if sibling.type == "attribute_item" then
        (valueIn? (sibling.textOf data).toList).map String.ofList else none) = some value
      ↔ sibling.type = "attribute_item" ∧ IsFirst value.toList (sibling.textOf data).toList := by
  by_cases typed : sibling.type = "attribute_item"
  · rw [if_pos (beq_iff_eq.mpr typed), Option.map_eq_some_iff, and_iff_right typed]
    constructor
    · rintro ⟨letters, found, rfl⟩
      rw [String.toList_ofList]
      exact valueIn?_eq_some_iff.mp found
    · intro first
      exact ⟨value.toList, valueIn?_eq_some_iff.mpr first, String.ofList_toList⟩
  · rw [if_neg (mt beq_iff_eq.mp typed)]
    exact ⟨nofun, fun found => absurd found.1 typed⟩

theorem valueOf_eq_none_iff :
    (if sibling.type == "attribute_item" then
        (valueIn? (sibling.textOf data).toList).map String.ofList else none) = none
      ↔ ¬Mentions data sibling := by
  unfold Mentions
  by_cases typed : sibling.type = "attribute_item"
  · rw [if_pos (beq_iff_eq.mpr typed), Option.map_eq_none_iff, valueIn?_eq_none_iff,
      and_iff_right typed]
  · rw [if_neg (mt beq_iff_eq.mp typed)]
    exact iff_of_true rfl fun mentions => typed mentions.1

/-- **The attribute that names the file of a module** is the nearest one in whose text a path attribute occurs. -/
theorem pathAttribute?_eq_some_iff {rest : List Tree} {value : String}
    (attributes : ∀ sibling ∈ run, sibling.type ∈ attributeSiblings)
    (ends : ∀ sibling ∈ rest.head?, sibling.type ∉ attributeSiblings) :
    pathAttribute? data (run ++ rest) = some value
      ↔ ∃ sibling, Nearest (Mentions data) run sibling
        ∧ IsFirst value.toList (sibling.textOf data).toList := by
  have front : (run ++ rest).takeWhile (fun sibling => attributeSiblings.contains sibling.type) = run := by
    rw [List.takeWhile_append_of_pos fun sibling member => List.contains_iff_mem.mpr (attributes sibling member)]
    cases rest with
    | nil => exact List.append_nil run
    | cons first others =>
      have none : (first :: others).takeWhile (fun sibling => attributeSiblings.contains sibling.type) = [] :=
        List.takeWhile_cons_of_neg (mt List.contains_iff_mem.mp (ends first rfl))
      rw [none, List.append_nil]
  unfold pathAttribute?
  dsimp only
  rw [front, List.findSome?_eq_some_iff]
  constructor
  · rintro ⟨near, sibling, far, split, found, before⟩
    obtain ⟨typed, first⟩ := valueOf_eq_some_iff.mp found
    exact ⟨sibling, ⟨near, far, split, ⟨typed, exists_isFirst_iff.mp ⟨_, first⟩⟩,
      fun other member => valueOf_eq_none_iff.mp (before other member)⟩, first⟩
  · rintro ⟨sibling, ⟨near, far, split, mentions, before⟩, first⟩
    exact ⟨near, sibling, far, split, valueOf_eq_some_iff.mpr ⟨mentions.1, first⟩,
      fun other member => valueOf_eq_none_iff.mpr (before other member)⟩

/-- **What names the file of a module.** Of the attributes and comments right above a module, the nearest attribute
in whose text a path attribute occurs names its file, by the first one that occurs there. When this attribute is a
path attribute as a whole, a file is named exactly when some attribute is a path attribute, and it is the value of
the nearest one. -/
theorem nearest_names_file (data : ByteArray) (run rest : List Tree)
    (attributes : ∀ sibling ∈ run, sibling.type ∈ attributeSiblings)
    (ends : ∀ sibling ∈ rest.head?, sibling.type ∉ attributeSiblings) :
    (∀ value, pathAttribute? data (run ++ rest) = some value
        ↔ ∃ sibling, Nearest (Mentions data) run sibling
          ∧ IsFirst value.toList (sibling.textOf data).toList)
      ∧ ((∀ sibling, Nearest (Mentions data) run sibling → ∃ value, IsPathAttribute data value sibling) →
        ∀ value, pathAttribute? data (run ++ rest) = some value
          ↔ ∃ sibling, Nearest (fun sibling => ∃ value, IsPathAttribute data value sibling) run sibling
            ∧ IsPathAttribute data value sibling) := by
  refine ⟨fun value => pathAttribute?_eq_some_iff attributes ends, fun whole value => ?_⟩
  rw [pathAttribute?_eq_some_iff attributes ends]
  refine exists_congr fun sibling => ?_
  rw [nearest_congr (fun _ ⟨_, path⟩ => mentions_of_isPathAttribute path) whole]
  refine and_congr_right fun ⟨_, _, _, ⟨value', path⟩, _⟩ => ?_
  rw [isFirst_iff_of_spells path.2]
  constructor
  · intro same
    exact String.toList_inj.mp same ▸ path
  · intro path'
    exact (isFirst_iff_of_spells path.2).mp (.here path'.2)

/-! ### Some attributes -/

/-- A node of a text between two offsets. -/
def partOf (type : String) (start stop : Int) : Tree :=
  .node { type, start, stop } []

/-- A module with two path attributes, a comment that mentions another and an attribute that mentions none. -/
def twicePathed : ByteArray :=
  "#[path = \"far.rs\"]\n#[ path=\"near.rs\" ]\n// #[path = \"no.rs\"]\n#[cfg(unix)]\nmod a;\n".toUTF8

/-- The further path attribute. -/
def farAttribute : Tree := partOf "attribute_item" 0 18

/-- The nearer path attribute. -/
def nearAttribute : Tree := partOf "attribute_item" 19 38

/-- The comment below it. -/
def pathComment : Tree := partOf "line_comment" 39 59

/-- The attribute right above the module. -/
def plainAttribute : Tree := partOf "attribute_item" 60 72

theorem blanks_space : Blanks [' '] := by
  intro letter member
  rw [List.mem_singleton.mp member]
  decide

theorem isPathAttribute_far : IsPathAttribute twicePathed "far.rs" farAttribute := by
  have text : (farAttribute.textOf twicePathed).toList
      = ['#', '[', 'p', 'a', 't', 'h', ' ', '=', ' ', '"', 'f', 'a', 'r', '.', 'r', 's', '"', ']'] := by
    decide +kernel
  have value : "far.rs".toList = ['f', 'a', 'r', '.', 'r', 's'] := by simp
  refine ⟨rfl, ?_⟩
  rw [text, value]
  exact ⟨by decide, _, rfl, _, ⟨[], nofun, rfl⟩, _, ⟨[], nofun, rfl⟩, _, ⟨[' '], blanks_space, rfl⟩, _,
    ⟨[' '], blanks_space, rfl⟩, _, ⟨[], nofun, rfl⟩, rfl⟩

theorem isPathAttribute_near : IsPathAttribute twicePathed "near.rs" nearAttribute := by
  have text : (nearAttribute.textOf twicePathed).toList
      = ['#', '[', ' ', 'p', 'a', 't', 'h', '=', '"', 'n', 'e', 'a', 'r', '.', 'r', 's', '"', ' ', ']'] := by
    decide +kernel
  have value : "near.rs".toList = ['n', 'e', 'a', 'r', '.', 'r', 's'] := by simp
  refine ⟨rfl, ?_⟩
  rw [text, value]
  exact ⟨by decide, _, rfl, _, ⟨[], nofun, rfl⟩, _, ⟨[' '], blanks_space, rfl⟩, _, ⟨[], nofun, rfl⟩, _,
    ⟨[], nofun, rfl⟩, _, ⟨[' '], blanks_space, rfl⟩, rfl⟩

theorem not_mentions_plain : ¬Mentions twicePathed plainAttribute := fun mentions =>
  valueIn?_eq_none_iff.mp (by decide +kernel) mentions.2

theorem not_mentions_comment : ¬Mentions twicePathed pathComment := fun mentions =>
  absurd mentions.1 (by decide)

/-- The nearer path attribute names the file, past the comment and the attribute below it. -/
theorem nearest_names_file_near :
    let run := [plainAttribute, pathComment, nearAttribute, farAttribute]
    (∀ sibling ∈ run, sibling.type ∈ attributeSiblings)
      ∧ (∀ sibling ∈ ([] : List Tree).head?, sibling.type ∉ attributeSiblings)
      ∧ (∀ sibling, Nearest (Mentions twicePathed) run sibling →
          ∃ value, IsPathAttribute twicePathed value sibling)
      ∧ pathAttribute? twicePathed (run ++ []) = some "near.rs" := by
  intro run
  have attributes : ∀ sibling ∈ run, sibling.type ∈ attributeSiblings := by decide
  have whole : ∀ sibling, Nearest (Mentions twicePathed) run sibling →
      ∃ value, IsPathAttribute twicePathed value sibling := by
    have each : ∀ sibling ∈ run, Mentions twicePathed sibling →
        ∃ value, IsPathAttribute twicePathed value sibling := by
      simp only [run, List.forall_mem_cons]
      exact ⟨fun mentions => absurd mentions not_mentions_plain,
        fun mentions => absurd mentions not_mentions_comment,
        fun _ => ⟨_, isPathAttribute_near⟩, fun _ => ⟨_, isPathAttribute_far⟩, nofun⟩
    rintro sibling ⟨near, far, split, mentions, _⟩
    exact each sibling (by rw [split]; simp) mentions
  refine ⟨attributes, nofun, whole, ?_⟩
  refine ((nearest_names_file twicePathed run [] attributes nofun).2 whole "near.rs").mpr
    ⟨nearAttribute, ⟨[plainAttribute, pathComment], [farAttribute], rfl, ⟨_, isPathAttribute_near⟩, ?_⟩,
      isPathAttribute_near⟩
  simp only [List.forall_mem_cons]
  exact ⟨fun ⟨_, path⟩ => not_mentions_plain (mentions_of_isPathAttribute path),
    fun ⟨_, path⟩ => not_mentions_comment (mentions_of_isPathAttribute path), nofun⟩

/-- A module below an attribute whose text has a path attribute in a literal. -/
def documentedText : ByteArray :=
  "#[doc = r#\"#[path = \"other.rs\"]\"#]\nmod a;\n".toUTF8

/-- **A text in a literal names the file of a module**, though no attribute above the module is a path attribute. -/
theorem documented_names_file :
    ∃ site ∈ (Grammar.parse documentedText).sites, isBodiless site.node = true
      ∧ (∀ sibling ∈ site.before, sibling.type ∈ attributeSiblings)
      ∧ pathAttribute? documentedText site.before = some "other.rs"
      ∧ ∀ sibling ∈ site.before, ∀ value, ¬IsPathAttribute documentedText value sibling := by
  have found : ∃ site ∈ (Grammar.parse documentedText).sites, isBodiless site.node = true
      ∧ (∀ sibling ∈ site.before, sibling.type ∈ attributeSiblings)
      ∧ pathAttribute? documentedText site.before = some "other.rs"
      ∧ ∀ sibling ∈ site.before, valueAt? (sibling.textOf documentedText).toList = none := by
    decide +kernel
  obtain ⟨site, member, bodiless, attributes, named, nothing⟩ := found
  exact ⟨site, member, bodiless, attributes, named, fun sibling before value path =>
    valueAt?_eq_none_iff.mp (nothing sibling before) _ _ path.2⟩

end UnsafeCensus.Crate
