/-
**Settings in layers.**

Each source of settings says some of them and leaves the others open. Put over settings, it changes what it
says and nothing else.

* `Layer`, `Layer.over`: what a source says, and settings with it over them;
* `Layer.Of`: what the members of an object say;
* `checked_eq_ok_iff`: checking members puts what they say over the settings;
* `withOverrides_eq_ok_iff`: further settings are checked for what they give;
* `Layer.of_congr`: only the members of the four names say anything.
-/

import Mathlib
import UnsafeCensus.Proofs.Attempt
import UnsafeCensus.Settings.Basic

namespace UnsafeCensus.Settings

open Census

/-! ### The values of members -/

/-- A text is the name of a format, in letters of either case. -/
def Names (text : String) (format : Format) : Prop :=
  String.ofList (text.toList.map Char.toLower) = format.name

theorem ofName?_eq_some_iff {name : String} {format : Format} :
    Format.ofName? name = some format ↔ Names name format := by
  rw [Format.ofName?, Names]
  constructor
  · intro found
    have same := List.find?_some found
    exact (beq_iff_eq.mp same).symm
  · intro same
    rw [same]
    cases format <;> decide

theorem names_name_iff {format meant : Format} : Names format.name meant ↔ meant = format := by
  rw [← ofName?_eq_some_iff, Format.ofName?_name, Option.some.injEq, eq_comm]

/-- A value is a text with the name of a format. -/
def IsFormat (value : Json.Value) (format : Format) : Prop :=
  ∃ points, value = .text points ∧ Names (Json.Text.toString points) format

/-- A value is a truth value. -/
def IsSwitch (value : Json.Value) (switch : Bool) : Prop :=
  value = .boolean switch

/-- A value is a limit: null for none, or a number that is not below zero. -/
inductive IsLimit : Json.Value → Option Binary64 → Prop
  | unlimited : IsLimit .null none
  | integer {value : Int} {limit : Binary64} (nonnegative : 0 ≤ value)
      (finite : integerLimit value = .ok limit) : IsLimit (.integer value) (some limit)
  | real {limit : Binary64} (nonnegative : (Amount.real limit).below (.whole 0) = false) :
      IsLimit (.real limit) (some limit)

theorem isLimit_real_iff {limit : Binary64} {meant : Option Binary64} :
    IsLimit (.real limit) meant ↔
      meant = some limit ∧ (Amount.real limit).below (.whole 0) = false := by
  constructor
  · intro stands
    cases stands with
    | real nonnegative => exact ⟨rfl, nonnegative⟩
  · rintro ⟨rfl, nonnegative⟩
    exact .real nonnegative

variable {source : Option String}

theorem formatOf_eq_ok_iff {value : Json.Value} {format : Format} :
    formatOf source value = .ok format ↔ IsFormat value format := by
  cases value with
  | text points =>
    cases named : Format.ofName? (Json.Text.toString points) <;>
      simp [formatOf, IsFormat, named, ← ofName?_eq_some_iff]
  | _ => exact ⟨nofun, fun ⟨_, equal, _⟩ => nomatch equal⟩

theorem switchOf_eq_ok_iff {name : String} {value : Json.Value} {switch : Bool} :
    switchOf source name value = .ok switch ↔ IsSwitch value switch := by
  cases value <;> simp [switchOf, IsSwitch]

theorem limitOf_eq_ok_iff {value : Json.Value} {limit : Option Binary64} :
    limitOf source value = .ok limit ↔ IsLimit value limit := by
  constructor
  · intro read
    cases value with
    | null =>
      cases read
      exact .unlimited
    | integer value =>
      by_cases below : value < 0
      · simp [limitOf, below] at read
      · rw [limitOf, if_neg below] at read
        cases finite : integerLimit value with
        | error failure =>
          rw [finite] at read
          cases read
        | ok limit =>
          rw [finite] at read
          cases read
          exact .integer (not_lt.mp below) finite
    | real value =>
      by_cases below : (Amount.real value).below (.whole 0) = true
      · simp [limitOf, below] at read
      · rw [limitOf, if_neg below] at read
        cases read
        exact .real (Bool.eq_false_iff.mpr below)
    | _ => cases read
  · intro stands
    cases stands with
    | unlimited => rfl
    | integer nonnegative finite =>
      rw [limitOf, if_neg (not_lt.mpr nonnegative), finite]
      rfl
    | real nonnegative => rw [limitOf, if_neg (Bool.eq_false_iff.mp nonnegative)]

/-! ### Layers -/

/-- What one source says of the settings, each of which it may leave open. -/
structure Layer where
  format : Option Format := none
  followModules : Option Bool := none
  /-- A source may also say that there is no limit. -/
  failAbove : Option (Option Binary64) := none
  document : Option Bool := none

/-- The settings with what a layer says in place of theirs. -/
def Layer.over (layer : Layer) (settings : Settings) : Settings where
  format := layer.format.getD settings.format
  followModules := layer.followModules.getD settings.followModules
  failAbove := layer.failAbove.getD settings.failAbove
  document := layer.document.getD settings.document

variable {members : List (Json.Text × Json.Value)}

/-- What the member of a name says, if there is one. -/
def Gives {α : Type} (means : Json.Value → α → Prop) (members : List (Json.Text × Json.Value))
    (name : String) : Option α → Prop
  | none => Json.get? members name = none
  | some meant => ∃ value, Json.get? members name = some value ∧ means value meant

/-- What the members of an object say. -/
structure Layer.Of (members : List (Json.Text × Json.Value)) (layer : Layer) : Prop where
  format : Gives IsFormat members "report_format" layer.format
  followModules : Gives IsSwitch members "follow_modules" layer.followModules
  failAbove : Gives IsLimit members "fail_above" layer.failAbove
  document : Gives IsSwitch members "json_output" layer.document

theorem memberOr_eq_ok_iff {α : Type} {read : Json.Value → Except Failure α}
    {means : Json.Value → α → Prop} (reads : ∀ {value meant}, read value = .ok meant ↔ means value meant)
    {name : String} {present result : α} :
    memberOr members name read present = .ok result ↔
      ∃ said, Gives means members name said ∧ said.getD present = result := by
  cases found : Json.get? members name with
  | none =>
    constructor
    · intro read
      exact ⟨none, found, by simpa [memberOr, found] using read⟩
    · rintro ⟨_ | meant, given, same⟩
      · simpa [memberOr, found] using same
      · obtain ⟨value, other, _⟩ := given
        cases found.symm.trans other
  | some value =>
    constructor
    · intro done
      rw [memberOr, found] at done
      exact ⟨some result, ⟨value, found, reads.mp done⟩, rfl⟩
    · rintro ⟨_ | meant, given, same⟩
      · cases found.symm.trans given
      · obtain ⟨value', other, means⟩ := given
        cases found.symm.trans other
        cases same
        rw [memberOr, found]
        exact reads.mpr means

/-- Checking members puts what they say over the settings. -/
theorem checked_eq_ok_iff {settings result : Settings} :
    settings.checked source members = .ok result ↔
      ∃ layer, Layer.Of members layer ∧ result = layer.over settings := by
  simp only [checked, bind_eq_ok_iff, memberOr_eq_ok_iff formatOf_eq_ok_iff,
    memberOr_eq_ok_iff switchOf_eq_ok_iff, memberOr_eq_ok_iff limitOf_eq_ok_iff]
  constructor
  · rintro ⟨_, ⟨format, named, rfl⟩, _, ⟨follow, follows, rfl⟩, _, ⟨document, documented, rfl⟩, _,
      ⟨limit, limited, rfl⟩, done⟩
    cases done
    exact ⟨⟨format, follow, limit, document⟩, ⟨named, follows, limited, documented⟩, rfl⟩
  · rintro ⟨layer, said, rfl⟩
    exact ⟨_, ⟨_, said.format, rfl⟩, _, ⟨_, said.followModules, rfl⟩, _, ⟨_, said.document, rfl⟩, _,
      ⟨_, said.failAbove, rfl⟩, rfl⟩

/-- The members of further settings, without what they leave open. -/
def givenOf (members : List (Json.Text × Json.Value)) : List (Json.Text × Json.Value) :=
  members.filter fun entry => isGiven entry.2

/-- Further settings are checked for what they give, if all of its names exist. -/
theorem withOverrides_eq_ok_iff {settings result : Settings} :
    settings.withOverrides members = .ok result ↔
      unknownNames (givenOf members) = []
        ∧ settings.checked (some "command line") (givenOf members) = .ok result := by
  unfold withOverrides withOverrides?
  dsimp only
  rw [← givenOf]
  by_cases empty : (givenOf members).isEmpty = true
  · rw [if_pos empty, List.isEmpty_iff.mp empty]
    exact ⟨fun same => ⟨rfl, same⟩, And.right⟩
  · rw [if_neg empty]
    cases unknownNames (givenOf members) with
    | cons name rest => exact ⟨nofun, nofun⟩
    | nil => cases settings.checked (some "command line") (givenOf members) <;> simp [Except.map]

/-- Members of other names say nothing. -/
theorem Layer.Of.congr {others : List (Json.Text × Json.Value)} {layer : Layer}
    (same : ∀ name ∈ names, Json.get? members name = Json.get? others name)
    (of : Layer.Of members layer) : Layer.Of others layer := by
  have gives {α : Type} {means : Json.Value → α → Prop} {name : String} (known : name ∈ names)
      {meant : Option α} (given : Gives means members name meant) : Gives means others name meant := by
    cases meant <;> simpa only [Gives, same name known] using given
  exact ⟨gives (by decide) of.format, gives (by decide) of.followModules,
    gives (by decide) of.failAbove, gives (by decide) of.document⟩

/-- Unknown members are only told of. -/
theorem result_ofMembers :
    (ofMembers members source).result = ({} : Settings).checked source members := by
  rw [ofMembers]
  cases unknown : (unknownNames members).mergeSort Json.Text.notAfter <;> rfl

/-- Where all members exist nothing is told of. -/
theorem ofMembers_of_known (known : unknownNames members = []) :
    ofMembers members source = ⟨[], ({} : Settings).checked source members⟩ := by
  rw [ofMembers, known, List.mergeSort_nil]
  rfl

end UnsafeCensus.Settings
