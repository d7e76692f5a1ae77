/-
**Settings files that are refused.**

The settings in a file are read, or the file is refused by a diagnostic, but for five cases. Those end by
something else: a path with a character of value zero, bytes that are no text, an integer with too many digits
anywhere in the document, a list or an object in too many others, and a limit that is an integer beyond the
numbers of 64 bits.

* `Settled`: a result, or a diagnostic of settings; sequences of settled attempts are settled;
* `Escapes`: the five cases, by what the file holds;
* `result_of_escapes`: each of them ends by its own failure;
* `settled_readSettings_iff`: what is read from a file is settled exactly when none of them holds;
* `not_escapes`: none of them holds of a text without long digits, without too many brackets and without a great
  limit.
-/

import Mathlib
import UnsafeCensus.Proofs.Json.Limits
import UnsafeCensus.Proofs.Number.Overflow
import UnsafeCensus.Proofs.Settings.Store

namespace UnsafeCensus.Settings

open Census Files

/-! ### Results and diagnostics -/

/-- A result, or a diagnostic of settings. -/
inductive Settled {α : Type} : Except Failure α → Prop
  | ok (value : α) : Settled (.ok value)
  | refused {diagnostic : Diagnostic} (family : diagnostic.family = .settings) :
      Settled (.error (.diagnosed diagnostic))

theorem Settled.bind {α β : Type} {first : Except Failure α} {second : α → Except Failure β}
    (start : Settled first) (next : ∀ value, first = .ok value → Settled (second value)) :
    Settled (first >>= second) := by
  cases start with
  | ok value => exact next value rfl
  | refused family => exact .refused family

/-- A settled attempt has a result, or a sequence ends with it. -/
theorem Settled.ok_or {α : Type} (β : Type) {first : Except Failure α} (settled : Settled first) :
    (∃ value, first = .ok value) ∨ ∀ second : α → Except Failure β, Settled (first >>= second) := by
  cases settled with
  | ok value => exact .inl ⟨value, rfl⟩
  | refused family => exact .inr fun _ => .refused family

variable {nesting : Option Nat} {tree : Tree} {path : Path} {source : Option String} {failure : Failure}
  {members : List (Json.Text × Json.Value)}

theorem settled_refused {α : Type} (source : Option String) (message : String) :
    Settled (.error (refused source message) : Except Failure α) :=
  .refused rfl

theorem settled_formatOf (value : Json.Value) : Settled (formatOf source value) := by
  unfold formatOf
  dsimp only
  split
  · exact .ok _
  · exact settled_refused _ _

theorem settled_switchOf (name : String) (value : Json.Value) : Settled (switchOf source name value) := by
  cases value with
  | boolean value => exact .ok value
  | _ => exact settled_refused _ _

theorem settled_memberOr {α : Type} {read : Json.Value → Except Failure α}
    (settled : ∀ value, Settled (read value)) (name : String) (present : α) :
    Settled (memberOr members name read present) := by
  unfold memberOr
  split
  · exact settled _
  · exact .ok present

/-! ### Limits -/

/-- An integer from the least overflow on is no limit. -/
theorem integerLimit_of_le {value : Int} (large : (Binary64.leastOverflow : Int) ≤ value) :
    integerLimit value = .error .integerOverflow := by
  have sign : decide (value < 0) = false := by
    rw [decide_eq_false_iff_not]
    omega
  have infinite : Binary64.ofInt value = .infinite false := by
    unfold Binary64.ofInt
    rw [sign]
    exact Binary64.ofRatio_eq_infinite_iff.mpr (by omega)
  unfold integerLimit
  rw [infinite]

/-- An integer below it is one. -/
theorem settled_integerLimit {value : Int} (nonnegative : 0 ≤ value)
    (small : value < Binary64.leastOverflow) : Settled (integerLimit value) := by
  have sign : decide (value < 0) = false := by
    rw [decide_eq_false_iff_not]
    omega
  unfold integerLimit Binary64.ofInt
  rw [sign]
  cases rounded : Binary64.ofRatio false value.natAbs 1 with
  | nan => exact .ok _
  | finite negative significand exponent => exact .ok _
  | infinite negative =>
    cases negative with
    | true => exact absurd rounded (Binary64.ofRatio_ne_infinite false _ _)
    | false =>
      have beyond := Binary64.ofRatio_eq_infinite_iff.mp rounded
      omega

theorem settled_limitOf {value : Json.Value}
    (small : ∀ integer, value = .integer integer → integer < Binary64.leastOverflow) :
    Settled (limitOf source value) := by
  cases value with
  | null => exact .ok none
  | integer integer =>
    rw [limitOf]
    by_cases below : integer < 0
    · rw [if_pos below]
      exact settled_refused _ _
    · rw [if_neg below]
      have read := settled_integerLimit (not_lt.mp below) (small integer rfl)
      generalize integerLimit integer = limit at read
      cases read with
      | ok limit => exact .ok _
      | refused family => exact .refused family
  | real value =>
    rw [limitOf]
    split
    · exact settled_refused _ _
    · exact .ok _
  | _ => exact settled_refused _ _

theorem limitOf_of_le {value : Int} (large : (Binary64.leastOverflow : Int) ≤ value) :
    limitOf source (.integer value) = .error .integerOverflow := by
  rw [limitOf, if_neg (by omega), integerLimit_of_le large]
  rfl

/-! ### What a file comes to -/

/-- The value in a settings file that can be read. -/
theorem readDocument_eq {path : String} {data : ByteArray} (plain : '\x00' ∉ path.toList)
    (file : tree.read path = .ok data) :
    readDocument nesting tree path = characters data >>= documentOf nesting path := by
  have clear : withoutNull none path = .ok () := withoutNull_eq_ok_iff.mpr plain
  unfold readDocument
  rw [clear, file]
  rfl

/-- A settings file ends a run by what is no diagnostic. -/
inductive Escapes (nesting : Option Nat) (tree : Tree) (path : Path) : Failure → Prop
  | null (present : '\x00' ∈ path.text.toList) : Escapes nesting tree path (.broken (.noNull none))
  | undecodable {data : ByteArray} {fault : Utf8.Fault} (plain : '\x00' ∉ path.text.toList)
      (file : tree.read path.text = .ok data) (bytes : Utf8.decode? data.toList = .error fault) :
      Escapes nesting tree path (.undecodable fault)
  | longInteger {data : ByteArray} {letters : List Char} {count offset : Nat}
      (plain : '\x00' ∉ path.text.toList) (file : tree.read path.text = .ok data)
      (decoded : characters data = .ok letters)
      (digits : Json.read nesting letters = .error ⟨.tooManyDigits count, offset⟩) :
      Escapes nesting tree path (.broken (.fewDigits count))
  | tooDeep {data : ByteArray} {letters : List Char} {container : Json.Container} {offset : Nat}
      (plain : '\x00' ∉ path.text.toList) (file : tree.read path.text = .ok data)
      (decoded : characters data = .ok letters)
      (nested : Json.read nesting letters = .error ⟨.tooDeep container, offset⟩) :
      Escapes nesting tree path (.tooDeep container)
  | largeLimit {members : List (Json.Text × Json.Value)} {format : Option Format}
      {follow document : Option Bool} {value : Int}
      (reads : readDocument nesting tree path.text = .ok (.object members))
      (formats : Gives IsFormat members "report_format" format)
      (follows : Gives IsSwitch members "follow_modules" follow)
      (documents : Gives IsSwitch members "json_output" document)
      (limit : Json.get? members "fail_above" = some (.integer value))
      (large : (Binary64.leastOverflow : Int) ≤ value) :
      Escapes nesting tree path .integerOverflow

theorem Escapes.not_settled {α : Type} (escapes : Escapes nesting tree path failure) :
    ¬ Settled (.error failure : Except Failure α) := by
  intro settled
  cases settled
  cases escapes

theorem Escapes.not_diagnosed (escapes : Escapes nesting tree path failure) (diagnostic : Diagnostic) :
    failure ≠ .diagnosed diagnostic := by
  rintro rfl
  cases escapes

theorem checked_of_le {settings : Settings} {format : Option Format} {follow document : Option Bool}
    {value : Int} (formats : Gives IsFormat members "report_format" format)
    (follows : Gives IsSwitch members "follow_modules" follow)
    (documents : Gives IsSwitch members "json_output" document)
    (limit : Json.get? members "fail_above" = some (.integer value))
    (large : (Binary64.leastOverflow : Int) ≤ value) :
    settings.checked source members = .error .integerOverflow := by
  have limited : memberOr members "fail_above" (limitOf source) settings.failAbove
      = .error .integerOverflow := by
    unfold memberOr
    rw [limit]
    exact limitOf_of_le large
  unfold checked
  rw [(memberOr_eq_ok_iff formatOf_eq_ok_iff).mpr ⟨_, formats, rfl⟩,
    (memberOr_eq_ok_iff switchOf_eq_ok_iff).mpr ⟨_, follows, rfl⟩,
    (memberOr_eq_ok_iff switchOf_eq_ok_iff).mpr ⟨_, documents, rfl⟩, limited]
  rfl

/-- **Each of the cases ends by its own failure.** -/
theorem result_of_escapes (escapes : Escapes nesting tree path failure) :
    (readSettings nesting tree path).result = .error failure := by
  unfold readSettings
  rw [Attempt.result_bind]
  show (readDocument nesting tree path.text >>= _) = _
  cases escapes with
  | null present =>
    unfold readDocument withoutNull
    rw [if_pos (by simpa using present)]
    rfl
  | undecodable plain file bytes =>
    rw [readDocument_eq plain file]
    unfold characters
    rw [bytes]
    rfl
  | longInteger plain file decoded known | tooDeep plain file decoded known =>
    rw [readDocument_eq plain file, decoded]
    show (documentOf nesting path.text _ >>= _) = _
    unfold documentOf
    rw [known]
    rfl
  | largeLimit reads formats follows documents limit large =>
    rw [reads]
    exact result_ofMembers.trans (checked_of_le formats follows documents limit large)

theorem checked_cases (settings : Settings) (source : Option String)
    (members : List (Json.Text × Json.Value)) :
    Settled (settings.checked source members)
      ∨ ∃ format follow document value, Gives IsFormat members "report_format" format
          ∧ Gives IsSwitch members "follow_modules" follow
          ∧ Gives IsSwitch members "json_output" document
          ∧ Json.get? members "fail_above" = some (.integer value)
          ∧ (Binary64.leastOverflow : Int) ≤ value := by
  have formats : Settled (memberOr members "report_format" (formatOf source) settings.format) :=
    settled_memberOr settled_formatOf _ _
  have switches (name : String) (present : Bool) :
      Settled (memberOr members name (switchOf source name) present) :=
    settled_memberOr (settled_switchOf name) _ _
  have follows := switches "follow_modules" settings.followModules
  have documents := switches "json_output" settings.document
  by_cases small : ∀ integer, Json.get? members "fail_above" = some (.integer integer) →
      integer < Binary64.leastOverflow
  · left
    refine formats.bind fun _ _ => follows.bind fun _ _ => documents.bind fun _ _ => ?_
    have limit : Settled (memberOr members "fail_above" (limitOf source) settings.failAbove) := by
      unfold memberOr
      cases there : Json.get? members "fail_above" with
      | none => exact .ok _
      | some value =>
        refine settled_limitOf fun integer same => small integer ?_
        rw [there, same]
    exact limit.bind fun _ _ => .ok _
  · simp only [not_forall, not_lt] at small
    obtain ⟨value, limit, large⟩ := small
    -- The limit is looked at last, so it ends the check only after all others were in order.
    unfold checked
    rcases formats.ok_or Settings with ⟨format, found⟩ | ends
    · rcases follows.ok_or Settings with ⟨follow, found'⟩ | ends
      · rcases documents.ok_or Settings with ⟨document, found''⟩ | ends
        · obtain ⟨_, formats, _⟩ := (memberOr_eq_ok_iff formatOf_eq_ok_iff).mp found
          obtain ⟨_, follows, _⟩ := (memberOr_eq_ok_iff switchOf_eq_ok_iff).mp found'
          obtain ⟨_, documents, _⟩ := (memberOr_eq_ok_iff switchOf_eq_ok_iff).mp found''
          exact .inr ⟨_, _, _, value, formats, follows, documents, limit, large⟩
        · exact .inl (formats.bind fun _ _ => follows.bind fun _ _ => ends _)
      · exact .inl (formats.bind fun _ _ => ends _)
    · exact .inl (ends _)

theorem documentOf_eq_ok_iff {path : String} {letters : List Char} {value : Json.Value} :
    documentOf nesting path letters = .ok value ↔ Json.read nesting letters = .ok value := by
  unfold documentOf
  cases Json.read nesting letters with
  | ok found => simp
  | error fault =>
    obtain ⟨problem, offset⟩ := fault
    cases problem <;> exact ⟨nofun, nofun⟩

theorem settled_documentOf {path : String} {letters : List Char}
    (short : ∀ count offset, Json.read nesting letters ≠ .error ⟨.tooManyDigits count, offset⟩)
    (flat : ∀ container offset, Json.read nesting letters ≠ .error ⟨.tooDeep container, offset⟩) :
    Settled (documentOf nesting path letters) := by
  unfold documentOf
  cases read : Json.read nesting letters with
  | ok value => exact .ok value
  | error fault =>
    obtain ⟨problem, offset⟩ := fault
    cases problem with
    | tooManyDigits count => exact absurd read (short count offset)
    | tooDeep container => exact absurd read (flat container offset)
    | _ => exact .refused rfl

theorem readDocument_cases (nesting : Option Nat) (tree : Tree) (path : Path) :
    Settled (readDocument nesting tree path.text) ∨ ∃ failure, Escapes nesting tree path failure := by
  by_cases null : '\x00' ∈ path.text.toList
  · exact .inr ⟨_, .null null⟩
  cases file : tree.read path.text with
  | error trouble =>
    have clear : withoutNull none path.text = .ok () := withoutNull_eq_ok_iff.mpr null
    left
    unfold readDocument
    rw [clear, file]
    exact .refused rfl
  | ok data =>
    rw [readDocument_eq null file]
    cases bytes : Utf8.decode? data.toList with
    | error fault => exact .inr ⟨_, .undecodable null file bytes⟩
    | ok decoded =>
      have letters : characters data = .ok (lineFeeds decoded) := by
        unfold characters
        rw [bytes]
      by_cases short : ∀ count offset, Json.read nesting (lineFeeds decoded) ≠ .error ⟨.tooManyDigits count, offset⟩
      · by_cases flat :
            ∀ container offset, Json.read nesting (lineFeeds decoded) ≠ .error ⟨.tooDeep container, offset⟩
        · rw [letters]
          exact .inl (settled_documentOf short flat)
        · simp only [not_forall, not_not] at flat
          obtain ⟨container, offset, nested⟩ := flat
          exact .inr ⟨_, .tooDeep null file letters nested⟩
      · simp only [not_forall, not_not] at short
        obtain ⟨count, offset, digits⟩ := short
        exact .inr ⟨_, .longInteger null file letters digits⟩

theorem readSettings_cases (nesting : Option Nat) (tree : Tree) (path : Path) :
    Settled (readSettings nesting tree path).result ∨ ∃ failure, Escapes nesting tree path failure := by
  rcases readDocument_cases nesting tree path with settled | escapes
  · unfold readSettings
    rw [Attempt.result_bind]
    show Settled (readDocument nesting tree path.text >>= _) ∨ _
    cases reads : readDocument nesting tree path.text with
    | error failure =>
      rw [reads] at settled
      cases settled with
      | refused family => exact .inl (.refused family)
    | ok document =>
      cases document with
      | object members =>
        rcases checked_cases {} (some path.text) members with
          checked | ⟨format, follow, document, value, formats, follows, documents, limit, large⟩
        · rw [← result_ofMembers] at checked
          exact .inl checked
        · exact .inr ⟨_, .largeLimit reads formats follows documents limit large⟩
      | _ => exact .inl (.refused rfl)
  · exact .inr escapes

/-- **What is read from a file is settled** exactly when none of the cases holds. -/
theorem settled_readSettings_iff :
    Settled (readSettings nesting tree path).result ↔ ∀ failure, ¬ Escapes nesting tree path failure := by
  constructor
  · intro settled failure escapes
    rw [result_of_escapes escapes] at settled
    exact escapes.not_settled settled
  · intro none
    rcases readSettings_cases nesting tree path with settled | ⟨failure, escapes⟩
    · exact settled
    · exact absurd escapes (none failure)

/-- **None of the cases holds** of a text without long digits, without more brackets than may be nested, and
without a great limit. -/
theorem not_escapes {data : ByteArray} {letters : List Char} (plain : '\x00' ∉ path.text.toList)
    (file : tree.read path.text = .ok data) (decoded : characters data = .ok letters)
    (short : ∀ count, ¬ Json.LongDigits letters count)
    (flat : ∀ room, nesting = some room → Json.openings letters ≤ room + 1)
    (small : ∀ members value, Json.read nesting letters = .ok (.object members) →
      Json.get? members "fail_above" = some (.integer value) → value < Binary64.leastOverflow) :
    ¬ Escapes nesting tree path failure := by
  intro escapes
  cases escapes with
  | null present => exact plain present
  | undecodable _ file' bytes =>
    cases file.symm.trans file'
    unfold characters at decoded
    rw [bytes] at decoded
    cases decoded
  | longInteger _ file' decoded' digits =>
    cases file.symm.trans file'
    cases decoded.symm.trans decoded'
    exact short _ (Json.longDigits_of_read digits)
  | tooDeep _ file' decoded' nested =>
    cases file.symm.trans file'
    cases decoded.symm.trans decoded'
    obtain ⟨room, limited, deep⟩ := Json.openings_of_read nested
    exact absurd (flat room limited) (not_le.mpr deep)
  | largeLimit reads _ _ _ limit large =>
    rw [readDocument_eq plain file, decoded] at reads
    exact absurd (small _ _ (documentOf_eq_ok_iff.mp reads) limit) (not_lt.mpr large)

end UnsafeCensus.Settings
