/-
**What settings can be once they are accepted.**

An object is read over the defaults, and further objects are put over the result in turn. Where none of them is
refused, the format is one of the three, and the limit is at least zero when there is one, unless what was said
of it last is no number: this is not below zero either, so it is let through, and the gate then holds nothing back.
Accepted settings stand when they are checked again, and they are read back from their own object.

* `ofLayers`: the settings of an object with further ones over them;
* `limitSaid`, `LimitFrom`: what was said last of the limit, and the limit that comes from it;
* `limitFrom_over`, `limitFrom_foldlM`: this is kept by one object, and by several in turn;
* `IsLimit.atMost_or`: the limits that can be said;
* `Restored`, `restored_of_limitFrom`: settings that are read back;
* `ofLayers_usable`: what accepted settings are.
-/

import Mathlib
import UnsafeCensus.Proofs.Census.Gate
import UnsafeCensus.Proofs.Number.Order
import UnsafeCensus.Proofs.Settings.Store

namespace UnsafeCensus.Settings

open Census

variable {members : List (Json.Text × Json.Value)} {source : Option String}
  {overrides : List (List (Json.Text × Json.Value))} {settings result : Settings}

/-- The settings of an object, with further ones over them in turn, none of which is refused. -/
def ofLayers (members : List (Json.Text × Json.Value)) (source : Option String)
    (overrides : List (List (Json.Text × Json.Value))) : Except Failure Settings := do
  let settings ← (ofMembers members source).result
  overrides.foldlM withOverrides settings

/-! ### Where the limit comes from -/

/-- What was said of the limit last, when something may have been said before. -/
def limitSaid (said : Option Json.Value) (overrides : List (List (Json.Text × Json.Value))) :
    Option Json.Value :=
  overrides.foldl (fun said members => (Json.get? (givenOf members) "fail_above").or said) said

/-- The limit that comes from what was said of it, if anything was. -/
inductive LimitFrom : Option Json.Value → Option Binary64 → Prop
  | unsaid : LimitFrom none none
  | said {value : Json.Value} {limit : Option Binary64} (stands : IsLimit value limit) :
      LimitFrom (some value) limit

/-- A layer over settings says the limit, or leaves it where it comes from. -/
theorem limitFrom_over {said : Option Json.Value} {layer : Layer} (of : Layer.Of members layer)
    (before : LimitFrom said settings.failAbove) :
    LimitFrom ((Json.get? members "fail_above").or said) (layer.over settings).failAbove := by
  have limit := of.failAbove
  unfold Layer.over
  cases meant : layer.failAbove with
  | none =>
    rw [meant] at limit
    rw [show Json.get? members "fail_above" = none from limit, Option.none_or]
    exact before
  | some meant' =>
    rw [meant] at limit
    obtain ⟨value, found, stands⟩ := limit
    rw [found, Option.some_or]
    exact .said stands

theorem limitFrom_checked {said : Option Json.Value} (before : LimitFrom said settings.failAbove)
    (done : settings.checked source members = .ok result) :
    LimitFrom ((Json.get? members "fail_above").or said) result.failAbove := by
  obtain ⟨layer, of, rfl⟩ := checked_eq_ok_iff.mp done
  exact limitFrom_over of before

/-- The limit of settings with further ones over them in turn comes from what was said of it last. -/
theorem limitFrom_foldlM {said : Option Json.Value} (before : LimitFrom said settings.failAbove)
    (done : overrides.foldlM withOverrides settings = .ok result) :
    LimitFrom (limitSaid said overrides) result.failAbove := by
  induction overrides generalizing said settings with
  | nil =>
    cases done
    exact before
  | cons members rest hypothesis =>
    rw [List.foldlM_cons, bind_eq_ok_iff] at done
    obtain ⟨middle, put, done⟩ := done
    exact hypothesis (limitFrom_checked before (withOverrides_eq_ok_iff.mp put).2) done

theorem limitFrom_ofLayers (accepted : ofLayers members source overrides = .ok settings) :
    LimitFrom (limitSaid (Json.get? members "fail_above") overrides) settings.failAbove := by
  obtain ⟨first, read, done⟩ := bind_eq_ok_iff.mp accepted
  rw [result_ofMembers] at read
  have start : LimitFrom ((Json.get? members "fail_above").or none) first.failAbove :=
    limitFrom_checked .unsaid read
  rw [Option.or_none] at start
  exact limitFrom_foldlM start done

/-! ### The limits that can be said -/

/-- A limit is at least zero, or it was said to be no number. -/
theorem IsLimit.atMost_or {value : Json.Value} {limit : Binary64} (stands : IsLimit value (some limit)) :
    ((Amount.whole 0).AtMost (.real limit) ∧ value ≠ .real .nan) ∨ (limit = .nan ∧ value = .real .nan) := by
  cases stands with
  | @integer value _ nonnegative finite =>
    have sign : decide (value < 0) = false := decide_eq_false (not_lt.mpr nonnegative)
    have rounded : Binary64.ofRatio false value.natAbs 1 = limit := by
      unfold integerLimit Binary64.ofInt at finite
      rw [sign] at finite
      split at finite
      · cases finite
      · exact Except.ok.inj finite
    rw [← rounded]
    exact .inl ⟨Binary64.whole_zero_atMost_ofRatio _, nofun⟩
  | real nonnegative =>
    by_cases number : limit = .nan
    · exact .inr ⟨number, by rw [number]⟩
    · refine .inl ⟨(Amount.atMost_iff rfl (Amount.isSome_place?_real number)).mpr nonnegative, ?_⟩
      rintro ⟨⟩
      exact number rfl

/-- Nothing is at most what is no number. -/
theorem not_atMost_nan : ¬ (Amount.whole 0).AtMost (.real .nan) := by
  rintro (below | same)
  · cases below
  · cases same

theorem LimitFrom.atMost_or {said : Option Json.Value} {limit : Binary64}
    (comes : LimitFrom said (some limit)) :
    ((Amount.whole 0).AtMost (.real limit) ∧ said ≠ some (.real .nan))
      ∨ (limit = .nan ∧ said = some (.real .nan)) := by
  cases comes with
  | said stands =>
    exact stands.atMost_or.imp (And.imp_right fun other same => other (Option.some.inj same))
      (And.imp_right (congrArg some))

/-! ### Settings that are read back -/

/-- Settings have an object which changes nothing of them when they are checked with it, and which is read back as
them without a warning. -/
def Restored (settings : Settings) : Prop :=
  ∃ members, settings.value = .object members
    ∧ (∀ source, settings.checked source members = .ok settings)
    ∧ ∀ source, ofMembers members source = ⟨[], .ok settings⟩

/-- The object of settings has a member for each of them, and no other. -/
theorem exists_members (settings : Settings) :
    ∃ members, settings.value = .object members ∧ unknownNames members = []
      ∧ Json.get? members "report_format" = some (.ofString settings.format.name)
      ∧ Json.get? members "follow_modules" = some (.boolean settings.followModules)
      ∧ Json.get? members "fail_above" = some ((settings.failAbove.map Json.Value.real).getD .null)
      ∧ Json.get? members "json_output" = some (.boolean settings.document) :=
  ⟨_, rfl, rfl, rfl, rfl, rfl, rfl⟩

theorem LimitFrom.isLimit {said : Option Json.Value} {limit : Option Binary64} (comes : LimitFrom said limit) :
    IsLimit ((limit.map Json.Value.real).getD .null) limit := by
  cases limit with
  | none => exact .unlimited
  | some limit =>
    apply IsLimit.real
    rcases comes.atMost_or with ⟨atMost, _⟩ | ⟨rfl, _⟩
    · exact Amount.below_eq_false_of_atMost atMost
    · rfl

/-- Settings with a limit that was said are read back from what their object says. -/
theorem restored_of_limitFrom {said : Option Json.Value} (comes : LimitFrom said settings.failAbove) :
    Restored settings := by
  obtain ⟨members, written, known, format, follow, limit, document⟩ := settings.exists_members
  have of : Layer.Of members
      ⟨some settings.format, some settings.followModules, some settings.failAbove, some settings.document⟩ :=
    ⟨⟨_, format, isFormat_ofString.mpr (names_name_iff.mpr rfl)⟩, ⟨_, follow, rfl⟩, ⟨_, limit, comes.isLimit⟩,
      ⟨_, document, rfl⟩⟩
  have checks (before : Settings) (source : Option String) : before.checked source members = .ok settings :=
    checked_eq_ok_iff.mpr ⟨_, of, rfl⟩
  refine ⟨members, written, fun source => checks settings source, fun source => ?_⟩
  rw [ofMembers_of_known known, checks]

/-- Nothing is held back by a limit that is no number. -/
theorem result_exceeds_nan (metrics : Metrics) :
    (exceeds metrics (some (.real .nan))).result = metrics.percentage.map fun _ => false := by
  rw [result_exceeds]
  congr 1
  funext percentage
  cases percentage <;> rfl

/-- **What settings can be once they are accepted**: all but the limit is as it should be, the limit too unless what
was said of it last is no number, and then the gate is open. -/
theorem ofLayers_usable (accepted : ofLayers members source overrides = .ok settings) :
    settings.format ∈ Format.all
      ∧ (∀ limit, settings.failAbove = some limit → (Amount.whole 0).AtMost (.real limit)
        ∨ limit = .nan)
      ∧ (settings.failAbove = some .nan
        ↔ limitSaid (Json.get? members "fail_above") overrides = some (.real .nan))
      ∧ (settings.failAbove = some .nan → ∀ metrics,
        (exceeds metrics (settings.failAbove.map .real)).result = metrics.percentage.map fun _ => false)
      ∧ Restored settings := by
  have comes := limitFrom_ofLayers accepted
  refine ⟨?format, fun limit known => ?limit, ⟨fun known => ?said, fun said => ?number⟩, fun known metrics => ?gate,
    restored_of_limitFrom comes⟩
  case format => cases settings.format <;> decide
  case limit =>
    rw [known] at comes
    exact comes.atMost_or.imp And.left And.left
  case said =>
    rw [known] at comes
    rcases comes.atMost_or with ⟨atMost, _⟩ | ⟨_, said⟩
    · exact absurd atMost not_atMost_nan
    · exact said
  case number =>
    rw [said] at comes
    cases comes with
    | said stands => exact (isLimit_real_iff.mp stands).1
  case gate =>
    rw [known]
    exact result_exceeds_nan metrics

/-- A limit of five that replaces one that is no number. -/
theorem ofLayers_usable_replaced :
    ∃ settings, ofLayers
        [Json.member "report_format" (.ofString "COUNT"), Json.member "fail_above" (.real .nan)] (some "a.json")
        [[Json.member "fail_above" (.integer 5)],
          [Json.member "fail_above" .null, Json.member "json_output" (.boolean true)]] = .ok settings
      ∧ settings = ⟨.count, true, some (.finite false 5629499534213120 (-50)), true⟩
      ∧ (∀ limit, settings.failAbove = some limit → (Amount.whole 0).AtMost (.real limit))
      ∧ Restored settings := by
  have accepted : ofLayers
      [Json.member "report_format" (.ofString "COUNT"), Json.member "fail_above" (.real .nan)] (some "a.json")
      [[Json.member "fail_above" (.integer 5)],
        [Json.member "fail_above" .null, Json.member "json_output" (.boolean true)]]
      = .ok ⟨.count, true, some (.finite false 5629499534213120 (-50)), true⟩ :=
    toOption_eq_some_iff.mp (by decide +kernel)
  obtain ⟨_, limits, _, _, restored⟩ := ofLayers_usable accepted
  refine ⟨_, accepted, rfl, fun limit known => ?_, restored⟩
  rcases limits limit known with atMost | rfl
  · exact atMost
  · cases known

/-- A limit that is no number is accepted, and a unit that is unsafe altogether is let through. -/
theorem ofLayers_nan :
    ∃ members settings, Json.read none "\x7b\"fail_above\": NaN\x7d".toList = .ok (.object members)
      ∧ ofLayers members (some "test.json") [] = .ok settings
      ∧ ¬ (∀ limit, settings.failAbove = some limit → (Amount.whole 0).AtMost (.real limit))
      ∧ (exceeds ⟨[.between ⟨"a.rs", 1, 0, le_rfl⟩ ⟨"a.rs", 1, 9, le_rfl⟩], some 1⟩
        (settings.failAbove.map .real)).result = .ok false := by
  have accepted : ofLayers [Json.member "fail_above" (.real .nan)] (some "test.json") []
      = .ok { failAbove := some .nan } := toOption_eq_some_iff.mp (by decide +kernel)
  refine ⟨_, _, rfl, accepted, fun usable => not_atMost_nan (usable .nan rfl), ?_⟩
  exact toOption_eq_some_iff.mp (by decide +kernel)

end UnsafeCensus.Settings
