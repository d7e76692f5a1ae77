/-
**Runs with a settings file that is refused.**

A run whose settings file is refused by a diagnostic tells it and ends with one, and a run whose settings file
ends by something else ends by that.

* `settings_of_readSettings`: the settings of a run fail when its settings file does;
* `status_run`: the numbers that a run can end with;
* `settings_settled`: what every settings file comes to, and a run with it;
* `settings_settled_negative`, `readSettings_spoilt`: a file that is refused by a diagnostic, and one that is
  not.
-/

import Mathlib
import UnsafeCensus.Proofs.Console.Outcome
import UnsafeCensus.Proofs.Settings.Refusal

namespace UnsafeCensus.Console

open Census Crate Settings

variable {parser : Parser} {host : Host} {inquiry : Inquiry} {path : Files.Path} {failure : Failure}
  {listsRows : Bool}

/-- The settings of a run fail when its settings file does. -/
theorem settings_of_readSettings (chosen : inquiry.Chooses host.tree (some path))
    (failed : (readSettings host.nesting host.tree path).result = .error failure) :
    (inquiry.settings host).result = .error failure := by
  unfold Inquiry.settings
  rw [Attempt.result_bind, result_load, choice_eq_ok_iff.mpr chosen]
  show ((readSettings host.nesting host.tree path).result >>= _) >>= _ = _
  rw [failed]
  rfl

theorem status_present {warnings : List Warning} {settings : Settings} {metrics : Metrics} :
    (present host warnings settings metrics listsRows).ending.status ∈ [0, 1, 3] := by
  rw [ending_present]
  unfold endingOf
  split <;> simp [Ending.status]

/-- A run that measures ends with nought, one or three. -/
theorem status_run (parser : Parser) (host : Host) (inquiry : Inquiry) (listsRows : Bool) :
    (inquiry.run parser host listsRows).ending.status ∈ [0, 1, 3] := by
  cases done : (inquiry.measure parser host).result with
  | error failure =>
    rw [(run_eq_error done).2]
    decide
  | ok found =>
    rw [run_eq_present done]
    exact status_present

theorem ending_failing {tree : Files.Tree} {warnings : List Warning}
    (other : ∀ diagnostic, failure ≠ .diagnosed diagnostic) :
    (Behaviour.failing tree warnings failure).ending = .failure failure := by
  cases failure with
  | diagnosed diagnostic => exact absurd rfl (other diagnostic)
  | _ => rfl

/-- **What a settings file comes to.** Settings are read from a file, or it is refused by a diagnostic of
settings, exactly when none of five cases holds, each of which ends by its own failure. None of them holds of a
text without long digits, without more brackets than may be nested, and without a great limit. Whatever the file
holds, a run with it ends with nought, one or three: it tells the diagnostic that the file is refused by, or else
it ends by the failure of its case. -/
theorem settings_settled (host : Host) (path : Files.Path) :
    (Settled (readSettings host.nesting host.tree path).result ↔
        ∀ failure, ¬ Escapes host.nesting host.tree path failure)
      ∧ (∀ failure, Escapes host.nesting host.tree path failure →
          (readSettings host.nesting host.tree path).result = .error failure)
      ∧ (∀ data letters, '\x00' ∉ path.text.toList → host.tree.read path.text = .ok data →
          characters data = .ok letters → (∀ count, ¬ Json.LongDigits letters count) →
          (∀ room, host.nesting = some room → Json.openings letters ≤ room + 1) →
          (∀ members value, Json.read host.nesting letters = .ok (.object members) →
            Json.get? members "fail_above" = some (.integer value) → value < Binary64.leastOverflow) →
          ∀ failure, ¬ Escapes host.nesting host.tree path failure)
      ∧ ∀ (parser : Parser) (inquiry : Inquiry) (listsRows : Bool), inquiry.Chooses host.tree (some path) →
          (inquiry.run parser host listsRows).ending.status ∈ [0, 1, 3]
            ∧ (∀ diagnostic,
                (readSettings host.nesting host.tree path).result = .error (.diagnosed diagnostic) →
                Tells host (inquiry.run parser host listsRows) diagnostic)
            ∧ ∀ failure, Escapes host.nesting host.tree path failure →
                (inquiry.run parser host listsRows).output = []
                  ∧ (inquiry.run parser host listsRows).ending = .failure failure := by
  refine ⟨settled_readSettings_iff, fun _ => result_of_escapes, fun data letters plain file decoded short
    flat small failure => not_escapes plain file decoded short flat small, ?_⟩
  intro parser inquiry listsRows chosen
  refine ⟨status_run parser host inquiry listsRows, fun diagnostic refused => ?_, fun failure escapes => ?_⟩
  · exact tells_of_failsBy (.settings (settings_of_readSettings chosen refused))
  · have failed := settings_of_readSettings chosen (result_of_escapes escapes)
    have measured : (inquiry.measure parser host).result = .error failure := measured_of_settings failed
    refine ⟨(run_eq_error measured).1, ?_⟩
    rw [run_eq_failing measured]
    exact ending_failing escapes.not_diagnosed

/-- A crate beside a settings file. -/
def settingsHost (data : ByteArray) : Host where
  tree := ⟨[(["w"], .directory), (["w", fileName], .file data),
    (["w", "a.rs"], .file "fn a() \x7b\x7d\n".toUTF8)], ["w"]⟩

/-- A settings file with a limit below zero. -/
def negativeText : String :=
  "\x7b\"fail_above\": -1\x7d"

/-- The file with a limit below zero is refused, and a run tells it. -/
theorem settings_settled_negative :
    let host := settingsHost negativeText.toUTF8
    ({ path := "a.rs" } : Inquiry).Chooses host.tree (some (settingsIn ["w"]))
      ∧ (∀ failure, ¬ Escapes host.nesting host.tree (settingsIn ["w"]) failure)
      ∧ ∃ diagnostic,
          (readSettings host.nesting host.tree (settingsIn ["w"])).result = .error (.diagnosed diagnostic)
          ∧ Tells host (Inquiry.run Grammar.parse host { path := "a.rs" } false) diagnostic := by
  intro host
  have chosen : ({ path := "a.rs" } : Inquiry).Chooses host.tree (some (settingsIn ["w"])) :=
    choice_eq_ok_iff.mp (toOption_eq_some_iff.mp (by decide +kernel))
  have document : readDocument host.nesting host.tree (settingsIn ["w"]).text
      = .ok (.object [Json.member "fail_above" (.integer (-1))]) := by
    have file : host.tree.read (settingsIn ["w"]).text
        = .ok (String.ofList negativeText.toList).toUTF8 := rfl
    have read : Json.read host.nesting negativeText.toList
        = .ok (.object [Json.member "fail_above" (.integer (-1))]) := rfl
    rw [readDocument_eq (by decide +kernel) file, characters_toUTF8, lineFeeds_eq_self (by decide +kernel)]
    show documentOf host.nesting (settingsIn ["w"]).text negativeText.toList = _
    exact documentOf_eq_ok_iff.mpr read
  have refused : (readSettings host.nesting host.tree (settingsIn ["w"])).result
      = .error (refused (some (settingsIn ["w"]).text) "fail_above must be non-negative") := by
    unfold readSettings
    rw [Attempt.result_bind]
    show (readDocument host.nesting host.tree (settingsIn ["w"]).text >>= _) = _
    rw [document]
    exact result_ofMembers.trans rfl
  obtain ⟨settled, _, _, runs⟩ := settings_settled host (settingsIn ["w"])
  refine ⟨chosen, settled.mp ?_, _, refused, (runs _ _ _ chosen).2.1 _ refused⟩
  rw [refused]
  exact .refused rfl

/-- A file of a byte that begins no character is not refused by a diagnostic, and no run tells one. -/
theorem readSettings_spoilt :
    let host := settingsHost ⟨#[0xFF]⟩
    ({ path := "a.rs" } : Inquiry).Chooses host.tree (some (settingsIn ["w"]))
      ∧ ¬ Settled (readSettings host.nesting host.tree (settingsIn ["w"])).result
      ∧ ∀ diagnostic, ¬ Tells host (Inquiry.run Grammar.parse host { path := "a.rs" } false) diagnostic := by
  intro host
  have chosen : ({ path := "a.rs" } : Inquiry).Chooses host.tree (some (settingsIn ["w"])) :=
    choice_eq_ok_iff.mp (toOption_eq_some_iff.mp (by decide +kernel))
  obtain ⟨fault, bytes⟩ : ∃ fault, Utf8.decode? (ByteArray.mk #[0xFF]).toList = .error fault := by
    rw [Utf8.toList_eq_toList_data]
    exact ⟨_, rfl⟩
  have escapes : Escapes host.nesting host.tree (settingsIn ["w"]) (.undecodable fault) :=
    .undecodable (by decide +kernel) rfl bytes
  have failed := settings_of_readSettings chosen (result_of_escapes escapes)
  refine ⟨chosen, fun settled => settled_readSettings_iff.mp settled _ escapes, fun diagnostic tells => ?_⟩
  have ending := tells.ending
  rw [run_eq_failing (measured_of_settings failed)] at ending
  cases ending

end UnsafeCensus.Console
