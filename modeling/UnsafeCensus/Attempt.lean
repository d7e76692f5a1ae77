/-
**Attempts.**

An attempt gives the warnings it met on its way, in order, and a result or the failure that ended it. The
warnings before a failure stay.

* `Warning`: what is worth telling though it ends nothing;
* `Attempt`: warnings and a result or a failure;
* `Attempt.warn`, `Attempt.fail`: the two effects;
* `run_bind`: the warnings of a sequence are those of its parts.
-/

import UnsafeCensus.Failure

namespace UnsafeCensus

/-- What is worth telling though it ends nothing. -/
inductive Warning where
  /-- A percentage was asked for and there is no total to take it of. -/
  | noTotalForReport
  /-- A limit was set and there is no total to measure against. -/
  | noTotalForGate
  /-- A source of settings names some that do not exist. -/
  | unknownSettings (source : Option String) (names : List String)
  deriving DecidableEq, Repr

/-- The words of a warning. -/
def Warning.message : Warning → String
  | noTotalForReport =>
    "Percentage report requested but no total line count is available; "
      ++ "reporting the unsafe line count only"
  | noTotalForGate => "No total line count available; --fail-above check skipped"
  | unknownSettings source names =>
    "Ignoring unknown configuration keys in " ++ source.getD "None" ++ ": "
      ++ ", ".intercalate names

/-- The warnings met on the way, and a result or the failure that ended it. -/
structure Attempt (α : Type) where
  warnings : List Warning
  result : Except Failure α

namespace Attempt

variable {α β : Type}

/-- A result without warnings. -/
def ofExcept (result : Except Failure α) : Attempt α :=
  ⟨[], result⟩

/-- One attempt after another, which sees the result of the first. -/
def andThen (first : Attempt α) (second : α → Attempt β) : Attempt β :=
  match first.result with
  | .ok value => ⟨first.warnings ++ (second value).warnings, (second value).result⟩
  | .error failure => ⟨first.warnings, .error failure⟩

instance : Monad Attempt where
  pure value := ⟨[], .ok value⟩
  bind := andThen

instance : MonadLift (Except Failure) Attempt where
  monadLift := ofExcept

/-- A warning. -/
def warn (warning : Warning) : Attempt Unit :=
  ⟨[warning], .ok ()⟩

/-- The end by a failure. -/
def fail (failure : Failure) : Attempt α :=
  ⟨[], .error failure⟩

/-- After a result come the warnings and the result of what follows. -/
theorem run_bind {first : Attempt α} {value : α} (second : α → Attempt β)
    (done : first.result = .ok value) :
    first >>= second
      = ⟨first.warnings ++ (second value).warnings, (second value).result⟩ := by
  simp [bind, andThen, done]

/-- After a failure nothing follows. -/
theorem run_bind_error {first : Attempt α} {failure : Failure} (second : α → Attempt β)
    (failed : first.result = .error failure) :
    first >>= second = ⟨first.warnings, .error failure⟩ := by
  simp [bind, andThen, failed]

end Attempt

end UnsafeCensus
