/-
**Sequences of attempts.**

* `bind_eq_ok_iff`, `map_eq_ok_iff`, `mapError_eq_ok_iff`: when a sequence and a change succeed;
* `Attempt.result_bind`: the result of a sequence that may warn;
* `Changes`: an attempt that comes to the changed value of another, or fails when it does; it is closed
  under sequences and traversals.
-/

import Mathlib
import UnsafeCensus.Attempt

namespace UnsafeCensus

/-! ### Sequences -/

/-- A sequence succeeds exactly when its parts do. -/
theorem bind_eq_ok_iff {ε α β : Type} {first : Except ε α} {second : α → Except ε β} {result : β} :
    first >>= second = .ok result ↔ ∃ middle, first = .ok middle ∧ second middle = .ok result := by
  cases first with
  | ok middle => simp [bind, Except.bind]
  | error failure => simp [bind, Except.bind]

theorem map_eq_ok_iff {ε α β : Type} {change : α → β} {attempt : Except ε α} {result : β} :
    attempt.map change = .ok result ↔ ∃ value, attempt = .ok value ∧ change value = result := by
  cases attempt <;> simp [Except.map]

theorem mapError_eq_ok_iff {ε ε' α : Type} {change : ε → ε'} {attempt : Except ε α} {value : α} :
    attempt.mapError change = .ok value ↔ attempt = .ok value := by
  cases attempt <;> simp [Except.mapError]

theorem mapError_bind {ε ε' α β : Type} (change : ε → ε') (first : Except ε α)
    (second : α → Except ε β) :
    (first >>= second).mapError change
      = first.mapError change >>= fun value => (second value).mapError change := by
  cases first <;> rfl

theorem toOption_eq_some_iff {ε α : Type} {attempt : Except ε α} {value : α} :
    attempt.toOption = some value ↔ attempt = .ok value := by
  cases attempt <;> simp [Except.toOption]

namespace Attempt

variable {α β : Type}

/-- The result of a sequence, whose warnings decide nothing. -/
theorem result_bind (first : Attempt α) (second : α → Attempt β) :
    (first >>= second).result = first.result >>= fun value => (second value).result := by
  cases found : first.result with
  | ok value =>
    rw [run_bind second found]
    rfl
  | error failure =>
    rw [run_bind_error second found]
    rfl

end Attempt

/-! ### Attempts that differ by a change -/

/-- The second attempt comes to the changed value of the first, or both fail. -/
def Changes {α β : Type} (change : α → β) (first : Except Failure α) (second : Except Failure β) :
    Prop :=
  second.toOption = first.toOption.map change

namespace Changes

variable {α β γ δ : Type} {change : α → β} {change' : γ → δ}

theorem bind {first : Except Failure α} {second : Except Failure β} {onward : α → Except Failure γ}
    {onward' : β → Except Failure δ} (start : Changes change first second)
    (next : ∀ value, Changes change' (onward value) (onward' (change value))) :
    Changes change' (first >>= onward) (second >>= onward') := by
  cases first with
  | error failure =>
    cases second with
    | error failure' => rfl
    | ok value => cases start
  | ok value =>
    cases second with
    | error failure => cases start
    | ok value' =>
      cases start
      exact next value

theorem mapM {items : List γ} {visit : γ → Except Failure α} {visit' : γ → Except Failure β}
    (each : ∀ item, Changes change (visit item) (visit' item)) :
    Changes (List.map change) (items.mapM visit) (items.mapM visit') := by
  induction items with
  | nil => rfl
  | cons item rest hypothesis =>
    rw [List.mapM_cons, List.mapM_cons]
    exact (each item).bind fun value => hypothesis.bind fun _ => rfl

end Changes

end UnsafeCensus
