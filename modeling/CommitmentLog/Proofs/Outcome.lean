import CommitmentLog.Failure

/-!
# Steps that may fail

A result that comes of several steps comes of a result of each of them.
-/

set_option autoImplicit false

namespace CommitmentLog

variable {ε δ α β : Type}

theorem bind_ok {first : Except ε α} {next : α → Except ε β} {result : β}
    (ok : (first >>= next) = .ok result) : ∃ value, first = .ok value ∧ next value = .ok result := by
  cases first with
  | error failure => cases ok
  | ok value => exact ⟨value, rfl, ok⟩

theorem mapError_ok {translate : ε → δ} {step : Except ε α} {result : α}
    (ok : step.mapError translate = .ok result) : step = .ok result := by
  cases step with
  | error failure => cases ok
  | ok value => exact congrArg Except.ok (Except.ok.inj ok)

end CommitmentLog
