import AuditTrail.Fault

/-!
# Results and faults

A chain of steps has a result exactly when each step has one.
-/

namespace AuditTrail

variable {ε α β : Type}

/-- The results of the steps of a chain that has a result. -/
theorem ok_of_bind {first : Except ε α} {next : α → Except ε β} {result : β}
    (done : first >>= next = .ok result) :
    ∃ value, first = .ok value ∧ next value = .ok result := by
  cases first with
  | error fault => cases done
  | ok value => exact ⟨value, rfl, done⟩

/-- A chain fails in its first step, or in the next one. -/
theorem error_of_bind {first : Except ε α} {next : α → Except ε β} {trouble : ε}
    (failed : first >>= next = .error trouble) :
    first = .error trouble ∨ ∃ value, first = .ok value ∧ next value = .error trouble := by
  cases first with
  | error other => exact .inl (congrArg _ (Except.error.inj failed))
  | ok value => exact .inr ⟨value, rfl, failed⟩

/-- The steps of a chain may be taken one after the other. -/
theorem bind_of_ok {first : Except ε α} {next : α → Except ε β} {value : α}
    {result : Except ε β} (done : first = .ok value) (rest : next value = result) :
    first >>= next = result := by
  rw [done, ← rest]
  rfl

/-- What can be had of a result is the result. -/
theorem ok_of_toOption {result : Except ε α} {value : α} (had : result.toOption = some value) :
    result = .ok value := by
  cases result with
  | error trouble => cases had
  | ok found => exact congrArg _ (Option.some.inj had)

end AuditTrail
