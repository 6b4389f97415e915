set_option autoImplicit false

/-!
Steps that may fail.

A computation in steps succeeds with the last of them, and fails with the first one that fails. Said
as equivalences, this takes a computation apart from the outside, one step at a time, without
a look at how the steps are put together.
-/

namespace ScriptLint

variable {ε ε' α β : Type}

/-- Two steps succeed when the first one does and the second one does with its result. -/
theorem bind_eq_ok_iff {x : Except ε α} {next : α → Except ε β} {b : β} :
    x.bind next = .ok b ↔ ∃ a, x = .ok a ∧ next a = .ok b := by
  cases x <;> simp [Except.bind]

/-- Two steps fail where the first of them that fails does. -/
theorem bind_eq_error_iff {x : Except ε α} {next : α → Except ε β} {e : ε} :
    x.bind next = .error e ↔ x = .error e ∨ ∃ a, x = .ok a ∧ next a = .error e := by
  cases x <;> simp [Except.bind]

/-- A result that is changed afterwards comes from a result. -/
theorem map_eq_ok_iff {x : Except ε α} {f : α → β} {b : β} :
    x.map f = .ok b ↔ ∃ a, x = .ok a ∧ f a = b := by
  cases x <;> simp [Except.map]

/-! ## Errors under another name -/

theorem mapError_ok (a : α) (wrap : ε → ε') : (Except.ok a).mapError wrap = .ok a := rfl

theorem mapError_error (e : ε) (wrap : ε → ε') :
    (Except.error e : Except ε α).mapError wrap = .error (wrap e) := rfl

/-- Wrapping failures leaves success as it is. -/
theorem mapError_eq_ok_iff {x : Except ε α} {wrap : ε → ε'} {a : α} :
    x.mapError wrap = .ok a ↔ x = .ok a := by
  cases x <;> simp [mapError_ok, mapError_error]

/-- A wrapped failure comes from a failure. -/
theorem mapError_eq_error_iff {x : Except ε α} {wrap : ε → ε'} {e' : ε'} :
    x.mapError wrap = .error e' ↔ ∃ e, x = .error e ∧ wrap e = e' := by
  cases x <;> simp [mapError_ok, mapError_error]

end ScriptLint
