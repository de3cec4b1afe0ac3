import NetPlan.Fault

/-!
# Steps that may fail

A chain of steps succeeds if each of its steps does, and fails with the fault of the first one that
does not. With `bind_eq_ok_iff` and `bind_eq_error_iff` a chain is taken apart step by step, so that
the lemmas on a reader follow its own order of checks. Steps that also change a state are taken
apart in the same way, with the states between them (`run_bind_eq_ok_iff`).
-/

namespace NetPlan

variable {ε σ α β : Type}

/-- A chain succeeds if its first step does, and the second one on what the first has given. -/
theorem bind_eq_ok_iff {x : Except ε α} {f : α → Except ε β} {b : β} :
    x >>= f = .ok b ↔ ∃ a, x = .ok a ∧ f a = .ok b := by
  cases x with
  | error fault => simp [bind, Except.bind]
  | ok a => simp [bind, Except.bind]

/-- A chain fails at its first step, or at the second one behind a first one that succeeds. -/
theorem bind_eq_error_iff {x : Except ε α} {f : α → Except ε β} {fault : ε} :
    x >>= f = .error fault ↔ x = .error fault ∨ ∃ a, x = .ok a ∧ f a = .error fault := by
  cases x with
  | error fault' => simp [bind, Except.bind]
  | ok a => simp [bind, Except.bind]

theorem map_eq_ok_iff {x : Except ε α} {f : α → β} {b : β} :
    x.map f = .ok b ↔ ∃ a, x = .ok a ∧ f a = b := by
  cases x with
  | error fault => simp [Except.map]
  | ok a => simp [Except.map]

theorem pure_eq_ok_iff {a b : α} : (pure a : Except ε α) = .ok b ↔ b = a := by
  simp [pure, Except.pure, eq_comm]

/-- A step that does not fail succeeds. -/
theorem forall_ne_error_iff {x : Except ε α} : (∀ fault, x ≠ .error fault) ↔ ∃ a, x = .ok a := by
  cases x <;> simp

/-! ### Steps with a state -/

instance decidableEqResult [DecidableEq ε] [DecidableEq σ] [DecidableEq α] :
    DecidableEq (EStateM.Result ε σ α)
  | .ok a s, .ok b t => decidable_of_iff (a = b ∧ s = t) (by simp)
  | .error e s, .error f t => decidable_of_iff (e = f ∧ s = t) (by simp)
  | .ok _ _, .error _ _ | .error _ _, .ok _ _ => isFalse (by simp)

/-- A chain of steps with a state succeeds by way of a state between them. -/
theorem run_bind_eq_ok_iff {x : EStateM ε σ α} {f : α → EStateM ε σ β} {b : β} {s s'' : σ} :
    (x >>= f).run s = .ok b s'' ↔ ∃ a s', x.run s = .ok a s' ∧ (f a).run s' = .ok b s'' := by
  rw [EStateM.run_bind]
  cases x.run s with
  | error fault s' => simp
  | ok a s' =>
    constructor
    · intro h
      exact ⟨a, s', rfl, h⟩
    · rintro ⟨a', s₁, heq, h⟩
      cases heq
      exact h

/-- A chain of steps with a state fails at the first one, or at the second one in the state that the
first one has left. -/
theorem run_bind_eq_error_iff {x : EStateM ε σ α} {f : α → EStateM ε σ β} {fault : ε} {s s'' : σ} :
    (x >>= f).run s = .error fault s'' ↔
      x.run s = .error fault s'' ∨
        ∃ a s', x.run s = .ok a s' ∧ (f a).run s' = .error fault s'' := by
  rw [EStateM.run_bind]
  cases x.run s with
  | error fault' s' => simp
  | ok a s' =>
    constructor
    · intro h
      exact .inr ⟨a, s', rfl, h⟩
    · rintro (h | ⟨a', s₁, heq, h⟩)
      · cases h
      · cases heq
        exact h

theorem run_pure_eq_ok_iff {a b : α} {s s' : σ} :
    (pure a : EStateM ε σ α).run s = .ok b s' ↔ b = a ∧ s' = s := by
  change EStateM.Result.ok a s = .ok b s' ↔ _
  rw [EStateM.Result.ok.injEq, eq_comm, eq_comm (a := s)]

end NetPlan
