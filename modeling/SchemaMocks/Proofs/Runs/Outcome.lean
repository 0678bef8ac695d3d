set_option autoImplicit false
set_option relaxedAutoImplicit false

/-!
Runs that may fail and change a state on the way. What a run of steps in a row ends with follows from
what the steps end with.
-/

namespace SchemaMocks

variable {ε σ α β : Type}

theorem bind_eq_ok_iff {result : Except ε α} {next : α → Except ε β} {b : β} :
    result >>= next = .ok b ↔ ∃ a, result = .ok a ∧ next a = .ok b := by
  cases result <;> simp [bind, Except.bind]

theorem bind_run (act : ExceptT ε (StateM σ) α) (next : α → ExceptT ε (StateM σ) β) (s : σ) :
    (act >>= next).run s =
      match act.run s with
      | (.ok a, t) => (next a).run t
      | (.error e, t) => (.error e, t) := by
  change (ExceptT.bind act next) s = _
  simp only [ExceptT.bind, ExceptT.mk, ExceptT.run]
  change (StateT.bind act (ExceptT.bindCont next)) s = _
  simp only [StateT.bind]
  change (match act s with | (r, t) => ExceptT.bindCont next r t) = _
  rcases act s with ⟨_ | a, t⟩ <;> rfl

theorem tryCatch_run (act : ExceptT ε (StateM σ) α) (handler : ε → ExceptT ε (StateM σ) α) (s : σ) :
    (tryCatch act handler).run s =
      match act.run s with
      | (.ok a, t) => (.ok a, t)
      | (.error e, t) => (handler e).run t := by
  change (ExceptT.tryCatch act handler) s = _
  simp only [ExceptT.tryCatch, ExceptT.mk]
  change (StateT.bind act _) s = _
  simp only [StateT.bind]
  change (match act s with | (r, t) => _) = match act s with | (.ok a, t) => _ | (.error e, t) => _
  rcases act s with ⟨_ | a, t⟩ <;> rfl

theorem liftM_run (act : StateM σ α) (s : σ) :
    (liftM act : ExceptT ε (StateM σ) α).run s = (.ok (act s).1, (act s).2) := rfl

variable {act : ExceptT ε (StateM σ) α} {next : α → ExceptT ε (StateM σ) β} {s u : σ}

theorem bind_run_of_ok {a : α} (h : act.run s = (.ok a, u)) :
    (act >>= next).run s = (next a).run u := by
  rw [bind_run, h]

theorem of_bind_run_ok {b : β} (h : (act >>= next).run s = (.ok b, u)) :
    ∃ a t, act.run s = (.ok a, t) ∧ (next a).run t = (.ok b, u) := by
  rw [bind_run] at h
  cases hact : act.run s with
  | mk result t =>
    rw [hact] at h
    cases result with
    | error e => cases h
    | ok a => exact ⟨a, t, rfl, h⟩

theorem of_bind_run_error {e : ε} (h : (act >>= next).run s = (.error e, u)) :
    act.run s = (.error e, u) ∨ ∃ a t, act.run s = (.ok a, t) ∧ (next a).run t = (.error e, u) := by
  rw [bind_run] at h
  cases hact : act.run s with
  | mk result t =>
    rw [hact] at h
    cases result with
    | error f =>
      cases h
      exact .inl rfl
    | ok a => exact .inr ⟨a, t, rfl, h⟩

end SchemaMocks
