import RecordFilter.Error

set_option autoImplicit false

/-!
Updates of a state that may fail on the way. What an update wrote before it failed stays written,
so an update that fails leaves the state alone only if it checks before it writes.
-/

namespace RecordFilter

abbrev Update (σ : Type) : Type → Type := ExceptT FilterError (StateM σ)

namespace Update

variable {σ α β : Type}

/-- How the update ends from a state, and the state it leaves. -/
def runOn (update : Update σ α) (state : σ) : Except FilterError α × σ :=
  StateT.run (ExceptT.run update) state

/-- The state that the update leaves, whether it succeeds or fails. -/
def stateAfter (update : Update σ Unit) (state : σ) : σ := (update.runOn state).2

/-- The state that the update leaves if it succeeds. -/
def outcome (update : Update σ Unit) (state : σ) : Except FilterError σ :=
  (update.runOn state).1.map fun _ => update.stateAfter state

variable {state next : σ} {reason : FilterError}

@[simp] theorem runOn_get : runOn (get : Update σ σ) state = (.ok state, state) := rfl

@[simp] theorem runOn_modify (change : σ → σ) :
    runOn (modify change : Update σ Unit) state = (.ok (), change state) := rfl

@[simp] theorem runOn_throw :
    runOn (throw reason : Update σ α) state = (.error reason, state) := rfl

@[simp] theorem runOn_liftExcept (result : Except FilterError α) :
    runOn (liftExcept result : Update σ α) state = (result, state) := by
  cases result <;> rfl

@[simp] theorem runOn_pure (value : α) :
    runOn (pure value : Update σ α) state = (.ok value, state) := rfl

/-- A sequence goes on from the state that its first part leaves, unless that part fails. -/
@[simp] theorem runOn_bind (first : Update σ α) (rest : α → Update σ β) :
    runOn (first >>= rest) state =
      match first.runOn state with
      | (.ok value, middle) => (rest value).runOn middle
      | (.error reason, middle) => (.error reason, middle) := by
  cases ended : first.runOn state with
  | mk result middle =>
      unfold runOn at ended ⊢
      rw [ExceptT.run_bind, StateT.run_bind, ended]
      cases result <;> rfl

@[simp] theorem runOn_map (f : α → β) (update : Update σ α) :
    runOn (f <$> update) state = ((update.runOn state).1.map f, (update.runOn state).2) := by
  rw [← bind_pure_comp, runOn_bind]
  obtain ⟨result, next⟩ := update.runOn state
  cases result <;> rfl

theorem outcome_eq_ok_iff {update : Update σ Unit} :
    update.outcome state = .ok next ↔ update.runOn state = (.ok (), next) := by
  unfold outcome stateAfter
  obtain ⟨result, middle⟩ := update.runOn state
  cases result <;> simp [Except.map]

end Update

end RecordFilter
