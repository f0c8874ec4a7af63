import Relocation.Task

/-!
# Runs of tasks

A task that starts from a journal has an outcome and leaves a journal. `Task.outcome` and
`Task.left` are these two, and what they are for a task in several steps is told step by step:

* `outcome_bind_eq_ok_iff` — all steps have to go well,
* `outcome_bind_eq_error_iff` — the first step that fails decides,
* `outcome_rescue_eq_ok_iff`, `outcome_rescue_eq_error_iff` — a failure may be handled,
* `Keeps`, `Observes` — what a task leaves alone, always or when it goes well.
-/

namespace Relocation.Task

variable {σ ε ε' α β : Type}

/-- What comes of a task that starts from a journal. -/
def outcome (t : Task σ ε α) (j : Journal σ) : Except ε α :=
  (t.run.run j).1

/-- The journal that a task leaves. -/
def left (t : Task σ ε α) (j : Journal σ) : Journal σ :=
  (t.run.run j).2

/-- What comes of a task and what it leaves is all there is to it. -/
theorem ext_of_outcome_of_left {t t' : Task σ ε α} (houtcome : ∀ j, outcome t j = outcome t' j)
    (hleft : ∀ j, left t j = left t' j) : t = t' :=
  funext fun j => Prod.ext (houtcome j) (hleft j)

variable {t : Task σ ε α} {f : α → Task σ ε β} {j : Journal σ} {a : α} {b : β} {e : ε}

/-! ## Single steps -/

@[simp] theorem outcome_pure (a : α) (j : Journal σ) :
    outcome (pure a : Task σ ε α) j = .ok a := rfl

@[simp] theorem left_pure (a : α) (j : Journal σ) : left (pure a : Task σ ε α) j = j := rfl

@[simp] theorem outcome_throw (e : ε) (j : Journal σ) :
    outcome (throw e : Task σ ε α) j = .error e := rfl

@[simp] theorem left_throw (e : ε) (j : Journal σ) : left (throw e : Task σ ε α) j = j := rfl

@[simp] theorem outcome_current (j : Journal σ) :
    outcome (current : Task σ ε σ) j = .ok j.state := rfl

@[simp] theorem left_current (j : Journal σ) : left (current : Task σ ε σ) j = j := rfl

@[simp] theorem outcome_log (r : Record) (j : Journal σ) :
    outcome (log r : Task σ ε Unit) j = .ok () := rfl

@[simp] theorem outcome_logAll (rs : List Record) (j : Journal σ) :
    outcome (logAll rs : Task σ ε Unit) j = .ok () := rfl

/-! ## One step after another -/

theorem run_bind (t : Task σ ε α) (f : α → Task σ ε β) (j : Journal σ) :
    (t >>= f).run.run j =
      match t.run.run j with
      | (.ok a, j') => (f a).run.run j'
      | (.error e, j') => (.error e, j') := by
  change (match t.run.run j with
    | (r, j') => (ExceptT.bindCont f r).run j') = _
  rcases t.run.run j with ⟨r, j'⟩
  cases r with
  | ok a => rfl
  | error e => rfl

theorem outcome_bind (t : Task σ ε α) (f : α → Task σ ε β) (j : Journal σ) :
    outcome (t >>= f) j =
      match outcome t j with
      | .ok a => outcome (f a) (left t j)
      | .error e => .error e := by
  unfold outcome left
  rw [run_bind]
  rcases t.run.run j with ⟨r, j'⟩
  cases r with
  | ok a => rfl
  | error e => rfl

/-- A failure ends all that was to come. -/
theorem run_bind_of_error (h : outcome t j = .error e) :
    (t >>= f).run.run j = (.error e, left t j) := by
  unfold outcome at h
  rw [run_bind]
  unfold left
  rcases hrun : t.run.run j with ⟨r, j'⟩
  rw [hrun] at h
  obtain rfl : r = .error e := h
  rfl

theorem left_bind (t : Task σ ε α) (f : α → Task σ ε β) (j : Journal σ) :
    left (t >>= f) j =
      match outcome t j with
      | .ok a => left (f a) (left t j)
      | .error _ => left t j := by
  unfold outcome left
  rw [run_bind]
  rcases t.run.run j with ⟨r, j'⟩
  cases r with
  | ok a => rfl
  | error e => rfl

/-- Inversion for a success: every step goes well. -/
theorem outcome_bind_eq_ok_iff : outcome (t >>= f) j = .ok b ↔
    ∃ a, outcome t j = .ok a ∧ outcome (f a) (left t j) = .ok b := by
  rw [outcome_bind]
  cases outcome t j with
  | ok a => simp
  | error e => simp

/-- Inversion for a failure: some step is the first to fail. -/
theorem outcome_bind_eq_error_iff : outcome (t >>= f) j = .error e ↔
    outcome t j = .error e ∨ ∃ a, outcome t j = .ok a ∧ outcome (f a) (left t j) = .error e := by
  rw [outcome_bind]
  cases outcome t j with
  | ok a => simp
  | error e => simp

/-! ## Failures that are handled -/

section Rescue

variable {handle : ε → Task σ ε' α} {e' : ε'}

theorem outcome_rescue (t : Task σ ε α) (handle : ε → Task σ ε' α) (j : Journal σ) :
    outcome (t.rescue handle) j =
      match outcome t j with
      | .ok a => .ok a
      | .error e => outcome (handle e) (left t j) := by
  change (match t.run.run j with
    | (r, j') => (match r with
      | .ok a => (pure (.ok a) : StateM (Journal σ) (Except ε' α))
      | .error e => (handle e).run).run j').1 = _
  unfold outcome left
  rcases t.run.run j with ⟨r, j'⟩
  cases r with
  | ok a => rfl
  | error e => rfl

theorem left_rescue (t : Task σ ε α) (handle : ε → Task σ ε' α) (j : Journal σ) :
    left (t.rescue handle) j =
      match outcome t j with
      | .ok _ => left t j
      | .error e => left (handle e) (left t j) := by
  change (match t.run.run j with
    | (r, j') => (match r with
      | .ok a => (pure (.ok a) : StateM (Journal σ) (Except ε' α))
      | .error e => (handle e).run).run j').2 = _
  unfold outcome left
  rcases t.run.run j with ⟨r, j'⟩
  cases r with
  | ok a => rfl
  | error e => rfl

theorem outcome_rescue_eq_ok_iff : outcome (t.rescue handle) j = .ok a ↔
    outcome t j = .ok a ∨ ∃ e, outcome t j = .error e ∧ outcome (handle e) (left t j) = .ok a := by
  rw [outcome_rescue]
  cases outcome t j with
  | ok a => simp
  | error e => simp

theorem outcome_rescue_eq_error_iff : outcome (t.rescue handle) j = .error e' ↔
    ∃ e, outcome t j = .error e ∧ outcome (handle e) (left t j) = .error e' := by
  rw [outcome_rescue]
  cases outcome t j with
  | ok a => simp
  | error e => simp

/-- Handling the failures of two steps is handling those of each, if a handler never goes on. -/
theorem rescue_bind {handle : ε → Task σ ε' α} {handle' : ε → Task σ ε' β}
    (hends : ∀ e, (handle e >>= fun a => (f a).rescue handle') = handle' e) :
    (t >>= f).rescue handle' = t.rescue handle >>= fun a => (f a).rescue handle' := by
  refine ext_of_outcome_of_left (fun j => ?_) fun j => ?_
  · rw [outcome_rescue, outcome_bind t, left_bind t, outcome_bind (t.rescue handle),
      outcome_rescue t, left_rescue t]
    cases outcome t j with
    | ok a => exact (outcome_rescue (f a) handle' (left t j)).symm
    | error e =>
      have hend := congrArg (outcome · (left t j)) (hends e)
      exact hend.symm.trans (outcome_bind (handle e) _ (left t j))
  · rw [left_rescue, outcome_bind t, left_bind t, left_bind (t.rescue handle), outcome_rescue t,
      left_rescue t]
    cases outcome t j with
    | ok a => exact (left_rescue (f a) handle' (left t j)).symm
    | error e =>
      have hend := congrArg (left · (left t j)) (hends e)
      exact hend.symm.trans (left_bind (handle e) _ (left t j))

end Rescue

/-! ## What a task leaves alone -/

/-- A task leaves a part of the state as it is, whatever comes of it. -/
def Keeps {τ : Type} (view : σ → τ) (t : Task σ ε α) : Prop :=
  ∀ j, view (left t j).state = view j.state

section Keeps

variable {τ : Type} {view : σ → τ}

theorem keeps_pure (a : α) : Keeps view (pure a : Task σ ε α) :=
  fun _ => rfl

theorem keeps_throw (e : ε) : Keeps view (throw e : Task σ ε α) :=
  fun _ => rfl

theorem keeps_current : Keeps view (current : Task σ ε σ) :=
  fun _ => rfl

theorem keeps_log (r : Record) : Keeps view (log r : Task σ ε Unit) :=
  fun _ => rfl

theorem keeps_logAll (rs : List Record) : Keeps view (logAll rs : Task σ ε Unit) :=
  fun _ => rfl

theorem keeps_update {g : σ → σ} (h : ∀ s, view (g s) = view s) :
    Keeps view (update g : Task σ ε Unit) :=
  fun j => h j.state

theorem Keeps.bind (ht : Keeps view t) (hf : ∀ a, Keeps view (f a)) : Keeps view (t >>= f) := by
  intro j
  rw [left_bind]
  cases outcome t j with
  | ok a => exact (hf a _).trans (ht j)
  | error e => exact ht j

end Keeps

/-! ## Tasks that only look -/

/-- A task that goes well leaves the state as it was. -/
def Observes (t : Task σ ε α) : Prop :=
  ∀ j a, outcome t j = .ok a → (left t j).state = j.state

theorem observes_pure (a : α) : Observes (pure a : Task σ ε α) :=
  fun _ _ _ => rfl

theorem observes_throw (e : ε) : Observes (throw e : Task σ ε α) :=
  fun _ _ _ => rfl

theorem observes_current : Observes (current : Task σ ε σ) :=
  fun _ _ _ => rfl

theorem observes_log (r : Record) : Observes (log r : Task σ ε Unit) :=
  fun _ _ _ => rfl

theorem observes_logAll (rs : List Record) : Observes (logAll rs : Task σ ε Unit) :=
  fun _ _ _ => rfl

theorem Observes.bind (ht : Observes t) (hf : ∀ a, Observes (f a)) : Observes (t >>= f) := by
  intro j b hb
  obtain ⟨a, ha, hb⟩ := outcome_bind_eq_ok_iff.mp hb
  rw [left_bind, ha]
  exact (hf a _ b hb).trans (ht j a ha)

/-- If no failure is made good, handling failures does not matter. -/
theorem Observes.rescue {handle : ε → Task σ ε' α} (ht : Observes t)
    (hhandle : ∀ e j a, outcome (handle e) j ≠ .ok a) : Observes (t.rescue handle) := by
  intro j a ha
  obtain ha | ⟨e, -, ha⟩ := outcome_rescue_eq_ok_iff.mp ha
  · rw [left_rescue, ha]
    exact ht j a ha
  · exact absurd ha (hhandle e _ a)

end Relocation.Task
