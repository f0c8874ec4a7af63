import Relocation.Log

/-!
# Tasks

A `Task` is a computation that carries a state, leaves log records and may fail. State and records
outlive a failure, so whoever handles the failure sees all that was done before it.
-/

namespace Relocation

/-- What a task leaves behind besides its result. -/
structure Journal (σ : Type) where
  /-- the state reached -/
  state : σ
  /-- the records written so far, the oldest first -/
  records : List Record

/-- A computation over a state `σ` that logs and may fail with an `ε`. -/
abbrev Task (σ ε : Type) := ExceptT ε (StateM (Journal σ))

namespace Task

variable {σ ε : Type}

/-- Write a record. -/
def log (r : Record) : Task σ ε Unit :=
  modify fun j => { j with records := j.records ++ [r] }

/-- Write several records. -/
def logAll (rs : List Record) : Task σ ε Unit :=
  modify fun j => { j with records := j.records ++ rs }

/-- The current state. -/
def current : Task σ ε σ :=
  return (← get).state

/-- Change the state. -/
def update (f : σ → σ) : Task σ ε Unit :=
  modify fun j => { j with state := f j.state }

/-- Run a task and handle its failure by another one, which may fail in its own way. -/
def rescue {ε' α : Type} (t : Task σ ε α) (handle : ε → Task σ ε' α) : Task σ ε' α :=
  ExceptT.mk do
    match ← t.run with
    | .ok a => pure (.ok a)
    | .error e => (handle e).run

/-- Run a task from a state and an empty log. -/
def start {α : Type} (t : Task σ ε α) (s : σ) : Except ε α × Journal σ :=
  t.run.run ⟨s, []⟩

end Task

end Relocation
