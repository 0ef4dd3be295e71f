import GraphQuery.Error

/-! # Steps with effects

An `Exec σ` is a step on a state `σ` that may fail; what it changed before failing stays.

* `Exec.ofResult` embeds a step without effect.
* `Exec.ensuring` runs a clean-up whether a step fails or not.
* A `Focus` picks a part out of a state, and `Exec.within` runs a step on that part. -/

namespace GraphQuery

/-- A step on a state that may fail. The state survives a failure. -/
abbrev Exec (σ α : Type) := ExceptT Error (StateM σ) α

namespace Exec

variable {σ τ α β : Type}

/-- The outcome and the state afterwards. -/
def outcome (step : Exec σ α) (s : σ) : Result α × σ := StateT.run (ExceptT.run step) s

/-- The step with the given outcome. -/
def ofOutcome (f : σ → Result α × σ) : Exec σ α := ExceptT.mk (fun s => f s)

/-- A step without effect. -/
def ofResult (r : Result α) : Exec σ α := ofOutcome fun s => (r, s)

/-- Stops with an error. -/
def fail (e : Error) : Exec σ α := ofResult (.error e)

/-- Runs a step and gives its outcome as a value, so that what follows runs in any case. -/
def attempt (step : Exec σ α) : Exec σ (Result α) := ofOutcome fun s =>
  let (r, s') := step.outcome s
  (.ok r, s')

/-- Runs a clean-up after a step. Its own failure wins over the outcome of the step. -/
def ensuring (step : Exec σ α) (cleanUp : Exec σ Unit) : Exec σ α := do
  let r ← step.attempt
  cleanUp
  ofResult r

/-- Runs a step several times, each time to its end. The first failure is the outcome of all. -/
def repeated (step : Exec σ α) : Nat → Exec σ (List α)
  | 0 => pure []
  | n + 1 => do
    let r ← step.attempt
    let rest ← (repeated step n).attempt
    let a ← ofResult r
    return a :: (← ofResult rest)

@[simp] theorem outcome_ofOutcome (f : σ → Result α × σ) (s : σ) : (ofOutcome f).outcome s = f s :=
  rfl

@[simp] theorem outcome_ofResult (r : Result α) (s : σ) : (ofResult r).outcome s = (r, s) := rfl

@[simp] theorem outcome_pure (a : α) (s : σ) : (pure a : Exec σ α).outcome s = (.ok a, s) := rfl

theorem outcome_bind (x : Exec σ α) (f : α → Exec σ β) (s : σ) :
    (x >>= f).outcome s = match x.outcome s with
      | (.ok a, s') => (f a).outcome s'
      | (.error e, s') => (.error e, s') := by
  show StateT.run (ExceptT.run (x >>= f)) s = _
  unfold outcome
  rw [ExceptT.run_bind]
  simp only [StateT.run_bind]
  cases h : StateT.run (ExceptT.run x) s with
  | mk r s' =>
    cases r with
    | ok a => simp [bind, StateT.run]
    | error e =>
      simp only [bind, StateT.run]
      rfl

@[simp] theorem outcome_attempt (x : Exec σ α) (s : σ) :
    x.attempt.outcome s = (.ok (x.outcome s).1, (x.outcome s).2) := rfl

/-- A clean-up that succeeds leaves the outcome of the step. -/
theorem outcome_ensuring (x : Exec σ α) (cleanUp : Exec σ Unit) (s : σ) :
    (x.ensuring cleanUp).outcome s = match cleanUp.outcome (x.outcome s).2 with
      | (.ok _, s') => ((x.outcome s).1, s')
      | (.error e, s') => (.error e, s') := by
  unfold ensuring
  rw [outcome_bind, outcome_attempt]
  simp only [outcome_bind]
  cases h : cleanUp.outcome (x.outcome s).2 with
  | mk r s' => cases r <;> rfl

end Exec

/-- A part of a state that can be read and replaced. -/
structure Focus (σ τ : Type) where
  get : σ → τ
  put : τ → σ → σ

/-- The whole state as a part of itself. -/
def Focus.whole {σ : Type} : Focus σ σ := ⟨id, fun s _ => s⟩

/-- A part of a part. -/
def Focus.comp {σ τ υ : Type} (outer : Focus σ τ) (inner : Focus τ υ) : Focus σ υ :=
  ⟨fun s => inner.get (outer.get s), fun u s => outer.put (inner.put u (outer.get s)) s⟩

/-- Runs a step on a part of a state. -/
def Exec.within {σ τ α : Type} (focus : Focus σ τ) (step : Exec τ α) : Exec σ α :=
  Exec.ofOutcome fun s =>
    let (r, t) := step.outcome (focus.get s)
    (r, focus.put t s)

end GraphQuery
