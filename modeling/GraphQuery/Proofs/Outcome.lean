import GraphQuery.Exec
import Mathlib.Data.List.Forall2

/-! # How steps end

`Exec.Ends step s good bad` says of a step from the state `s`: if it succeeds, its value and the
state afterwards are `good`, and if it fails, the state afterwards is `bad`. There is a rule for
each way of putting steps together, so what a step does follows from what its parts do.

`Exec.Maintains inv step` says that a step keeps what holds of a state, whether it fails or not; it has
the same rules.  `Exec.MaintainsWith inv good step` says besides that its value is `good`, if it has one.

`Exec.Fails step s bad` says with which error and in which state it fails, for steps that fail in more than
one way.

`Result.Agree` compares two steps without effect: they fail alike, or their values are related. -/

namespace GraphQuery

theorem Result.bind_eq_ok {α β : Type} {x : Result α} {f : α → Result β} {b : β}
    (h : (x >>= f) = .ok b) : ∃ a, x = .ok a ∧ f a = .ok b := by
  cases x with
  | error e => cases h
  | ok a => exact ⟨a, rfl, h⟩

theorem Result.map_eq_ok {α β : Type} {x : Result α} {f : α → β} {b : β} (h : x.map f = .ok b) :
    ∃ a, x = .ok a ∧ b = f a := by
  cases x with
  | error _ => cases h
  | ok a => exact ⟨a, rfl, (Except.ok.inj h).symm⟩

theorem Result.of_toOption {α : Type} {x : Result α} {a : α} (h : x.toOption = some a) :
    x = .ok a := by
  cases x with
  | error e => cases h
  | ok b => exact congrArg _ (Option.some.inj h)

theorem Checked.map_eq_ok {α β : Type} {x : Checked α} {f : α → β} {b : β}
    (h : x.map f = .ok b) : ∃ a, x = .ok a ∧ b = f a := by
  cases x with
  | error _ => cases h
  | ok a => exact ⟨a, rfl, (Except.ok.inj h).symm⟩

/-- What holds of the result for each member of a list holds of all results. -/
theorem Result.forall_of_mapM {α β : Type} {f : α → Result β} {good : β → Prop} :
    ∀ {as : List α} {bs : List β}, as.mapM f = .ok bs →
      (∀ a ∈ as, ∀ b, f a = .ok b → good b) → ∀ b ∈ bs, good b
  | [], _, h, _ => by
    cases h
    simp
  | a :: as, bs, h, each => by
    rw [List.mapM_cons] at h
    obtain ⟨b, first, h⟩ := Result.bind_eq_ok h
    obtain ⟨rest, others, h⟩ := Result.bind_eq_ok h
    cases h
    refine List.forall_mem_cons.mpr ⟨each a (List.mem_cons_self ..) b first, ?_⟩
    exact forall_of_mapM others fun x hx => each x (List.mem_cons_of_mem _ hx)

/-- The results for the members of a list, one for each in their order. -/
theorem Result.forall₂_of_mapM {α β : Type} {f : α → Result β} :
    ∀ {as : List α} {bs : List β}, as.mapM f = .ok bs → List.Forall₂ (fun a b => f a = .ok b) as bs
  | [], _, h => by
    cases h
    exact .nil
  | a :: as, bs, h => by
    rw [List.mapM_cons] at h
    obtain ⟨b, first, h⟩ := Result.bind_eq_ok h
    obtain ⟨rest, others, h⟩ := Result.bind_eq_ok h
    cases h
    exact .cons first (forall₂_of_mapM others)

theorem Checked.and_eq_ok {α β : Type} {x : Checked α} {y : Checked β} {p : α × β}
    (h : x.and y = .ok p) : x = .ok p.1 ∧ y = .ok p.2 := by
  cases x <;> cases y <;> cases h
  exact ⟨rfl, rfl⟩

theorem Checked.inside_eq_ok {α : Type} {step : String} {x : Checked α} {a : α}
    (h : Checked.inside step x = .ok a) : x = .ok a := by
  cases x with
  | ok b => exact h
  | error issues => cases h

theorem Result.ofChecked_eq_ok {α : Type} {x : Checked α} {a : α}
    (h : Result.ofChecked x = .ok a) : x = .ok a := by
  cases x with
  | ok b => exact congrArg _ (Except.ok.inj h)
  | error issues =>
      unfold Result.ofChecked at h
      dsimp only at h
      split at h <;> cases h

/-! ### Results that agree -/

namespace Result

variable {α β γ δ : Type}

/-- Both results are the same error, or both are values that are related. -/
def Agree (related : α → β → Prop) : Result α → Result β → Prop
  | .ok a, .ok b => related a b
  | .error e, .error f => e = f
  | _, _ => False

namespace Agree

variable {related : α → β → Prop} {related' : γ → δ → Prop}

theorem bind {x : Result α} {y : Result β} {f : α → Result γ} {g : β → Result δ}
    (h : Agree related x y) (next : ∀ a b, related a b → Agree related' (f a) (g b)) :
    Agree related' (x >>= f) (y >>= g) := by
  cases x <;> cases y
  · exact h
  · exact h.elim
  · exact h.elim
  · exact next _ _ h

theorem after (x : Result α) {f : α → Result γ} {g : α → Result δ}
    (next : ∀ a, x = .ok a → Agree related' (f a) (g a)) :
    Agree related' (x >>= f) (x >>= g) := by
  cases x with
  | error e => exact Eq.refl e
  | ok a => exact next a rfl

theorem refl {related : α → α → Prop} (h : ∀ a, related a a) : ∀ x, Agree related x x
  | .ok a => h a
  | .error _ => rfl

theorem imp {weaker : α → β → Prop} {x : Result α} {y : Result β} (h : Agree related x y)
    (weaken : ∀ a b, related a b → weaker a b) : Agree weaker x y := by
  cases x <;> cases y
  · exact h
  · exact h.elim
  · exact h.elim
  · exact weaken _ _ h

theorem error_iff {x : Result α} {y : Result β} (h : Agree related x y) (e : Error) :
    x = .error e ↔ y = .error e := by
  cases x <;> cases y
  · obtain rfl : _ = _ := h
    exact ⟨fun c => congrArg _ (Except.error.inj c), fun c => congrArg _ (Except.error.inj c)⟩
  · exact h.elim
  · exact h.elim
  · exact ⟨nofun, nofun⟩

theorem eq {x y : Result α} (h : Agree Eq x y) : x = y := by
  cases x <;> cases y
  · exact congrArg _ h
  · exact h.elim
  · exact h.elim
  · exact congrArg _ h

end Agree

end Result

namespace Exec

variable {σ τ α β : Type}

theorem outcome_bind_ok {x : Exec σ α} {s s' : σ} {a : α} (h : x.outcome s = (.ok a, s'))
    (f : α → Exec σ β) : (x >>= f).outcome s = (f a).outcome s' := by
  rw [outcome_bind, h]

theorem ofResult_bind_eq_ok {r : Result α} {f : α → Exec σ β} {s s' : σ} {b : β}
    (h : (Exec.ofResult r >>= f).outcome s = (.ok b, s')) :
    ∃ a, r = .ok a ∧ (f a).outcome s = (.ok b, s') := by
  cases r with
  | error e =>
    rw [outcome_bind, outcome_ofResult] at h
    cases h
  | ok a => exact ⟨a, rfl, h⟩

theorem outcome_within (focus : Focus σ τ) (step : Exec τ α) (s : σ) :
    (step.within focus).outcome s =
      ((step.outcome (focus.get s)).1, focus.put (step.outcome (focus.get s)).2 s) := rfl

/-- The result of two steps of which the first one changes nothing. -/
theorem result_bind {x : Exec σ α} {f : α → Exec σ β} {s : σ} {r : Result α}
    (h : x.outcome s = (r, s)) :
    ((x >>= f).outcome s).1 = (r >>= fun a => ((f a).outcome s).1) := by
  rw [outcome_bind, h]
  cases r <;> rfl

/-- Where a step ends: with a value and a state that are `good`, or with a state that is `bad`. -/
def Ends (step : Exec σ α) (s : σ) (good : α → σ → Prop) (bad : σ → Prop) : Prop :=
  (∀ a s', step.outcome s = (.ok a, s') → good a s') ∧
    ∀ e s', step.outcome s = (.error e, s') → bad s'

namespace Ends

theorem of_outcome {step : Exec σ α} {s s' : σ} {r : Result α} {good : α → σ → Prop}
    {bad : σ → Prop} (h : step.outcome s = (r, s')) (ok : ∀ a, r = .ok a → good a s')
    (error : ∀ e, r = .error e → bad s') : step.Ends s good bad := by
  refine ⟨fun a u e => ?_, fun f u e => ?_⟩
  · obtain ⟨er, rfl⟩ := Prod.mk.inj (h.symm.trans e)
    exact ok a er
  · obtain ⟨er, rfl⟩ := Prod.mk.inj (h.symm.trans e)
    exact error f er

/-- What a step ends with may be forgotten in part. -/
theorem imp {step : Exec σ α} {s : σ} {good good' : α → σ → Prop} {bad bad' : σ → Prop}
    (h : step.Ends s good bad) (ok : ∀ a s', good a s' → good' a s')
    (error : ∀ s', bad s' → bad' s') : step.Ends s good' bad' :=
  ⟨fun a s' e => ok a s' (h.1 a s' e), fun f s' e => error s' (h.2 f s' e)⟩

theorem of_pure {a : α} {s : σ} {good : α → σ → Prop} {bad : σ → Prop} (h : good a s) :
    (pure a : Exec σ α).Ends s good bad :=
  of_outcome (outcome_pure a s) (fun _ e => Except.ok.inj e ▸ h) fun _ e => by cases e

theorem bind {x : Exec σ α} {f : α → Exec σ β} {s : σ} {good : β → σ → Prop} {bad : σ → Prop}
    (h : x.Ends s (fun a s' => (f a).Ends s' good bad) bad) : (x >>= f).Ends s good bad := by
  cases e : x.outcome s with
  | mk r s' =>
    cases r with
    | ok a =>
        have same : (x >>= f).outcome s = (f a).outcome s' := by rw [outcome_bind, e]
        have next := h.1 a s' e
        exact ⟨fun b u eb => next.1 b u (same ▸ eb), fun g u eg => next.2 g u (same ▸ eg)⟩
    | error g =>
        have same : (x >>= f).outcome s = (.error g, s') := by rw [outcome_bind, e]
        exact of_outcome same (fun _ c => by cases c) fun _ _ => h.2 g s' e

theorem discard {x : Exec σ α} {s : σ} {good : PUnit → σ → Prop} {bad : σ → Prop}
    (h : x.Ends s (fun _ => good ⟨⟩) bad) : (Functor.discard x).Ends s good bad := by
  have same : (Functor.discard x : Exec σ PUnit) = x >>= fun _ => pure ⟨⟩ :=
    (bind_pure_comp _ x).symm
  rw [same]
  exact .bind (h.imp (fun _ _ g => .of_pure g) fun _ g => g)

theorem ofResult {r : Result α} {s : σ} {good : α → σ → Prop} {bad : σ → Prop}
    (ok : ∀ a, r = .ok a → good a s) (error : bad s) : (Exec.ofResult r).Ends s good bad :=
  of_outcome (outcome_ofResult r s) ok fun _ _ => error

theorem of_ok {a : α} {s : σ} {good : α → σ → Prop} {bad : σ → Prop} (h : good a s) :
    (Exec.ofResult (.ok a) : Exec σ α).Ends s good bad :=
  of_outcome (outcome_ofResult _ s) (fun _ e => Except.ok.inj e ▸ h) fun _ e => by cases e

theorem fail {e : Error} {s : σ} {good : α → σ → Prop} {bad : σ → Prop} (h : bad s) :
    (Exec.fail e : Exec σ α).Ends s good bad := ofResult (fun _ c => by cases c) h

theorem of_get {s : σ} {good : σ → σ → Prop} {bad : σ → Prop} (h : good s s) :
    (get : Exec σ σ).Ends s good bad :=
  of_outcome (r := .ok s) rfl (fun _ e => Except.ok.inj e ▸ h) fun _ e => by cases e

theorem of_set {s t : σ} {good : PUnit → σ → Prop} {bad : σ → Prop} (h : good ⟨⟩ t) :
    (set t : Exec σ PUnit).Ends s good bad :=
  of_outcome (r := .ok ⟨⟩) rfl (fun _ _ => h) fun _ e => by cases e

theorem of_modify {f : σ → σ} {s : σ} {good : PUnit → σ → Prop} {bad : σ → Prop}
    (h : good ⟨⟩ (f s)) : (modify f : Exec σ PUnit).Ends s good bad :=
  of_outcome (r := .ok ⟨⟩) rfl (fun _ _ => h) fun _ e => by cases e

/-- A step whose failure is a value. -/
theorem attempt {x : Exec σ α} {s : σ} {good : Result α → σ → Prop} {bad : σ → Prop}
    (h : x.Ends s (fun a => good (.ok a)) fun s' => ∀ e, good (.error e) s') :
    x.attempt.Ends s good bad := by
  cases e : x.outcome s with
  | mk r s' =>
    have same : x.attempt.outcome s = (.ok r, s') := by rw [outcome_attempt, e]
    refine of_outcome same (fun _ c => ?_) fun _ c => by cases c
    obtain rfl := Except.ok.inj c
    cases r with
    | ok a => exact h.1 a s' e
    | error f => exact h.2 f s' e f

theorem within {focus : Focus σ τ} {step : Exec τ α} {s : σ} {good : α → σ → Prop} {bad : σ → Prop}
    (h : step.Ends (focus.get s) (fun a t => good a (focus.put t s)) fun t => bad (focus.put t s)) :
    (step.within focus).Ends s good bad := by
  cases e : step.outcome (focus.get s) with
  | mk r t =>
    have same : (step.within focus).outcome s = (r, focus.put t s) := by rw [outcome_within, e]
    refine of_outcome same (fun a er => ?_) fun f er => ?_
    · exact h.1 a t (er ▸ e)
    · exact h.2 f t (er ▸ e)

/-- The clean-up goes on where the step ended, whether it failed or not. -/
theorem ensuring {x : Exec σ α} {cleanUp : Exec σ Unit} {s : σ} {good : α → σ → Prop}
    {bad : σ → Prop}
    (h : x.Ends s (fun a s' => cleanUp.Ends s' (fun _ => good a) bad)
      fun s' => cleanUp.Ends s' (fun _ => bad) bad) : (x.ensuring cleanUp).Ends s good bad := by
  refine .bind (.attempt (h.imp (fun a s' last => ?_) fun s' last e => ?_))
  · exact .bind (last.imp (fun _ _ g => .of_ok g) fun _ g => g)
  · exact .bind (last.imp (fun _ _ g => .fail g) fun _ g => g)

end Ends

/-- What holds of a state holds after the step, whether it fails or not. -/
def Maintains (inv : σ → Prop) (step : Exec σ α) : Prop := ∀ s, inv s → inv (step.outcome s).2

/-- What holds of the state in any case. -/
theorem Ends.after {step : Exec σ α} {s : σ} {inv : σ → Prop}
    (h : step.Ends s (fun _ => inv) inv) : inv (step.outcome s).2 := by
  cases e : step.outcome s with
  | mk r s' =>
    cases r with
    | ok a => exact h.1 a s' e
    | error f => exact h.2 f s' e

namespace Maintains

variable {inv : σ → Prop}

theorem of_ends {step : Exec σ α} (h : ∀ s, inv s → step.Ends s (fun _ => inv) inv) :
    step.Maintains inv := fun s hs => (h s hs).after

theorem ends {step : Exec σ α} (h : step.Maintains inv) {s : σ} (hs : inv s) :
    step.Ends s (fun _ => inv) inv :=
  ⟨fun _ _ e => by simpa only [e] using h s hs, fun _ _ e => by simpa only [e] using h s hs⟩

theorem of_pure (a : α) : (pure a : Exec σ α).Maintains inv := fun _ hs => hs

theorem ofResult (r : Result α) : (Exec.ofResult r : Exec σ α).Maintains inv := fun _ hs => hs

theorem fail (e : Error) : (Exec.fail e : Exec σ α).Maintains inv := fun _ hs => hs

theorem of_get : (get : Exec σ σ).Maintains inv := fun _ hs => hs

theorem of_modify {f : σ → σ} (h : ∀ s, inv s → inv (f s)) :
    (modify f : Exec σ PUnit).Maintains inv := h

theorem bind {x : Exec σ α} {f : α → Exec σ β} (h : x.Maintains inv)
    (next : ∀ a, (f a).Maintains inv) : (x >>= f).Maintains inv :=
  of_ends fun _ hs => .bind ((h.ends hs).imp (fun a _ hs' => (next a).ends hs') fun _ => id)

theorem ite {p : Prop} [Decidable p] {x y : Exec σ α} (pos : p → x.Maintains inv)
    (neg : ¬ p → y.Maintains inv) : (if p then x else y).Maintains inv := by
  split
  · exact pos ‹_›
  · exact neg ‹_›

/-- A loop keeps what each of its rounds keeps. -/
theorem forM {step : α → Exec σ PUnit} (h : ∀ a, (step a).Maintains inv) (all : List α) :
    (all.forM step).Maintains inv := by
  induction all with
  | nil => exact of_pure _
  | cons a rest ih => exact (h a).bind fun _ => ih

theorem attempt {x : Exec σ α} (h : x.Maintains inv) : x.attempt.Maintains inv := fun s hs => h s hs

theorem ensuring {x : Exec σ α} {cleanUp : Exec σ Unit} (h : x.Maintains inv)
    (last : cleanUp.Maintains inv) : (x.ensuring cleanUp).Maintains inv :=
  h.attempt.bind fun r => last.bind fun _ => ofResult r

theorem discard {x : Exec σ α} (h : x.Maintains inv) : (Functor.discard x).Maintains inv :=
  of_ends fun _ hs => .discard ((h.ends hs).imp (fun _ _ => id) fun _ => id)

theorem within {focus : Focus σ τ} {step : Exec τ α}
    (h : ∀ s, inv s → inv (focus.put (step.outcome (focus.get s)).2 s)) :
    (step.within focus).Maintains inv := h

end Maintains

/-- A step that keeps what holds of a state, and whose value is `good` if it has one. -/
def MaintainsWith (inv : σ → Prop) (good : α → Prop) (step : Exec σ α) : Prop :=
  ∀ s, inv s → step.Ends s (fun a s' => good a ∧ inv s') inv

namespace MaintainsWith

variable {inv : σ → Prop} {good : α → Prop}

theorem ofResult {r : Result α} (h : ∀ a, r = .ok a → good a) : (Exec.ofResult r).MaintainsWith inv good :=
  fun _ hs => .ofResult (fun a found => ⟨h a found, hs⟩) hs

theorem bind {x : Exec σ α} {f : α → Exec σ β} (h : x.MaintainsWith inv good)
    (next : ∀ a, good a → (f a).Maintains inv) : (x >>= f).Maintains inv :=
  .of_ends fun s hs => .bind ((h s hs).imp (fun a _ both => (next a both.1).ends both.2) fun _ => id)

/-- A value of which nothing is asked. -/
theorem of_maintains {x : Exec σ α} (h : x.Maintains inv) (all : ∀ a, good a) : x.MaintainsWith inv good :=
  fun _ hs => (h.ends hs).imp (fun a _ kept => ⟨all a, kept⟩) fun _ => id

end MaintainsWith

/-- A step that goes on with a result. -/
theorem Maintains.after {inv : σ → Prop} {r : Result α} {f : α → Exec σ β}
    (next : ∀ a, r = .ok a → (f a).Maintains inv) : (Exec.ofResult r >>= f).Maintains inv := by
  have first : (Exec.ofResult r).MaintainsWith inv fun a => r = .ok a := .ofResult fun _ => id
  exact first.bind next

/-- How a step fails: with an error and a state that are `bad`. -/
def Fails (step : Exec σ α) (s : σ) (bad : Error → σ → Prop) : Prop :=
  ∀ e s', step.outcome s = (.error e, s') → bad e s'

namespace Fails

variable {s : σ} {bad : Error → σ → Prop}

theorem of_ends {step : Exec σ α} {good : α → σ → Prop}
    (h : step.Ends s good fun s' => ∀ e, bad e s') : step.Fails s bad := fun e s' o => h.2 e s' o e

theorem ofResult {r : Result α} (h : ∀ e, r = .error e → bad e s) : (Exec.ofResult r).Fails s bad :=
  fun e _ o => (Prod.mk.inj o).2 ▸ h e (Prod.mk.inj o).1

theorem imp {step : Exec σ α} {weaker : Error → σ → Prop} (h : step.Fails s bad)
    (weaken : ∀ e s', bad e s' → weaker e s') : step.Fails s weaker :=
  fun e s' o => weaken e s' (h e s' o)

/-- The first step fails, or the second one does where the first one ended. -/
theorem bind {x : Exec σ α} {f : α → Exec σ β} (first : x.Fails s bad)
    (next : x.Ends s (fun a s' => (f a).Fails s' bad) fun _ => True) : (x >>= f).Fails s bad := by
  intro e s' o
  rw [outcome_bind] at o
  split at o
  · exact next.1 _ _ ‹_› e s' o
  · obtain ⟨same, rfl⟩ := Prod.mk.inj o
    exact first e _ (by rw [‹x.outcome s = _›, Except.error.inj same])

theorem after {x : Exec σ α} {f : α → Exec σ β}
    (h : x.Ends s (fun a s' => (f a).Fails s' bad) fun s' => ∀ e, bad e s') :
    (x >>= f).Fails s bad := bind (of_ends h) (h.imp (fun _ _ => id) fun _ _ => trivial)

end Fails

end Exec

end GraphQuery
