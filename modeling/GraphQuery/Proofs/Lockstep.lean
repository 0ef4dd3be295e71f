import GraphQuery.Proofs.Outcome
import Mathlib.Data.List.Forall2

/-! # Two steps at once

`Together related x y` compares two results: if both are values, these are `related`.

`Exec.InStep inv related x y` compares two steps whose states `inv` relates: if both succeed, their
values are `related`, and `inv` relates the states they end in.  So two runs that differ in something
which `inv` leaves open differ in nothing that `inv` fixes.

There is a rule for each way of putting results or steps together. -/

namespace GraphQuery

/-! ### Results -/

section Together

variable {ε ε' α β γ δ : Type} {related : α → β → Prop} {related' : γ → δ → Prop}

/-- Two results are related if both are values. -/
def Together (related : α → β → Prop) (x : Except ε α) (y : Except ε' β) : Prop :=
  ∀ a b, x = .ok a → y = .ok b → related a b

namespace Together

variable {x : Except ε α} {y : Except ε' β}

theorem ok {a : α} {b : β} (h : related a b) :
    Together related (.ok a : Except ε α) (.ok b : Except ε' β) :=
  fun _ _ ea eb => Except.ok.inj ea ▸ Except.ok.inj eb ▸ h

theorem error (e : ε) : Together related (.error e) y := fun _ _ ea _ => by cases ea

theorem any : Together (fun _ _ => True) x y := fun _ _ _ _ => trivial

theorem imp (h : Together related x y) {weaker : α → β → Prop}
    (weaken : ∀ a b, related a b → weaker a b) : Together weaker x y :=
  fun a b ea eb => weaken a b (h a b ea eb)

theorem same (x : Except ε α) : Together Eq x x := fun _ _ ea eb => Except.ok.inj (ea.symm.trans eb)

theorem bind {f : α → Except ε γ} {g : β → Except ε' δ} (h : Together related x y)
    (next : ∀ a b, related a b → Together related' (f a) (g b)) :
    Together related' (x >>= f) (y >>= g) := by
  cases x with
  | error e => exact error e
  | ok a =>
    cases y with
    | error e => exact fun _ _ _ eb => by cases eb
    | ok b => exact next a b (h a b rfl rfl)

theorem after (x : Except ε α) {f : α → Except ε γ} {g : α → Except ε δ}
    (next : ∀ a, Together related' (f a) (g a)) : Together related' (x >>= f) (x >>= g) :=
  (same x).bind fun a _ e => e ▸ next a

theorem map {f : α → γ} {g : β → δ} (h : Together related x y)
    (next : ∀ a b, related a b → related' (f a) (g b)) : Together related' (x.map f) (y.map g) := by
  cases x with
  | error e => exact error e
  | ok a =>
    cases y with
    | error e => exact fun _ _ _ eb => by cases eb
    | ok b => exact ok (next a b (h a b rfl rfl))

theorem mapM {f : α → Except ε γ} {g : β → Except ε' δ} {as : List α} {bs : List β}
    (h : List.Forall₂ related as bs) (each : ∀ a b, related a b → Together related' (f a) (g b)) :
    Together (List.Forall₂ related') (as.mapM f) (bs.mapM g) := by
  induction h with
  | nil =>
      rw [List.mapM_nil, List.mapM_nil]
      exact ok .nil
  | cons head _ ih =>
      rw [List.mapM_cons, List.mapM_cons]
      exact (each _ _ head).bind fun _ _ first => ih.bind fun _ _ rest => ok (.cons first rest)

/-! #### Checks -/

variable {u : Checked α} {v : Checked β} {u' : Checked γ} {v' : Checked δ}

theorem inside (h : Together related u v) (step step' : String) :
    Together related (Checked.inside step u) (Checked.inside step' v) := by
  cases u with
  | error e => exact error _
  | ok a =>
    cases v with
    | error e => exact fun _ _ _ eb => by cases eb
    | ok b => exact h

theorem and (h : Together related u v) (h' : Together related' u' v') :
    Together (fun p q => related p.1 q.1 ∧ related' p.2 q.2) (u.and u') (v.and v') := by
  intro p q ep eq
  obtain ⟨eu, eu'⟩ := Checked.and_eq_ok ep
  obtain ⟨ev, ev'⟩ := Checked.and_eq_ok eq
  exact ⟨h _ _ eu ev, h' _ _ eu' ev'⟩

theorem eachFrom {f : α → Checked γ} {g : β → Checked δ} {as : List α} {bs : List β}
    (h : List.Forall₂ related as bs) (check : ∀ a b, related a b → Together related' (f a) (g b))
    (n : Nat) : Together (List.Forall₂ related') (Checked.eachFrom f n as)
      (Checked.eachFrom g n bs) := by
  induction h generalizing n with
  | nil => exact ok .nil
  | cons head _ ih =>
      exact (((check _ _ head).inside _ _).and (ih (n + 1))).map fun _ _ both => .cons both.1 both.2

theorem ofChecked (h : Together related u v) :
    Together related (Result.ofChecked u) (Result.ofChecked v) := fun a b ea eb =>
  h a b (Result.ofChecked_eq_ok ea) (Result.ofChecked_eq_ok eb)

end Together

end Together

namespace Exec

/-! ### Steps -/

variable {σ τ α β γ δ : Type}

/-- Two steps that succeed from related states have related values and end in related states. -/
def InStep (inv : σ → τ → Prop) (related : α → β → Prop) (x : Exec σ α) (y : Exec τ β) : Prop :=
  ∀ s t, inv s t → ∀ a s' b t', x.outcome s = (.ok a, s') → y.outcome t = (.ok b, t') →
    related a b ∧ inv s' t'

namespace InStep

variable {inv : σ → τ → Prop} {related : α → β → Prop} {related' : γ → δ → Prop}
  {x : Exec σ α} {y : Exec τ β}

theorem imp (h : InStep inv related x y) {weaker : α → β → Prop}
    (weaken : ∀ a b, related a b → weaker a b) : InStep inv weaker x y := by
  intro s t start a s' b t' ex ey
  obtain ⟨values, states⟩ := h s t start a s' b t' ex ey
  exact ⟨weaken a b values, states⟩

theorem bind {f : α → Exec σ γ} {g : β → Exec τ δ} (h : InStep inv related x y)
    (next : ∀ a b, related a b → InStep inv related' (f a) (g b)) :
    InStep inv related' (x >>= f) (y >>= g) := by
  intro s t start c s'' d t'' ex ey
  rw [outcome_bind] at ex ey
  cases firstX : x.outcome s with
  | mk r s' =>
    cases firstY : y.outcome t with
    | mk r' t' =>
      rw [firstX] at ex
      rw [firstY] at ey
      cases r with
      | error e => cases ex
      | ok a =>
        cases r' with
        | error e => cases ey
        | ok b =>
          obtain ⟨values, states⟩ := h s t start a s' b t' firstX firstY
          exact next a b values s' t' states c s'' d t'' ex ey

theorem of_outcome {f : σ → Result α × σ} {g : τ → Result β × τ}
    (hx : ∀ s, x.outcome s = f s) (hy : ∀ t, y.outcome t = g t)
    (h : ∀ s t, inv s t → ∀ a b, (f s).1 = .ok a → (g t).1 = .ok b →
      related a b ∧ inv (f s).2 (g t).2) : InStep inv related x y := by
  intro s t start a s' b t' ex ey
  rw [hx] at ex
  rw [hy] at ey
  have both := h s t start a b (congrArg Prod.fst ex) (congrArg Prod.fst ey)
  rwa [show (f s).2 = s' from congrArg Prod.snd ex, show (g t).2 = t' from congrArg Prod.snd ey] at both

theorem of_ofOutcome {f : σ → Result α × σ} {g : τ → Result β × τ}
    (h : ∀ s t, inv s t → ∀ a b, (f s).1 = .ok a → (g t).1 = .ok b →
      related a b ∧ inv (f s).2 (g t).2) :
    InStep inv related (ofOutcome f) (ofOutcome g) :=
  of_outcome (outcome_ofOutcome f) (outcome_ofOutcome g) h

theorem of_pure {a : α} {b : β} (h : related a b) :
    InStep inv related (pure a : Exec σ α) (pure b : Exec τ β) := by
  refine of_outcome (outcome_pure a) (outcome_pure b) fun s t start a' b' ea eb => ⟨?_, start⟩
  exact Except.ok.inj ea ▸ Except.ok.inj eb ▸ h

theorem ofResult {r : Result α} {r' : Result β} (h : Together related r r') :
    InStep inv related (Exec.ofResult r : Exec σ α) (Exec.ofResult r' : Exec τ β) :=
  of_outcome (outcome_ofResult r) (outcome_ofResult r') fun _ _ start a b ea eb => ⟨h a b ea eb, start⟩

theorem same_result (r : Result α) :
    InStep inv Eq (Exec.ofResult r : Exec σ α) (Exec.ofResult r : Exec τ α) :=
  ofResult (.same r)

theorem fail (e : Error) : InStep inv related (Exec.fail e : Exec σ α) y := by
  intro s t _ a s' b t' ex _
  cases (Prod.mk.inj ex).1

theorem fail_right (e : Error) : InStep inv related x (Exec.fail e : Exec τ β) := by
  intro s t _ a s' b t' _ ey
  cases (Prod.mk.inj ey).1

/-- Steps that are refused first in some cases. -/
theorem guarded {p p' : Prop} [Decidable p] [Decidable p'] {e e' : Error}
    {f : γ → Exec σ α} {g : δ → Exec τ β} (h : InStep inv related x y) :
    InStep inv related (if p then Exec.fail e >>= f else x)
      (if p' then Exec.fail e' >>= g else y) := by
  have refused (e : Error) (f : γ → Exec σ α) : (Exec.fail e >>= f) = Exec.fail e := rfl
  have refused' (e : Error) (g : δ → Exec τ β) : (Exec.fail e >>= g) = Exec.fail e := rfl
  rw [refused, refused']
  split
  · exact fail e
  · split
    · exact fail_right e'
    · exact h

theorem of_get : InStep inv inv (get : Exec σ σ) (get : Exec τ τ) := by
  refine of_outcome (f := fun s => (.ok s, s)) (g := fun t => (.ok t, t)) (fun _ => rfl)
    (fun _ => rfl) fun s t start a b ea eb => ⟨?_, start⟩
  exact Except.ok.inj ea ▸ Except.ok.inj eb ▸ start

theorem of_modify {f : σ → σ} {g : τ → τ} (h : ∀ s t, inv s t → inv (f s) (g t)) :
    InStep inv (fun _ _ => True) (modify f : Exec σ PUnit) (modify g : Exec τ PUnit) :=
  of_outcome (f := fun s => (.ok ⟨⟩, f s)) (g := fun t => (.ok ⟨⟩, g t)) (fun _ => rfl)
    (fun _ => rfl) fun s t start _ _ _ _ => ⟨trivial, h s t start⟩

theorem of_set {s : σ} {t : τ} (h : inv s t) :
    InStep inv (fun _ _ => True) (set s : Exec σ PUnit) (set t : Exec τ PUnit) :=
  of_outcome (f := fun _ => (.ok ⟨⟩, s)) (g := fun _ => (.ok ⟨⟩, t)) (fun _ => rfl)
    (fun _ => rfl) fun _ _ _ _ _ _ _ => ⟨trivial, h⟩

theorem discard (h : InStep inv related x y) :
    InStep inv (fun _ _ => True) (Functor.discard x) (Functor.discard y) := by
  have same {σ α : Type} (x : Exec σ α) : (Functor.discard x : Exec σ PUnit) = x >>= fun _ => pure ⟨⟩ :=
    (bind_pure_comp _ x).symm
  rw [same x, same y]
  exact h.bind fun _ _ _ => of_pure trivial

theorem ite {p : Prop} [Decidable p] {x' : Exec σ α} {y' : Exec τ β}
    (pos : p → InStep inv related x y) (neg : ¬ p → InStep inv related x' y') :
    InStep inv related (if p then x else x') (if p then y else y') := by
  split
  · exact pos ‹_›
  · exact neg ‹_›

/-- Two steps with a clean-up each. -/
theorem ensuring {c : Exec σ Unit} {d : Exec τ Unit} (h : InStep inv related x y)
    (last : InStep inv (fun _ _ => True) c d) : InStep inv related (x.ensuring c) (y.ensuring d) := by
  intro s t start a s'' b t'' ex ey
  rw [outcome_ensuring] at ex ey
  split at ex
  · next s' ec =>
    split at ey
    · next t' ed =>
      obtain ⟨ea, rfl⟩ := Prod.mk.inj ex
      obtain ⟨eb, rfl⟩ := Prod.mk.inj ey
      obtain ⟨values, states⟩ := h s t start a _ b _ (Prod.ext ea rfl) (Prod.ext eb rfl)
      exact ⟨values, (last _ _ states _ _ _ _ ec ed).2⟩
    · cases (Prod.mk.inj ey).1
  · cases (Prod.mk.inj ex).1

theorem within {υ ω : Type} {focus : Focus υ σ} {focus' : Focus ω τ} {outer : υ → ω → Prop}
    (parts : ∀ s t, outer s t → inv (focus.get s) (focus'.get t))
    (whole : ∀ s t s' t', outer s t → inv s' t' → outer (focus.put s' s) (focus'.put t' t))
    (h : InStep inv related x y) :
    InStep outer related (Exec.within focus x) (Exec.within focus' y) := by
  refine of_outcome (outcome_within focus x) (outcome_within focus' y) fun s t start a b ea eb => ?_
  obtain ⟨values, states⟩ := h _ _ (parts s t start) a _ b _ (Prod.ext ea rfl) (Prod.ext eb rfl)
  exact ⟨values, whole s t _ _ start states⟩

end InStep

end Exec

end GraphQuery
