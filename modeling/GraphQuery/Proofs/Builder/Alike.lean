import GraphQuery.Builder.Filter
import GraphQuery.Builder.Match
import GraphQuery.Builder.Projection
import GraphQuery.Proofs.Binding.Names
import GraphQuery.Proofs.Lockstep

/-! # Builders that differ in bound values alone

Two builders are `Builder.Alike` if they ask for the same and have tables with the same names.  A step
that binds a value looks at neither: two builders that are alike stay alike, whichever values they
bind.

* `Build.Paired related x y` says that of two steps, and that their values are `related`;
  `Build.Blind x` says it of one step that gives the same value on both builders.
* `Value.Varies v v'` says which values a call may compare with instead of each other: the kind of a
  predicate depends on whether a value is null, and what is left of a stream on whether it has been
  gone through. -/

namespace GraphQuery

open GraphQuery.Binding BindingTable

/-- Two builders ask for the same, and what they have bound differs in values alone. -/
structure Builder.Alike (b b' : Builder) : Prop where
  query : b.query = b'.query
  table : b.table.Alike b'.table
  number : b.tableNumber = b'.tableNumber
  used : b.used = b'.used

/-- Two queries that were built on their own, which differ in bound values alone. -/
structure Incoming.Alike (q q' : Incoming) : Prop where
  number : q.number = q'.number
  tableNumber : q.tableNumber = q'.tableNumber
  query : q.query = q'.query
  table : q.table.Alike q'.table

theorem Incoming.Alike.value_eq {q q' : Incoming} (h : q.Alike q') : q.value = q'.value := by
  unfold Incoming.value
  rw [h.number, h.query]

/-! ### Values -/

/-- The stream that is used up when a value is gone through, by its mark. -/
def Value.drains? : Value → Option Nat
  | .stream _ mark => mark
  | _ => none

/-- What is left of all streams when a value has been gone through. -/
theorem Remains.useUp_snd (remains : Remains) (v : Value) :
    (remains.useUp v).2 = remains.leave v.drains? [] := by
  cases v <;> rfl

/-- A value that a predicate compares with, and another one that may stand in its place. -/
structure Value.Varies (v v' : Value) : Prop where
  given : v.isNull = false
  given' : v'.isNull = false
  drains : v.drains? = v'.drains?

namespace Build

variable {α β γ δ : Type}

/-- Two steps that keep builders alike and have values that are related. -/
abbrev Paired (related : α → β → Prop) (x : Build α) (y : Build β) : Prop :=
  Exec.InStep Builder.Alike related x y

/-- Two steps that keep builders alike. -/
abbrev KeepAlike (x : Build α) (y : Build β) : Prop := Paired (fun _ _ => True) x y

/-- A step that does not depend on the values that are bound. -/
abbrev Blind (x : Build α) : Prop := Paired Eq x x

/-- What follows a step with the same value on both sides. -/
theorem Blind.bind {x : Build α} (h : Blind x) {related : γ → δ → Prop} {f : α → Build γ}
    {g : α → Build δ} (next : ∀ a, Paired related (f a) (g a)) : Paired related (x >>= f) (x >>= g) := by
  refine Exec.InStep.bind h ?_
  rintro a _ rfl
  exact next a

theorem Blind.keepAlike {x : Build α} (h : Blind x) : KeepAlike x x := h.imp fun _ _ _ => trivial

/-- Two steps without effect and without values of interest. -/
theorem KeepAlike.ofResult (r : Result α) (r' : Result β) :
    KeepAlike (Exec.ofResult r) (Exec.ofResult r') := Exec.InStep.ofResult fun _ _ _ _ => trivial

/-! ### Parts of steps -/

theorem withQuery_blind (f : Query → Result α) : Blind (withQuery f) := by
  refine .of_ofOutcome fun b b' alike a a' ea ea' => ⟨?_, alike⟩
  dsimp only at ea ea'
  rw [alike.query] at ea
  exact Except.ok.inj (ea.symm.trans ea')

theorem ask_blind (part : QueryPart) (name : String) : Blind (ask part name) := withQuery_blind _

theorem needList_blind (part : QueryPart) : Blind (needList part) := ask_blind part _

theorem change_paired (f : Query → Query) : KeepAlike (change f) (change f) :=
  .of_modify fun _ _ alike => ⟨congrArg f alike.query, alike.table, alike.number, alike.used⟩

theorem useUp_paired {v v' : Value} (h : v.drains? = v'.drains?) :
    KeepAlike (useUp v) (useUp v') := by
  refine .of_ofOutcome fun b b' alike a a' _ _ => ⟨trivial, ?_⟩
  refine ⟨alike.query, alike.table, alike.number, ?_⟩
  show (b.used.useUp v).2 = (b'.used.useUp v').2
  rw [Remains.useUp_snd, Remains.useUp_snd, alike.used, h]

theorem useUp_blind (v : Value) : Blind (useUp v) := by
  refine .of_ofOutcome fun b b' alike a a' ea ea' => ?_
  dsimp only at ea ea' ⊢
  rw [alike.used] at ea
  refine ⟨Except.ok.inj (ea.symm.trans ea'), alike.query, alike.table, alike.number, ?_⟩
  rw [alike.used]

theorem bind_paired (base : String) (v v' : Value) (bucket : Bucket) :
    Paired Eq (bind base v bucket) (bind base v' bucket) := by
  refine (ask_blind _ _).bind fun _ => ?_
  refine .of_ofOutcome fun b b' alike n n' en en' => ?_
  obtain ⟨names, tables⟩ := alike.table.bind base v v' bucket
  refine ⟨?_, alike.query, tables, alike.number, alike.used⟩
  exact (Except.ok.inj en).symm.trans (names.trans (Except.ok.inj en'))

theorem addPredicate_paired (p : Predicate) : KeepAlike (addPredicate p) (addPredicate p) :=
  (needList_blind _).bind fun _ => change_paired _

theorem addChecked_paired (p : Checked Predicate) : KeepAlike (addChecked p) (addChecked p) :=
  (needList_blind _).bind fun _ => .bind (.same_result _) (by rintro p _ rfl; exact addPredicate_paired p)

theorem resolve_blind (column : Value) : Blind (resolve column) := withQuery_blind _

theorem bindValue_paired (c : ColumnRef) (v v' : Value) (bucket : Bucket) :
    Paired Eq (bindValue c v bucket) (bindValue c v' bucket) := by
  refine (ask_blind _ _).bind fun _ => ?_
  dsimp only
  refine .ite (fun _ => (ask_blind _ _).bind fun _ => ?_) fun _ => ?_
  all_goals exact bind_paired _ v v' bucket

theorem bindColumn_paired (c : ColumnRef) (v v' : Value) (bucket : Bucket) :
    Paired Eq (bindColumn c v bucket) (bindColumn c v' bucket) :=
  (KeepAlike.ofResult (valueFor c v) (valueFor c v')).bind fun v v' _ => bindValue_paired c v v' bucket

theorem readLabels_blind (v : Value) : Blind (readLabels v) :=
  (ask_blind _ _).bind fun _ => (useUp_blind v).bind fun _ => .same_result _

theorem target_paired (v : Value) : KeepAlike (target v) (target v) := by
  have labelled : KeepAlike (readLabels v >>= fun labels =>
      change fun q => { q with labels := .tuple labels }) (readLabels v >>= fun labels =>
        change fun q => { q with labels := .tuple labels }) :=
    (readLabels_blind v).bind fun _ => change_paired _
  unfold target
  dsimp only
  split
  · exact (change_paired _).bind fun _ _ _ => labelled
  · exact labelled

/-! ### Callbacks and queries -/

/-- Two callbacks on other queries with the same table. -/
theorem onQuery_paired (start : Query) {x y : Build Unit} (h : KeepAlike x y) :
    Paired Eq (onQuery start x) (onQuery start y) := by
  refine .of_ofOutcome fun b b' alike q q' eq eq' => ?_
  dsimp only at eq eq' ⊢
  rw [← alike.query] at eq' ⊢
  have tables : (if (b.query.standIn? .bindings).any (·.isNull) = true then BindingTable.empty
      else b.table).Alike (if (b.query.standIn? .bindings).any (·.isNull) = true then
        BindingTable.empty else b'.table) := by
    split
    · exact .refl _
    · exact alike.table
  have inner : Builder.Alike
      { b with query := start, table := if (b.query.standIn? .bindings).any (·.isNull) = true then
          BindingTable.empty else b.table }
      { b' with query := start, table := if (b.query.standIn? .bindings).any (·.isNull) = true then
          BindingTable.empty else b'.table } := ⟨rfl, tables, alike.number, alike.used⟩
  revert eq eq'
  cases ex : x.outcome _ with
  | mk r c =>
    cases ey : y.outcome _ with
    | mk r' c' =>
      intro eq eq'
      cases r with
      | error e => cases eq
      | ok u =>
        cases r' with
        | error e => cases eq'
        | ok u' =>
          obtain ⟨-, after⟩ := h _ _ inner _ _ _ _ ex ey
          refine ⟨?_, rfl, ?_, alike.number, after.used⟩
          · exact (Except.ok.inj eq).symm.trans (after.query.trans (Except.ok.inj eq'))
          · dsimp only
            split
            · exact alike.table
            · exact after.table

end Build

end GraphQuery
