import GraphQuery.Proofs.Builder.Comparing

/-! # Calls that differ in values alone

`Call.Twin related c c'` holds of two calls that differ only in values which are compared with: those
of predicates, of conditions on groups, and of constraints on parents.  The queries among their
arguments are `related`, and callbacks consist of such calls again.

`Call.Twin.run` : builders that are alike are alike after such calls, if both succeed.  So no value
decides which clause is added, under which name it is bound, or which names are changed when a query
is taken in. -/

namespace GraphQuery

open GraphQuery.Binding GraphQuery.Schema BindingTable

namespace Build

/-! ### Patterns and projection -/

/-- Without a property or without a value there is no constraint. -/
theorem constrain_none (parent : String) {property v : Value} (h : property = .null ∨ v = .null) :
    constrain parent property v = pure none := by
  unfold constrain
  split
  · rfl
  · rfl
  all_goals rcases h with h | h <;> contradiction

theorem constrain_text (parent p : String) {v : Value} (given : v ≠ .null) :
    constrain parent (.text p) v =
      if p = "id" then do
        ask .grammar "get_id_replacement"
        ask .bindings "bind"
        let n ← Exec.ofResult (identity v)
        some <$> bind (identityName ("id(" ++ parent ++ ")")) (.int n) .pattern
      else some <$> bind (bindingName p) v .pattern := by
  unfold constrain
  split
  · contradiction
  · exact absurd rfl given
  · next e _ => rw [Value.text.inj e]
  · next other => exact (other p rfl).elim

theorem constrain_refused (parent : String) {property v : Value} (given : v ≠ .null)
    (absent : property ≠ .null) (other : ∀ p, property ≠ .text p) :
    constrain parent property v = (do
      ask .bindings "bind"
      Exec.fail (.wrongType "expected string or bytes-like object")) := by
  unfold constrain
  split
  · contradiction
  · contradiction
  · next p _ => exact absurd rfl (other p)
  · rfl

/-- Whatever value a parent is constrained to, it is bound under the same name. -/
theorem constrain_paired (parent : String) (property : Value) {v v' : Value}
    (h : v.isNull = v'.isNull) :
    Paired Eq (constrain parent property v) (constrain parent property v') := by
  have named (base : String) (v v' : Value) :
      Paired Eq (some <$> bind base v .pattern) (some <$> bind base v' .pattern) := by
    rw [← bind_pure_comp, ← bind_pure_comp]
    refine .bind (bind_paired base v v' .pattern) ?_
    rintro n _ rfl
    exact .of_pure rfl
  have together : v = .null ↔ v' = .null := by rw [← isNull_iff, ← isNull_iff, h]
  by_cases open_ : property = .null ∨ v = .null
  · rw [constrain_none parent open_, constrain_none parent (open_.imp_right together.mp)]
    exact .of_pure rfl
  obtain ⟨absent, given⟩ := not_or.mp open_
  have given' : v' ≠ .null := fun none => given (together.mpr none)
  by_cases text : ∃ p, property = .text p
  · obtain ⟨p, rfl⟩ := text
    rw [constrain_text parent p given, constrain_text parent p given']
    refine .ite (fun _ => ?_) fun _ => named _ v v'
    refine (ask_blind _ _).bind fun _ => (ask_blind _ _).bind fun _ => ?_
    exact (KeepAlike.ofResult _ _).bind fun n n' _ => named _ (.int n) (.int n')
  · have other : ∀ p, property ≠ .text p := fun p e => text ⟨p, e⟩
    rw [constrain_refused parent given absent other, constrain_refused parent given' absent other]
    exact (ask_blind _ _).bind fun _ => .fail _

theorem addPattern_paired (p : Checked Pattern) : KeepAlike (addPattern p) (addPattern p) :=
  (needList_blind _).bind fun _ => Blind.bind (.same_result _) fun _ => change_paired _

theorem parentNode_blind (v : Value) : Blind (parentNode v) :=
  (readLabels_blind v).bind fun _ => Blind.bind (.same_result _) fun _ =>
    Blind.bind (.same_result _) fun _ => .of_pure rfl

theorem relation_paired (parent related placeholder relationship property : Value) {v v' : Value}
    (h : v.isNull = v'.isNull) (direction boolean : Value) :
    KeepAlike (relation parent related placeholder relationship property v direction boolean)
      (relation parent related placeholder relationship property v' direction boolean) := by
  refine (parentNode_blind parent).bind fun parent => (needList_blind _).bind fun _ => ?_
  refine (readLabels_blind related).bind fun labels => Blind.bind (.same_result _) fun far => ?_
  refine Blind.bind (.same_result _) fun isOptional => .bind (constrain_paired _ property h) ?_
  rintro binding _ rfl
  exact addPattern_paired _

theorem anyRelation_paired (parent placeholder property : Value) {v v' : Value}
    (h : v.isNull = v'.isNull) (direction boolean relationship : Value) :
    KeepAlike (anyRelation parent placeholder property v direction boolean relationship)
      (anyRelation parent placeholder property v' direction boolean relationship) := by
  refine (parentNode_blind parent).bind fun parent => (needList_blind _).bind fun _ => ?_
  refine Blind.bind (.same_result _) fun isOptional => .bind (constrain_paired _ property h) ?_
  rintro binding _ rfl
  exact addPattern_paired _

theorem addHaving_paired (column operator v v' joined : Value) :
    KeepAlike (addHaving column operator v joined) (addHaving column operator v' joined) := by
  refine (ask_blind _ _).bind fun _ => Blind.bind (.same_result _) fun column => ?_
  refine .bind (bind_paired _ v v' .having) ?_
  rintro binding _ rfl
  refine (needList_blind _).bind fun _ => Blind.bind (.same_result _) fun operator => ?_
  exact Blind.bind (.same_result _) fun j => change_paired _

theorem select_paired (columns : List Value) : KeepAlike (select columns) (select columns) := by
  unfold select
  exact change_paired _

theorem stage_paired (parts : List Value) (named : List (String × Value)) :
    KeepAlike (stage parts named) (stage parts named) := by
  have each (standIn : Value) (all : List Value) :
      KeepAlike (all.forM fun part => do
          if !(← Exec.ofResult (Result.ofFailure (standIn.holds part))) then needList .stages : Build PUnit)
        (all.forM fun part => do
          if !(← Exec.ofResult (Result.ofFailure (standIn.holds part))) then needList .stages) := by
    induction all with
    | nil => exact .of_pure trivial
    | cons part rest ih =>
        refine .bind (?_ : KeepAlike _ _) fun _ _ _ => ih
        refine Blind.bind (.same_result _) fun found => ?_
        exact .ite (fun _ => (needList_blind _).keepAlike) fun _ => .of_pure trivial
  refine .bind .of_get fun b b' alike => ?_
  rw [alike.query]
  split
  · exact change_paired _
  · exact each _ _

theorem rowCount_paired (refusal : BuilderFault) (v : Value) (f : Value → Query → Query) :
    KeepAlike (Exec.ofResult (rowCount refusal v) >>= fun n => change (f n))
      (Exec.ofResult (rowCount refusal v) >>= fun n => change (f n)) :=
  Blind.bind (.same_result _) fun _ => change_paired _

theorem page_paired (number size : Value) : KeepAlike (page number size) (page number size) :=
  Blind.bind (.same_result _) fun _ => (rowCount_paired _ _ _).bind fun _ _ _ => rowCount_paired _ _ _

theorem union_paired {o o' : Operand} (h : o.Alike o') (keepsAll : Value) :
    KeepAlike (union o keepsAll) (union o' keepsAll) := by
  refine (needList_blind _).bind fun _ => .bind (subQuery_paired h) ?_
  rintro s _ rfl
  exact Blind.bind (.same_result _) fun _ => change_paired _

theorem addEntries_paired (bucket : Value) : ∀ entries : List (Value × Value),
    KeepAlike (addEntries bucket entries) (addEntries bucket entries)
  | [] => .of_pure trivial
  | (key, v) :: rest => by
    refine Blind.bind (.same_result _) fun name => (ask_blind _ _).bind fun _ => ?_
    refine Blind.bind (.same_result _) fun b => .bind (.of_modify fun a a' alike => ?_)
      fun _ _ _ => addEntries_paired bucket rest
    exact ⟨alike.query, alike.table.add name v v b, alike.number, alike.used⟩

theorem addBindings_paired (values bucket : Value) :
    KeepAlike (addBindings values bucket) (addBindings values bucket) := by
  unfold addBindings
  split
  · exact addEntries_paired bucket _
  · exact .fail _

end Build

/-! ### Twin calls -/

/-- Whether a call has no arguments that may stand for a query, those of `having` apart, where a
callback or a query is a value like any other. -/
def Call.isFlat : Call → Bool
  | .filter .. | .group .. | .compareRow .. | .among .. | .amongRows .. | .between .. | .isNull ..
  | .present .. | .union .. => false
  | _ => true

mutual
/-- Two calls that differ only in values which are compared with. -/
inductive Call.Twin (related : Incoming → Incoming → Prop) : Call → Call → Prop
  /-- twice the same call -/
  | same (c : Call) (flat : c.isFlat = true) : Call.Twin related c c
  /-- a predicate, with another value after its operator -/
  | filter {column column' : Argument} {operator operator' value value' : Option Argument}
    (joint : Value) : column.Twin related column' → OperatorTwin related operator operator' →
      ValueTwin related value value' →
      Call.Twin related (.filter column operator value joint)
        (.filter column' operator' value' joint)
  | group {body body' : Argument} (joint : Value) : body.Twin related body' →
    Call.Twin related (.group body joint) (.group body' joint)
  | compareRow {column column' query query' : Argument} (operator joint : Value) :
    column.Twin related column' → query.Twin related query' →
      Call.Twin related (.compareRow column operator query joint)
        (.compareRow column' operator query' joint)
  /-- membership in other values -/
  | among {column column' values values' : Argument} (joint negated : Value) :
    column.Twin related column' → ValueTwin related (some values) (some values') →
      Call.Twin related (.among column values joint negated) (.among column' values' joint negated)
  | amongRows {column column' query query' : Argument} (joint negated : Value) :
    column.Twin related column' → query.Twin related query' →
      Call.Twin related (.amongRows column query joint negated)
        (.amongRows column' query' joint negated)
  /-- other bounds -/
  | between {column column' : Argument} {values values' : Value} (joint negated : Value) :
    column.Twin related column' → values.drains? = values'.drains? →
      Call.Twin related (.between column values joint negated)
        (.between column' values' joint negated)
  | isNull {column column' : Argument} (joint negated : Value) : column.Twin related column' →
    Call.Twin related (.isNull column joint negated) (.isNull column' joint negated)
  | present {query query' : Argument} (joint negated : Value) : query.Twin related query' →
    Call.Twin related (.present query joint negated) (.present query' joint negated)
  /-- a parent that is constrained to another value -/
  | relation (parent far placeholder relationship property direction boolean : Value)
    {value value' : Value} : value.Varies value' →
      Call.Twin related
        (.relation parent far placeholder relationship property value direction boolean)
        (.relation parent far placeholder relationship property value' direction boolean)
  | anyRelation (parent placeholder property direction boolean relationship : Value)
    {value value' : Value} : value.Varies value' →
      Call.Twin related
        (.anyRelation parent placeholder property value direction boolean relationship)
        (.anyRelation parent placeholder property value' direction boolean relationship)
  /-- groups that are compared with another value -/
  | having (column : Value) (operator value value' : Argument) (joint : Value) :
    Call.Twin related (.having column (some operator) (some value) joint)
      (.having column (some operator) (some value') joint)
  /-- groups that have to be equal to another value -/
  | havingEqual (column : Value) (value value' : Argument) (joint : Value) :
    Call.Twin related (.having column (some value) none joint)
      (.having column (some value') none joint)
  | union {query query' : Argument} (keepsAll : Value) : query.Twin related query' →
    Call.Twin related (.union query keepsAll) (.union query' keepsAll)
/-- Two arguments that stand for the same. -/
inductive Argument.Twin (related : Incoming → Incoming → Prop) : Argument → Argument → Prop
  | value (v : Value) : Argument.Twin related (.value v) (.value v)
  | body {calls calls' : List Call} : Twins related calls calls' →
    Argument.Twin related (.body calls) (.body calls')
  | query {q q' : Incoming} : related q q' → Argument.Twin related (.query q) (.query q')
  | callback (number : Nat) : Argument.Twin related (.callback number) (.callback number)
/-- Two operators, or neither. -/
inductive OperatorTwin (related : Incoming → Incoming → Prop) :
    Option Argument → Option Argument → Prop
  | none : OperatorTwin related none none
  | some {a a' : Argument} : a.Twin related a' → OperatorTwin related (some a) (some a')
/-- Two values to compare with, which may differ, or neither. -/
inductive ValueTwin (related : Incoming → Incoming → Prop) :
    Option Argument → Option Argument → Prop
  | none : ValueTwin related none none
  | same {a a' : Argument} : a.Twin related a' → ValueTwin related (some a) (some a')
  | other {v v' : Value} : v.Varies v' → ValueTwin related (some (.value v)) (some (.value v'))
/-- Two sequences of calls. -/
inductive Twins (related : Incoming → Incoming → Prop) : List Call → List Call → Prop
  | nil : Twins related [] []
  | cons {c c' : Call} {rest rest' : List Call} : c.Twin related c' → Twins related rest rest' →
    Twins related (c :: rest) (c' :: rest')
end

namespace Call

open Build

theorem flat_run : ∀ {c : Call}, c.isFlat = true → KeepAlike c.run c.run
  | .target labels, _ => target_paired labels
  | .carried .., _ => addChecked_paired _
  | .relation parent related placeholder relationship property _ direction boolean, _ =>
    relation_paired parent related placeholder relationship property rfl direction boolean
  | .anyRelation parent placeholder property _ direction boolean relationship, _ =>
    anyRelation_paired parent placeholder property rfl direction boolean relationship
  | .select columns, _ => select_paired columns
  | .distinct, _ => show KeepAlike makeDistinct makeDistinct from change_paired _
  | .setAggregate a, _ => show KeepAlike (Build.setAggregate a) (Build.setAggregate a) from change_paired _
  | .addSelect _, _ => (withQuery_blind _).bind fun _ => change_paired _
  | .stage parts named, _ => stage_paired parts named
  | .groupBy _, _ => (ask_blind _ _).bind fun _ => change_paired _
  | .having column _ _ joint, _ => Blind.bind (.same_result _) fun _ => addHaving_paired column _ _ _ joint
  | .orderBy _ _, _ => Blind.bind (.same_result _) fun _ => (needList_blind _).bind fun _ => change_paired _
  | .limit _, _ | .offset _, _ => rowCount_paired _ _ _
  | .page number size, _ => page_paired number size
  | .addBindings values bucket, _ => addBindings_paired values bucket
  | .addPredicate p, _ => addPredicate_paired p
  | .addPattern _, _ => addPattern_paired _
  | .nest wheres joint, _ => nest_paired wheres joint
  | .refused reason, _ => .fail reason

end Call

section run

open Build

variable {related : Incoming → Incoming → Prop}

mutual
/-- Builders that are alike are alike after calls that differ in values alone. -/
theorem Call.Twin.run (alike : ∀ q q', related q q' → q.Alike q') :
    ∀ {c c' : Call}, c.Twin related c' → KeepAlike c.run c'.run
  | _, _, .same c flat => Call.flat_run flat
  | _, _, .filter joint column operator value =>
    filter_paired (column.operand alike) (operator.operand alike) (value.operand alike) joint
  | _, _, .group joint body => group_paired (callback_paired (body.operand alike)) joint
  | _, _, .compareRow operator joint column query =>
    compareRow_paired (query.operand alike) (column.operand alike) operator joint
  | _, _, .among joint negated column values => by
    cases values.operand alike with
    | some values => exact among_paired values (column.operand alike) joint negated
  | _, _, .amongRows joint negated column query =>
    amongRows_paired (query.operand alike) (column.operand alike) joint negated
  | _, _, .between joint negated column drains =>
    between_paired (column.operand alike) drains joint negated
  | _, _, .isNull joint negated column => isNull_paired (column.operand alike) joint negated
  | _, _, .present joint negated query => present_paired (query.operand alike) joint negated
  | _, _, .relation parent far placeholder relationship property direction boolean other =>
    relation_paired parent far placeholder relationship property (other.given.trans other.given'.symm)
      direction boolean
  | _, _, .anyRelation parent placeholder property direction boolean relationship other =>
    anyRelation_paired parent placeholder property (other.given.trans other.given'.symm) direction
      boolean relationship
  | _, _, .having column operator value value' joint => by
    refine .bind (?_ : Paired (fun p p' : Operand × Operand => p.1 = p'.1) _ _) ?_
    · refine .ofResult fun p p' e e' => ?_
      rw [comparison_given e, comparison_given e']
    · rintro ⟨operator, v⟩ ⟨_, v'⟩ rfl
      exact addHaving_paired column _ _ _ joint
  | _, _, .havingEqual column value value' joint => addHaving_paired column _ _ _ joint
  | _, _, .union keepsAll query => union_paired (query.operand alike) keepsAll
theorem Argument.Twin.operand (alike : ∀ q q', related q q' → q.Alike q') :
    ∀ {a a' : Argument}, a.Twin related a' → a.operand.Alike a'.operand
  | _, _, .value v => .value v
  | _, _, .body calls => .body (calls.run alike)
  | _, _, .query h => .query (alike _ _ h)
  | _, _, .callback number => .value _
theorem OperatorTwin.operand (alike : ∀ q q', related q q' → q.Alike q') :
    ∀ {a a' : Option Argument}, OperatorTwin related a a' →
      Both Operand.Alike (operand? a) (operand? a')
  | _, _, .none => .none
  | _, _, .some h => .some (h.operand alike)
theorem ValueTwin.operand (alike : ∀ q q', related q q' → q.Alike q') :
    ∀ {a a' : Option Argument}, ValueTwin related a a' →
      Both Operand.Varies (operand? a) (operand? a')
  | _, _, .none => .none
  | _, _, .same h => .some (.alike (h.operand alike))
  | _, _, .other h => .some (.value h)
theorem Twins.run (alike : ∀ q q', related q q' → q.Alike q') :
    ∀ {calls calls' : List Call}, Twins related calls calls' →
      KeepAlike (runAll calls) (runAll calls')
  | _, _, .nil => .of_pure trivial
  | _, _, .cons first rest => (first.run alike).bind fun _ _ _ => rest.run alike
end

end run

end GraphQuery
