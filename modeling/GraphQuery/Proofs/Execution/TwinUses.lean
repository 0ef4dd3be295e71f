import GraphQuery.Execution.Page
import GraphQuery.Proofs.Execution.Requested
import GraphQuery.Proofs.Execution.Uses

/-! # Uses that differ in values alone

`Use.Twin u u'` holds of two uses of a builder that differ in the values of properties alone, under
the same names, in the identity of what is deleted or looked for, or in a percentile.  Live queries
that are alike are alike after them (`Use.Twin.run`), whatever the server answers: a use keeps nothing
of what it has written or read.

A page is the exception, as it is fetched only if the count before it is not zero.  It is made of a
count, a call of `page`, and a fetch, each of which may be in two runs.  In the same way a new entity
is a call of `target` and an insertion. -/

namespace GraphQuery

open GraphQuery.Binding GraphQuery.Cypher Exec

/-- Two uses that differ in values alone. -/
inductive Use.Twin : Use → Use → Prop
  | fetch (columns : Value) : Use.Twin (.fetch columns) (.fetch columns)
  | fetchFirst (columns : Value) : Use.Twin (.fetchFirst columns) (.fetchFirst columns)
  /-- one node each, by identities of their own -/
  | fetchById {o o' : Operand} (columns : Value) : o.Varies o' →
    Use.Twin (.fetchById o columns) (.fetchById o' columns)
  | fetchValue (column : Value) : Use.Twin (.fetchValue column) (.fetchValue column)
  | fetchColumn (column : Value) : Use.Twin (.fetchColumn column) (.fetchColumn column)
  /-- an aggregate, maybe at percentiles of their own -/
  | aggregate (function columns : Value) {v v' : Value} : v.isNull = v'.isNull →
    Use.Twin (.aggregate function columns v) (.aggregate function columns v')
  | count (columns : Value) : Use.Twin (.count columns) (.count columns)
  | countDistinct (columns : Value) : Use.Twin (.countDistinct columns) (.countDistinct columns)
  | sum (column : Value) : Use.Twin (.sum column) (.sum column)
  | collect (column : Value) : Use.Twin (.collect column) (.collect column)
  | hasRows : Use.Twin .hasRows .hasRows
  | total (columns : Value) : Use.Twin (.total columns) (.total columns)
  | insert {v v' : Value} : v.TwinRecords v' → Use.Twin (.insert v) (.insert v')
  | insertOne {v v' : Value} : v.Keyed v' → Use.Twin (.insertOne v) (.insertOne v')
  | update {v v' : Value} : v.Keyed v' → Use.Twin (.update v) (.update v')
  | delete : Use.Twin (.delete (.value .null)) (.delete (.value .null))
  /-- one node each, by identities of their own -/
  | deleteOne {v v' : Value} : v.Varies v' → Use.Twin (.delete (.value v)) (.delete (.value v'))
  | relabel (labels operation : Value) : Use.Twin (.relabel labels operation) (.relabel labels operation)
  | createWith {v v' related related' : Value} : v.Keyed v' → related.TwinRequests related' →
    Use.Twin (.createWith v related) (.createWith v' related')

namespace LiveQuery

variable {α β : Type} {related : α → β → Prop} {v v' : Value}

/-- Two steps that keep live queries alike. -/
abbrev KeepAlike (x : Exec LiveQuery α) (y : Exec LiveQuery β) : Prop :=
  InStep Alike (fun _ _ => True) x y

theorem build_paired {x : Build α} {y : Build β} (h : Build.Paired related x y) :
    InStep Alike related (build x) (build y) :=
  .within (fun _ _ alike => alike.builder) (fun _ _ _ _ alike next => ⟨next, alike.number⟩) h

/-- The builder and its number. -/
def IsAt (b : Builder) (number : Nat) (l : LiveQuery) : Prop := l.builder = b ∧ l.number = number

theorem keepAlike_of_maintains {x : Exec LiveQuery α} {y : Exec LiveQuery β}
    (hx : ∀ b number, x.Maintains (IsAt b number)) (hy : ∀ b number, y.Maintains (IsAt b number)) :
    KeepAlike x y := by
  intro l l' alike a m b m' ex ey
  obtain ⟨builder, number⟩ := hx l.builder l.number l ⟨rfl, rfl⟩
  obtain ⟨builder', number'⟩ := hy l'.builder l'.number l' ⟨rfl, rfl⟩
  rw [ex] at builder number
  rw [ey] at builder' number'
  refine ⟨trivial, ?_, number.trans (alike.number.trans number'.symm)⟩
  exact builder ▸ builder' ▸ alike.builder

theorem needChannel_isAt (b : Builder) (number : Nat) : needChannel.Maintains (IsAt b number) := by
  unfold needChannel build
  refine .bind (.within fun l h => h) fun _ => .bind .of_get fun l => ?_
  exact .ite (fun _ => .fail _) fun _ => .of_pure _

theorem onChannel_isAt (step : Exec Channel α) (b : Builder) (number : Nat) :
    (onChannel step).Maintains (IsAt b number) := by
  refine .bind (needChannel_isAt b number) fun _ l h => ?_
  rw [outcome_ofOutcome]
  cases l.channel <;> exact h

theorem send_isAt (step : (statement bindings : Value) → Exec Channel α) (text : String)
    (written : Properties) (b : Builder) (number : Nat) :
    (send step text written).Maintains (IsAt b number) := by
  refine .bind (needChannel_isAt b number) fun _ => .bind .of_get fun l => ?_
  exact .bind (.ofResult _) fun _ => onChannel_isAt _ b number

theorem select_keepAlike : KeepAlike select select := by
  have kept (b : Builder) (number : Nat) : select.Maintains (IsAt b number) :=
    .bind (needChannel_isAt b number) fun _ => .bind .of_get fun _ => .bind (.ofResult _) fun _ =>
      .bind (.ofResult _) fun _ => onChannel_isAt _ b number
  exact keepAlike_of_maintains kept kept

theorem send_keepAlike (step : (statement bindings : Value) → Exec Channel α)
    (step' : (statement bindings : Value) → Exec Channel β) (text text' : String)
    (written written' : Properties) :
    KeepAlike (send step text written) (send step' text' written') :=
  keepAlike_of_maintains (send_isAt step text written) (send_isAt step' text' written')

/-! ### Reads -/

theorem change_twin (f : Query → Query) : KeepAlike (change f) (change f) :=
  build_paired (Build.change_paired f)

theorem useUp_twin (v : Value) : InStep Alike Eq (useUp v) (useUp v) := build_paired (Build.useUp_blind v)

theorem fetchColumns_twin (own columns : Value) :
    InStep Alike Eq (fetchColumns own columns) (fetchColumns own columns) := by
  refine .ite (fun _ => .bind (useUp_twin columns) ?_) fun _ => .of_pure rfl
  rintro given _ rfl
  refine .bind (.same_result _) ?_
  rintro members _ rfl
  exact .of_pure rfl

theorem fetch_twin (columns : Value) : KeepAlike (fetch columns) (fetch columns) := by
  refine .bind .of_get fun l l' alike => ?_
  rw [alike.query_eq]
  refine .bind (fetchColumns_twin _ columns) ?_
  rintro chosen _ rfl
  refine .bind (change_twin _) fun _ _ _ => .bind (.ensuring select_keepAlike (change_twin _)) ?_
  exact fun _ _ _ => .bind .of_get fun _ _ _ => .ofResult .any

theorem fetchFirst_twin (columns : Value) : KeepAlike (fetchFirst columns) (fetchFirst columns) := by
  have limited : Build.KeepAlike (Build.limit (.int 1)) (Build.limit (.int 1)) :=
    Build.rowCount_paired _ _ _
  exact .bind (build_paired limited) fun _ _ _ => .bind (fetch_twin columns) fun _ _ _ => .of_pure trivial

theorem requireIdentity_twin {o o' : Operand} (h : o.Varies o') :
    KeepAlike (requireIdentity o) (requireIdentity o') :=
  build_paired (Build.filter_paired (.value _) (.some (.value _)) (.some h) _)

theorem bindPercentile_twin (h : v.isNull = v'.isNull) :
    InStep Alike Eq (bindPercentile v) (bindPercentile v') := by
  by_cases none : v.isNull = true
  · obtain rfl := Build.isNull_iff.mp none
    obtain rfl := Build.isNull_iff.mp (h ▸ none)
    exact .of_pure rfl
  have bound {v : Value} (given : ¬ v.isNull = true) : bindPercentile v =
      (do let x ← Exec.ofResult (Result.ofFailure v.toDouble)
          some <$> build (Build.bind "percentile" (.double x) .projection)) := by
    cases v <;> first | rfl | exact absurd rfl given
  rw [bound none, bound (h ▸ none)]
  refine .bind (.ofResult .any) fun x x' _ => ?_
  rw [← bind_pure_comp, ← bind_pure_comp]
  refine .bind (build_paired (Build.bind_paired _ _ _ _)) ?_
  rintro n _ rfl
  exact .of_pure rfl

theorem selectAggregate_twin (a : Aggregate) {c c' : Exec LiveQuery Unit} (h : KeepAlike c c') :
    KeepAlike (selectAggregate a c) (selectAggregate a c') := by
  have set (a : Option Aggregate) : KeepAlike (build (Build.setAggregate a)) (build (Build.setAggregate a)) :=
    change_twin _
  exact .bind (set _) fun _ _ _ => .ensuring select_keepAlike (.bind (set _) fun _ _ _ => h)

theorem aggregate_twin (function columns : Value) (h : v.isNull = v'.isNull) :
    KeepAlike (aggregate function columns v) (aggregate function columns v') := by
  refine .bind (build_paired (Build.ask_blind _ _)) fun _ _ _ => .bind .of_get fun l l' alike => ?_
  refine .bind (bindPercentile_twin h) ?_
  rintro binding _ rfl
  refine .bind (useUp_twin columns) ?_
  rintro used _ rfl
  refine .bind (.same_result _) ?_
  rintro given _ rfl
  refine .bind (.same_result _) ?_
  rintro function _ rfl
  have restored : Build.KeepAlike
      (modify fun b => { b with table := b.table.replace .projection l.builder.table.projections })
      (modify fun b => { b with table := b.table.replace .projection l'.builder.table.projections }) :=
    .of_modify fun b b' after => ⟨after.query,
      after.table.withBucket (alike.builder.table .projection) .projection, after.number, after.used⟩
  refine .bind (selectAggregate_twin _ (build_paired restored)) fun rows rows' _ => ?_
  -- what is made of the rows changes nothing
  refine keepAlike_of_maintains (fun b number => ?_) fun b number => ?_
  all_goals
    refine .bind .of_get fun l => .ite (fun _ => .bind (.ofResult _) fun _ => .of_pure _) fun _ => ?_
    split
    · exact .of_pure _
    · exact .bind (.ofResult _) fun _ => .ofResult _

theorem countBy_twin (function : String) (columns : Value) :
    KeepAlike (countBy function columns) (countBy function columns) := by
  refine .bind (aggregate_twin _ columns rfl) fun v v' _ => .bind .of_get fun l l' alike => ?_
  rw [alike.query_eq]
  exact .ite (fun _ => .of_pure trivial) fun _ => .bind (.ofResult .any) fun _ _ _ => .of_pure trivial

/-- Contents that have been taken out, and which are put back. -/
theorem restore_alike {kept kept' : Snapshot}
    (h : List.Forall₂ (fun p p' => p.1 = p'.1 ∧ SameNames p.2 p'.2) kept kept')
    {t t' : BindingTable} (tables : t.Alike t') : (t.restore kept).Alike (t'.restore kept') := by
  induction h generalizing t t' with
  | nil => exact tables
  | @cons p p' _ _ same _ ih =>
      obtain ⟨b, row⟩ := p
      obtain ⟨b', row'⟩ := p'
      obtain ⟨rfl, same⟩ := same
      exact ih (tables.withBucket same b)

theorem takeShape_twin : InStep Alike
    (List.Forall₂ fun p p' => p.1 = p'.1 ∧ SameNames p.2 p'.2) takeShape takeShape := by
  refine .bind (build_paired (Build.ask_blind _ _)) fun _ _ _ => .bind .of_get fun l l' alike => ?_
  have emptied : Build.KeepAlike
      (modify fun b => { b with table := shapeBuckets.foldl (·.clear ·) b.table })
      (modify fun b => { b with table := shapeBuckets.foldl (·.clear ·) b.table }) :=
    .of_modify fun b b' before => ⟨before.query,
      (before.table.withBucket (.refl []) .ordering).withBucket (.refl []) .projection,
        before.number, before.used⟩
  refine .bind (build_paired emptied) fun _ _ _ => .of_pure ?_
  exact .cons ⟨rfl, alike.builder.table .ordering⟩ (.cons ⟨rfl, alike.builder.table .projection⟩ .nil)

theorem total_twin (columns : Value) : KeepAlike (total columns) (total columns) := by
  refine .bind .of_get fun l l' alike => .bind takeShape_twin fun kept kept' same => ?_
  refine .bind (change_twin _) fun _ _ _ => .bind (useUp_twin columns) ?_
  rintro used _ rfl
  refine .bind (.same_result _) ?_
  rintro given _ rfl
  rw [alike.query_eq]
  have restored : Build.KeepAlike (modify fun b => { b with table := b.table.restore kept })
      (modify fun b => { b with table := b.table.restore kept' }) :=
    .of_modify fun b b' after => ⟨after.query, restore_alike same after.table, after.number, after.used⟩
  refine .bind (selectAggregate_twin _ (.bind (change_twin _) fun _ _ _ => build_paired restored)) ?_
  exact fun _ _ _ => .ofResult .any

/-! ### Writes -/

theorem insert_twin (h : v.TwinRecords v') : KeepAlike (insert v) (insert v') := by
  unfold insert
  rw [h.isTruthy_eq]
  refine .ite (fun _ => ?_) fun _ => .of_pure trivial
  refine .bind (build_paired (Build.useUp_paired h.drains_eq)) fun _ _ _ => .bind .of_get ?_
  refine fun l l' _ => .bind (.ofResult .any) fun _ _ _ => ?_
  exact (send_keepAlike _ _ _ _ _ _).discard

theorem insertOne_isAt (v : Value) (b : Builder) (number : Nat) :
    (insertOne v).Maintains (IsAt b number) := by
  refine .bind .of_get fun l => .bind (.ofResult _) fun _ => .bind (send_isAt _ _ _ b number) ?_
  intro rows
  split
  · exact .of_pure _
  · exact .ofResult _

theorem update_isAt {es : List (Value × Value)} (e : v.entries? = some es) (b : Builder)
    (number : Nat) : (update v).Maintains (IsAt b number) := by
  refine .bind (.ofResult _) fun hasIdentity => ?_
  -- a map is no stream
  cases v <;> cases e
  all_goals
    dsimp only
    refine .ite (fun _ => .bind (.fail _) fun _ => ?_) fun _ => ?_
    all_goals
      refine .ite (fun _ => .of_pure _) fun _ => .bind .of_get fun l => ?_
      exact .bind (.ofResult _) fun _ => send_isAt _ _ _ b number

theorem createWith_isAt (v related : Value) (b : Builder) (number : Nat) :
    (createWith v related).Maintains (IsAt b number) :=
  .bind .of_get fun _ => .bind (.ofResult _) fun _ => .bind (send_isAt _ _ _ b number) fun _ =>
    .bind (.ofResult _) fun _ => .of_pure _

theorem delete_twin {o o' : Operand} (h : o.Varies o') : KeepAlike (delete o) (delete o') := by
  have sent : KeepAlike
      (do needGrammar; let l ← get; let text ← Exec.ofResult (deleteText l.query)
          send Channel.affecting text [])
      (do needGrammar; let l ← get; let text ← Exec.ofResult (deleteText l.query)
          send Channel.affecting text []) := by
    refine .bind (build_paired (Build.ask_blind _ _)) fun _ _ _ => .bind .of_get fun l l' _ => ?_
    exact .bind (.ofResult .any) fun _ _ _ => send_keepAlike _ _ _ _ _ _
  unfold delete
  rw [h.isNull_eq]
  exact .ite (fun _ => .bind (requireIdentity_twin h) fun _ _ _ => sent) fun _ => sent

theorem relabel_twin (labels operation : Value) :
    KeepAlike (relabel labels operation) (relabel labels operation) := by
  refine .bind (.ofResult .any) fun _ _ _ => .bind (build_paired (Build.readLabels_blind labels)) ?_
  refine fun _ _ _ => .bind .of_get fun l l' _ => .bind (.ofResult .any) fun _ _ _ => ?_
  exact (send_keepAlike _ _ _ _ _ _).bind fun _ _ _ => .of_pure trivial

end LiveQuery

open LiveQuery in
/-- Live queries that are alike are alike after uses that differ in values alone. -/
theorem Use.Twin.run {u u' : Use} (h : u.Twin u') : LiveQuery.KeepAlike u.run u'.run := by
  have answered {α β : Type} {x y : Exec LiveQuery α} (h : LiveQuery.KeepAlike x y) (f g : α → β) :
      LiveQuery.KeepAlike (x >>= fun a => pure (f a)) (y >>= fun a => pure (g a)) :=
    .bind h fun _ _ _ => .of_pure trivial
  cases h with
  | fetch columns => exact fetch_twin columns
  | fetchFirst columns => exact fetchFirst_twin columns
  | fetchById columns h => exact .bind (requireIdentity_twin h) fun _ _ _ => fetchFirst_twin columns
  | fetchValue column => exact answered (fetchFirst_twin _) _ _
  | fetchColumn column => exact answered (fetch_twin _) _ _
  | aggregate function columns h => exact aggregate_twin function columns h
  | count columns => exact countBy_twin _ columns
  | countDistinct columns => exact countBy_twin _ columns
  | sum column | collect column => exact answered (aggregate_twin _ _ rfl) _ _
  | hasRows => exact .bind (countBy_twin _ _) fun _ _ _ => .ofResult .any
  | total columns => exact total_twin columns
  | insert h => exact insert_twin h
  | insertOne => exact keepAlike_of_maintains (insertOne_isAt _) (insertOne_isAt _)
  | update h =>
      obtain ⟨es, es', e, e', -⟩ := h
      exact keepAlike_of_maintains (update_isAt e) (update_isAt e')
  | delete => exact delete_twin (.alike (.value .null))
  | deleteOne h => exact delete_twin (.value h)
  | relabel labels operation => exact relabel_twin labels operation
  | createWith => exact keepAlike_of_maintains (createWith_isAt _ _) (createWith_isAt _ _)

end GraphQuery
