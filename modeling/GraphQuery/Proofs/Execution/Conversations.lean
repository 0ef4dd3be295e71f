import GraphQuery.Proofs.Execution.Uses
import GraphQuery.Proofs.Session.Statements
import Mathlib.Tactic.Choose

/-! # What a builder says to its connection

A builder that is used touches its connection by statements alone, one after another, and goes on by how
each of them ended.  So a use of a builder is a `Talk`, a tree with one statement at each node, whatever
the connection is (`Use.converses`); it is built up by the rules of `LiveQuery.Converses`.

What every statement keeps of a connection, every use keeps (`Use.maintains`). -/

namespace GraphQuery

/-- What a builder says to its connection: a statement, with what is said next by how it ended, or nothing
any more.  At the end there is a result, and the builder as it is left. -/
inductive Talk (α : Type) where
  | done (r : Result α) (l : LiveQuery)
  | ask (s : Statement) (next : Result s.Answer → Talk α)

variable {α β : Type}

/-- A builder on a connection. -/
def LiveQuery.on (l : LiveQuery) (c : Channel) : LiveQuery := { l with channel := some c }

namespace Talk

/-- What is said to a connection, up to the end. -/
def outcomeOn : Talk α → Channel → Result α × LiveQuery
  | done r l, c => (r, l.on c)
  | ask s next, c => (next (s.run.outcome c).1).outcomeOn (s.run.outcome c).2

/-- One talk behind another. -/
def andThen : Talk α → (Result α → LiveQuery → Talk β) → Talk β
  | done r l, next => next r l
  | ask s answer, next => ask s fun r => (answer r).andThen next

theorem outcomeOn_andThen (next : Result α → LiveQuery → Talk β)
    (f : Result α → LiveQuery → Result β × LiveQuery)
    (h : ∀ r l c, f r (l.on c) = (next r l).outcomeOn c) : ∀ (t : Talk α) (c : Channel),
      f (t.outcomeOn c).1 (t.outcomeOn c).2 = (t.andThen next).outcomeOn c
  | done r l, c => h r l c
  | ask _ answer, _ => outcomeOn_andThen next f h (answer _) _

theorem outcomeOn_maintains {inv : Channel → Prop} (each : ∀ s : Statement, s.run.Maintains inv) :
    ∀ (t : Talk α) {c : Channel}, inv c → ∃ c', (t.outcomeOn c).2.channel = some c' ∧ inv c'
  | done _ _, c, h => ⟨c, rfl, h⟩
  | ask s answer, c, h => (answer _).outcomeOn_maintains each (each s c h)

end Talk

namespace LiveQuery

/-- On any connection the step is the same talk, from each builder its own. -/
def Converses (step : Exec LiveQuery α) : Prop :=
  ∀ l, ∃ t : Talk α, ∀ c, step.outcome (on l c) = t.outcomeOn c

namespace Converses

theorem ofResult (r : Result α) : Converses (Exec.ofResult r) := fun l => ⟨.done r l, fun _ => rfl⟩

theorem of_pure (a : α) : Converses (pure a) := ofResult (.ok a)

theorem fail (e : Error) : Converses (Exec.fail e : Exec LiveQuery α) := ofResult (.error e)

theorem attempt_bind {x : Exec LiveQuery α} {f : Result α → Exec LiveQuery β} (h : Converses x)
    (next : ∀ r, Converses (f r)) : Converses (x.attempt >>= f) := by
  intro l
  obtain ⟨t, same⟩ := h l
  choose answer answers using fun r l => next r l
  refine ⟨t.andThen answer, fun c => ?_⟩
  rw [← Talk.outcomeOn_andThen answer (fun r l => (f r).outcome l) answers, Exec.outcome_bind,
    Exec.outcome_attempt, same]

theorem bind {x : Exec LiveQuery α} {f : α → Exec LiveQuery β} (h : Converses x)
    (next : ∀ a, Converses (f a)) : Converses (x >>= f) := by
  have tried : Converses (x.attempt >>= fun r => Exec.ofResult r >>= f) := by
    refine h.attempt_bind fun r => ?_
    cases r with
    | ok a => exact next a
    | error e => exact fail e
  intro l
  obtain ⟨t, same⟩ := tried l
  refine ⟨t, fun c => ?_⟩
  rw [← same, Exec.outcome_bind, Exec.outcome_bind, Exec.outcome_attempt]
  cases x.outcome (on l c) with
  | mk r s => cases r <;> rfl

theorem ensuring {x : Exec LiveQuery α} {cleanUp : Exec LiveQuery Unit} (h : Converses x)
    (last : Converses cleanUp) : Converses (x.ensuring cleanUp) :=
  h.attempt_bind fun r => last.bind fun _ => ofResult r

theorem discard {x : Exec LiveQuery α} (h : Converses x) : Converses (Functor.discard x) := by
  have same : (Functor.discard x : Exec LiveQuery PUnit) = x >>= fun _ => pure ⟨⟩ :=
    (bind_pure_comp _ x).symm
  rw [same]
  exact h.bind fun _ => of_pure _

theorem ite {p : Prop} [Decidable p] {x y : Exec LiveQuery α} (pos : p → Converses x)
    (neg : ¬ p → Converses y) : Converses (if p then x else y) := by
  split
  · exact pos ‹_›
  · exact neg ‹_›

/-- Reading the builder: what is done with it does not depend on the connection. -/
theorem get_bind {f : LiveQuery → Exec LiveQuery α} (blind : ∀ l c, f (on l c) = f l)
    (next : ∀ l, Converses (f l)) : Converses (get >>= f) := by
  intro l
  obtain ⟨t, same⟩ := next l l
  refine ⟨t, fun c => ?_⟩
  rw [← same, ← blind l c]
  rfl

end Converses

theorem build_converses (step : Build α) : Converses (build step) := fun l =>
  ⟨.done (step.outcome l.builder).1 { l with builder := (step.outcome l.builder).2 }, fun _ => rfl⟩

theorem needChannel_converses : Converses needChannel :=
  (build_converses _).bind fun _ l => ⟨.done (.ok ()) l, fun _ => rfl⟩

theorem onChannel_converses (s : Statement) : Converses (onChannel s.run) :=
  needChannel_converses.bind fun _ l => ⟨.ask s fun r => .done r l, fun _ => rfl⟩

theorem select_converses : Converses select := by
  unfold select
  refine needChannel_converses.bind fun _ => .get_bind (fun _ _ => rfl) fun l => ?_
  refine (Converses.ofResult _).bind fun text => (Converses.ofResult _).bind fun parameters => ?_
  exact onChannel_converses (.select (.text text) (.ofPairs parameters))

/-! ### Reading -/

theorem fetch_converses (columns : Value) : Converses (fetch columns) := by
  have chosen (own : Value) : Converses (fetchColumns own columns) := by
    unfold fetchColumns
    split
    · exact (build_converses _).bind fun _ => (Converses.ofResult _).bind fun _ => .of_pure _
    · exact .of_pure _
  unfold fetch
  refine .get_bind (fun _ _ => rfl) fun l => (chosen _).bind fun _ => (build_converses _).bind fun _ => ?_
  refine (select_converses.ensuring (build_converses _)).bind fun _ => ?_
  exact .get_bind (fun _ _ => rfl) fun _ => .ofResult _

theorem fetchFirst_converses (columns : Value) : Converses (fetchFirst columns) :=
  (build_converses _).bind fun _ => (fetch_converses columns).bind fun _ => .of_pure _

theorem fetchById_converses (id : Operand) (columns : Value) : Converses (fetchById id columns) :=
  (build_converses _).bind fun _ => fetchFirst_converses columns

theorem selectAggregate_converses (a : Aggregate) {cleanUp : Exec LiveQuery Unit}
    (h : Converses cleanUp) : Converses (selectAggregate a cleanUp) :=
  (build_converses _).bind fun _ =>
    select_converses.ensuring ((build_converses _).bind fun _ => h)

theorem aggregate_converses (function columns percentile : Value) :
    Converses (aggregate function columns percentile) := by
  have bound : Converses (bindPercentile percentile) := by
    unfold bindPercentile
    split
    · exact .of_pure _
    · exact (Converses.ofResult _).bind fun _ => (build_converses _).bind fun _ => .of_pure _
  unfold aggregate
  refine (build_converses _).bind fun _ => .get_bind (fun _ _ => rfl) fun l => bound.bind fun _ => ?_
  refine (build_converses _).bind fun _ => (Converses.ofResult _).bind fun _ => ?_
  refine (Converses.ofResult _).bind fun _ => ?_
  refine (selectAggregate_converses _ (build_converses _)).bind fun rows => ?_
  refine .get_bind (fun _ _ => rfl) fun l => ?_
  split
  · exact (Converses.ofResult _).bind fun _ => .of_pure _
  · split
    · exact .of_pure _
    · exact (Converses.ofResult _).bind fun _ => .ofResult _

theorem countBy_converses (function : String) (columns : Value) :
    Converses (countBy function columns) := by
  unfold countBy
  refine (aggregate_converses _ _ _).bind fun v => .get_bind (fun _ _ => rfl) fun l => ?_
  split
  · exact .of_pure _
  · exact (Converses.ofResult _).bind fun _ => .of_pure _

theorem total_converses (columns : Value) : Converses (total columns) := by
  have shape : Converses takeShape := by
    unfold takeShape
    exact (build_converses _).bind fun _ => .get_bind (fun _ _ => rfl) fun _ =>
      (build_converses _).bind fun _ => .of_pure _
  unfold total
  refine .get_bind (fun _ _ => rfl) fun l => shape.bind fun kept => (build_converses _).bind fun _ => ?_
  refine (build_converses _).bind fun _ => (Converses.ofResult _).bind fun _ => ?_
  refine (selectAggregate_converses _ ?_).bind fun _ => .ofResult _
  exact (build_converses _).bind fun _ => build_converses _

theorem paginate_converses (perPage number columns : Value) :
    Converses (paginate perPage number columns) := by
  unfold paginate
  refine (total_converses _).bind fun n => ?_
  dsimp only
  split
  · exact (Converses.of_pure _).bind fun _ => .ofResult _
  · exact (build_converses _).bind fun _ => (fetch_converses _).bind fun _ => .ofResult _

/-! ### Writing -/

theorem send_converses {step : (statement bindings : Value) → Exec Channel α}
    (h : ∀ text bindings, Converses (onChannel (step text bindings))) (text : String)
    (written : Properties) : Converses (send step text written) := by
  unfold send
  refine needChannel_converses.bind fun _ => .get_bind (fun _ _ => rfl) fun l => ?_
  exact (Converses.ofResult _).bind fun bindings => h _ _

theorem send_insert_converses (text : String) (written : Properties) :
    Converses (send Channel.insert text written) :=
  send_converses (fun text bindings => onChannel_converses (.insert text bindings)) text written

theorem send_affecting_converses (text : String) (written : Properties) :
    Converses (send Channel.affecting text written) :=
  send_converses (fun text bindings => onChannel_converses (.affecting text bindings)) text written

theorem insert_converses (values : Value) : Converses (insert values) := by
  unfold insert
  split
  · refine (build_converses _).bind fun _ => .get_bind (fun _ _ => rfl) fun l => ?_
    exact (Converses.ofResult _).bind fun _ => (send_insert_converses _ _).discard
  · exact .of_pure _

theorem insertOne_converses (values : Value) : Converses (insertOne values) := by
  unfold insertOne
  refine .get_bind (fun _ _ => rfl) fun l => (Converses.ofResult _).bind fun _ => ?_
  refine (send_insert_converses _ _).bind fun rows => ?_
  split
  · exact .of_pure _
  · exact .ofResult _

theorem update_converses (values : Value) : Converses (update values) := by
  unfold update
  refine (Converses.ofResult _).bind fun hasIdentity => ?_
  dsimp only
  split
  case' h_1 => refine (build_converses _).bind fun _ => ?_
  -- what follows is the same for every kind of value
  all_goals
    refine .ite (fun _ => (Converses.fail _).bind fun _ => ?_) fun _ => ?_
    all_goals
      refine .ite (fun _ => .of_pure _) fun _ => .get_bind (fun _ _ => rfl) fun l => ?_
      exact (Converses.ofResult _).bind fun _ => send_affecting_converses _ _

theorem delete_converses (id : Operand) : Converses (delete id) := by
  unfold delete
  dsimp only
  split
  case' isTrue => refine (build_converses _).bind fun _ => ?_
  all_goals
    refine (build_converses _).bind fun _ => .get_bind (fun _ _ => rfl) fun l => ?_
    exact (Converses.ofResult _).bind fun _ => send_affecting_converses _ _

theorem relabel_converses (labels operation : Value) : Converses (relabel labels operation) := by
  unfold relabel
  refine (Converses.ofResult _).bind fun _ => (build_converses _).bind fun _ => ?_
  refine .get_bind (fun _ _ => rfl) fun l => (Converses.ofResult _).bind fun _ => ?_
  exact (send_affecting_converses _ _).bind fun _ => .of_pure _

theorem createWith_converses (values related : Value) : Converses (createWith values related) := by
  unfold createWith
  refine .get_bind (fun _ _ => rfl) fun l => (Converses.ofResult _).bind fun _ => ?_
  refine (send_insert_converses _ _).bind fun _ => ?_
  exact (Converses.ofResult _).bind fun _ => .of_pure _

theorem createEntity_converses (c : EntityClass) (e : Entity) : Converses (createEntity c e) := by
  unfold createEntity
  refine .get_bind (fun _ _ => rfl) fun l => (build_converses _).bind fun _ => ?_
  exact (Converses.ofResult _).bind fun _ => (insertOne_converses _).bind fun _ => .ofResult _

theorem fetchEntity_converses (c : EntityClass) (id : Operand) : Converses (fetchEntity c id) := by
  unfold fetchEntity
  exact .get_bind (fun _ _ => rfl) fun _ => (build_converses _).bind fun _ => fetchById_converses _ _

end LiveQuery

theorem Use.converses (q : Use) : LiveQuery.Converses q.run := by
  cases q with
  | fetch => exact LiveQuery.fetch_converses _
  | fetchFirst => exact LiveQuery.fetchFirst_converses _
  | fetchById => exact LiveQuery.fetchById_converses _ _
  | fetchValue => exact (LiveQuery.fetchFirst_converses _).bind fun _ => .of_pure _
  | fetchColumn => exact (LiveQuery.fetch_converses _).bind fun _ => .of_pure _
  | aggregate => exact LiveQuery.aggregate_converses _ _ _
  | count | countDistinct => exact LiveQuery.countBy_converses _ _
  | sum | collect => exact (LiveQuery.aggregate_converses _ _ _).bind fun _ => .of_pure _
  | hasRows => exact (LiveQuery.countBy_converses _ _).bind fun _ => .ofResult _
  | total => exact LiveQuery.total_converses _
  | paginate => exact LiveQuery.paginate_converses _ _ _
  | insert => exact LiveQuery.insert_converses _
  | insertOne => exact LiveQuery.insertOne_converses _
  | update => exact LiveQuery.update_converses _
  | delete => exact LiveQuery.delete_converses _
  | relabel => exact LiveQuery.relabel_converses _ _
  | createWith => exact LiveQuery.createWith_converses _ _
  | createEntity => exact LiveQuery.createEntity_converses _ _
  | fetchEntity => exact LiveQuery.fetchEntity_converses _ _

/-- What every statement keeps of a connection, every use of a builder on it keeps. -/
theorem Use.maintains {inv : Channel → Prop} (each : ∀ s : Statement, s.run.Maintains inv) (q : Use)
    (l : LiveQuery) {c : Channel} (h : inv c) :
    ∃ c', (q.run.outcome (l.on c)).2.channel = some c' ∧ inv c' := by
  obtain ⟨t, same⟩ := q.converses l
  rw [same]
  exact t.outcomeOn_maintains each h

end GraphQuery
