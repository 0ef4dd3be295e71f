import GraphQuery.Proofs.Builder.KeptTargets
import GraphQuery.Proofs.Execution.Readings
import GraphQuery.Proofs.Execution.Uses
import GraphQuery.Proofs.Record.RowRecords

/-! # The class that nodes become entities of

The labels of a query are what it matches, and the class of a query is what its nodes become entities
of.  A target that is an entity class sets both, any other one the labels alone.  The class is set before
the labels are read, so it stays when they are refused.  The class is that of the last target that was a
class, and the labels are the last ones that could be read, wherever they came from.

* `Move` : what a caller does with a builder, which may fail: a call, or a statement that is run;
* `Move.run_aims` : what one move makes of the class and of the labels;
* `LiveQuery.afterMoves_aims` : what a sequence of moves makes of them;
* `LiveQuery.afterMoves_hydrates` : what the nodes become that are fetched then. -/

namespace GraphQuery

open GraphQuery.Binding GraphQuery.Cypher GraphQuery.Schema Exec

namespace LiveQuery

variable {α β : Type} {r : Registry} {entity labels : Value}

/-- A live query with this class and these labels, which finds its classes in this registry. -/
structure Aims (r : Registry) (entity labels : Value) (l : LiveQuery) : Prop where
  registry : l.registry = r
  target : l.query.HasTarget entity labels

/-- The class and the labels stay, however the step ends. -/
abbrev KeepsAim (r : Registry) (entity labels : Value) (step : Exec LiveQuery α) : Prop :=
  step.Maintains (Aims r entity labels)

theorem Aims.refl (l : LiveQuery) : l.Aims l.registry l.query.entity l.query.labels := ⟨rfl, rfl, rfl⟩

theorem build_keepsAim {step : Build α} (h : step.KeepsTarget entity labels) :
    KeepsAim r entity labels (build step) :=
  .within fun l aims => ⟨aims.registry, h l.builder aims.target⟩

theorem change_keepsAim {f : Query → Query} (h : ∀ q : Query, (f q).HasTarget q.entity q.labels) :
    KeepsAim r entity labels (change f) := build_keepsAim (Build.change_keepsTarget h)

theorem modify_keepsAim {f : Builder → Builder} (h : ∀ b : Builder, (f b).query = b.query) :
    KeepsAim r entity labels (build (modify f)) :=
  build_keepsAim fun b kept => by
    show Query.HasTarget entity labels (f b).query
    rw [h b]
    exact kept

theorem useUp_keepsAim (v : Value) : KeepsAim r entity labels (useUp v) :=
  build_keepsAim Build.useUp_keepsQuery

theorem ask_keepsAim (part : QueryPart) (name : String) :
    KeepsAim r entity labels (build (Build.ask part name)) := build_keepsAim Build.ask_keepsQuery

theorem keepsAim_of_stays {step : Exec LiveQuery α} (h : ∀ l, step.Maintains (Stays l)) :
    KeepsAim r entity labels step := by
  intro l aims
  obtain ⟨channel, same⟩ := h l l (.refl l)
  rw [same]
  exact ⟨aims.registry, aims.target⟩

theorem select_keepsAim : KeepsAim r entity labels select := keepsAim_of_stays fun _ => select_stays

/-! ### Reading -/

theorem fetchColumns_keepsAim (own columns : Value) :
    KeepsAim r entity labels (fetchColumns own columns) :=
  .ite (fun _ => .bind (useUp_keepsAim columns) fun _ => .bind (.ofResult _) fun _ => .of_pure _)
    fun _ => .of_pure _

theorem fetch_keepsAim (columns : Value) : KeepsAim r entity labels (fetch columns) := by
  refine .bind .of_get fun l => .bind (fetchColumns_keepsAim _ columns) fun _ => ?_
  refine .bind (change_keepsAim fun _ => ⟨rfl, rfl⟩) fun _ => ?_
  refine .bind (select_keepsAim.ensuring (change_keepsAim fun _ => ⟨rfl, rfl⟩)) fun _ => ?_
  exact .bind .of_get fun _ => .ofResult _

theorem fetchFirst_keepsAim (columns : Value) : KeepsAim r entity labels (fetchFirst columns) :=
  .bind (build_keepsAim (Build.limit_keepsTarget _)) fun _ => .bind (fetch_keepsAim columns) fun _ =>
    .of_pure _

theorem requireIdentity_keepsAim (id : Operand) : KeepsAim r entity labels (requireIdentity id) :=
  build_keepsAim (Build.filter_keepsTarget _ _ _ _)

theorem fetchById_keepsAim (id : Operand) (columns : Value) :
    KeepsAim r entity labels (fetchById id columns) :=
  .bind (requireIdentity_keepsAim id) fun _ => fetchFirst_keepsAim columns

theorem selectAggregate_keepsAim (a : Aggregate) {cleanUp : Exec LiveQuery Unit}
    (last : KeepsAim r entity labels cleanUp) :
    KeepsAim r entity labels (selectAggregate a cleanUp) :=
  .bind (build_keepsAim (Build.change_keepsTarget fun _ => ⟨rfl, rfl⟩)) fun _ =>
    .ensuring select_keepsAim (.bind (build_keepsAim (Build.change_keepsTarget fun _ => ⟨rfl, rfl⟩))
      fun _ => last)

theorem bindPercentile_keepsAim (percentile : Value) :
    KeepsAim r entity labels (bindPercentile percentile) := by
  unfold bindPercentile
  split
  · exact .of_pure _
  · refine .bind (.ofResult _) fun x => ?_
    rw [← bind_pure_comp]
    exact .bind (build_keepsAim (Build.bind_keepsQuery _ _ _)) fun _ => .of_pure _

theorem aggregate_keepsAim (function columns percentile : Value) :
    KeepsAim r entity labels (aggregate function columns percentile) := by
  refine .bind (ask_keepsAim .bindings "bucket") fun _ => .bind .of_get fun l => ?_
  refine .bind (bindPercentile_keepsAim percentile) fun _ => .bind (useUp_keepsAim columns) fun _ => ?_
  refine .bind (.ofResult _) fun _ => .bind (.ofResult _) fun _ => ?_
  refine .bind (selectAggregate_keepsAim _ (modify_keepsAim fun _ => rfl)) fun rows => ?_
  refine .bind .of_get fun l => .ite (fun _ => .bind (.ofResult _) fun _ => .of_pure _) fun _ => ?_
  split
  · exact .of_pure _
  · exact .bind (.ofResult _) fun _ => .ofResult _

theorem countBy_keepsAim (function : String) (columns : Value) :
    KeepsAim r entity labels (countBy function columns) :=
  .bind (aggregate_keepsAim _ columns _) fun _ => .bind .of_get fun _ =>
    .ite (fun _ => .of_pure _) fun _ => .bind (.ofResult _) fun _ => .of_pure _

theorem total_keepsAim (columns : Value) : KeepsAim r entity labels (total columns) := by
  have shape : KeepsAim r entity labels takeShape :=
    .bind (ask_keepsAim .bindings "backup") fun _ => .bind .of_get fun l =>
      .bind (modify_keepsAim fun _ => rfl) fun _ => .of_pure _
  refine .bind .of_get fun l => .bind shape fun kept => ?_
  refine .bind (change_keepsAim fun _ => ⟨rfl, rfl⟩) fun _ => .bind (useUp_keepsAim columns) fun _ => ?_
  refine .bind (.ofResult _) fun given => .bind (selectAggregate_keepsAim _ ?_) fun _ => .ofResult _
  exact .bind (change_keepsAim fun _ => ⟨rfl, rfl⟩) fun _ => modify_keepsAim fun _ => rfl

theorem paginate_keepsAim (perPage number columns : Value) :
    KeepsAim r entity labels (paginate perPage number columns) := by
  refine .bind (total_keepsAim _) fun n => ?_
  refine .ite (fun _ => .bind (.of_pure _) fun _ => .ofResult _) fun _ => ?_
  refine .bind (build_keepsAim (Build.page_keepsTarget number perPage)) fun _ => ?_
  exact .bind (fetch_keepsAim columns) fun _ => .ofResult _

/-! ### Writing -/

theorem send_keepsAim (step : (statement bindings : Value) → Exec Channel α) (text : String)
    (written : Properties) : KeepsAim r entity labels (send step text written) :=
  keepsAim_of_stays fun _ => needChannel_stays.bind fun _ => .bind .of_get fun _ =>
    .bind (.ofResult _) fun _ => onChannel_stays

theorem insert_keepsAim (values : Value) : KeepsAim r entity labels (insert values) :=
  .ite (fun _ => .bind (useUp_keepsAim values) fun _ => .bind .of_get fun _ =>
    .bind (.ofResult _) fun _ => .discard (send_keepsAim _ _ _)) fun _ => .of_pure _

theorem insertOne_keepsAim (values : Value) : KeepsAim r entity labels (insertOne values) := by
  refine .bind .of_get fun l => .bind (.ofResult _) fun w => .bind (send_keepsAim _ w.1 w.2) fun rows => ?_
  split
  · exact .of_pure _
  · exact .ofResult _

theorem update_keepsAim (values : Value) : KeepsAim r entity labels (update values) := by
  have rest (hasIdentity : Bool) : KeepsAim r entity labels (do
      if hasIdentity then Exec.fail (.builder .identityUpdate)
      if !values.isTruthy then return 0
      let written ← Exec.ofResult ((← get).updateStatement values)
      send Channel.affecting written.1 written.2 : Exec LiveQuery Int) := by
    have sent : KeepsAim r entity labels (do
        if !values.isTruthy then return 0
        let written ← Exec.ofResult ((← get).updateStatement values)
        send Channel.affecting written.1 written.2 : Exec LiveQuery Int) :=
      .ite (fun _ => .of_pure _) fun _ => .bind .of_get fun l => .bind (.ofResult _) fun w =>
        send_keepsAim _ w.1 w.2
    exact .ite (fun _ => .bind (.fail _) fun _ => sent) fun _ => sent
  refine .bind (.ofResult _) fun hasIdentity => ?_
  dsimp only
  split
  · exact .bind (build_keepsAim fun b kept => kept) fun _ => rest hasIdentity
  · exact rest hasIdentity

theorem delete_keepsAim (id : Operand) : KeepsAim r entity labels (delete id) := by
  have rest : KeepsAim r entity labels (do
      needGrammar
      let l ← get
      let text ← Exec.ofResult (deleteText l.query)
      send Channel.affecting text [] : Exec LiveQuery Int) :=
    .bind (ask_keepsAim .grammar writerName) fun _ => .bind .of_get fun l => .bind (.ofResult _) fun _ =>
      send_keepsAim _ _ _
  exact .ite (fun _ => .bind (requireIdentity_keepsAim id) fun _ => rest) fun _ => rest

theorem relabel_keepsAim (given operation : Value) :
    KeepsAim r entity labels (relabel given operation) := by
  have read : (Build.readLabels given).KeepsTarget entity labels := fun b kept => by
    obtain ⟨used, ran⟩ := Build.readLabels_outcome given b
    rw [ran]
    exact kept
  refine .bind (.ofResult _) fun _ => .bind (build_keepsAim read) fun _ => .bind .of_get fun l => ?_
  exact .bind (.ofResult _) fun _ => .bind (send_keepsAim _ _ _) fun _ => .of_pure _

theorem createWith_keepsAim (values related : Value) :
    KeepsAim r entity labels (createWith values related) :=
  .bind .of_get fun _ => .bind (.ofResult _) fun w => .bind (send_keepsAim _ w.1 w.2) fun _ =>
    .bind (.ofResult _) fun _ => .of_pure _

end LiveQuery

/-! ### Uses of a builder -/

/-- The target that a use gives to its builder first. -/
def Use.given? (l : LiveQuery) : Use → Option Value
  | .createEntity c _ | .fetchEntity c _ => some (.entityClass (l.registry.ref c))
  | _ => none

namespace LiveQuery

variable {l : LiveQuery} {α : Type}

theorem target_aims (l : LiveQuery) (given : Value) : ((build (Build.target given)).outcome l).2.Aims
    l.registry (Build.classAfter given l.query.entity)
      (Build.labelsAfter (Build.readable given l.builder) l.query.labels) :=
  ⟨rfl, Build.target_sets given l.builder⟩

theorem after_target (l : LiveQuery) (given : Value) {next : Unit → Exec LiveQuery α}
    (keeps : ∀ r entity labels, KeepsAim r entity labels (next ())) :
    ((build (Build.target given) >>= next).outcome l).2.Aims l.registry
      (Build.classAfter given l.query.entity)
      (Build.labelsAfter (Build.readable given l.builder) l.query.labels) := by
  have aims := target_aims l given
  rw [outcome_bind]
  cases ran : (build (Build.target given)).outcome l with
  | mk done l' =>
    rw [ran] at aims
    cases done with
    | ok _ => exact keeps _ _ _ l' aims
    | error _ => exact aims

end LiveQuery

theorem Use.run_keepsAim {u : Use} {l : LiveQuery} (none : u.given? l = none) {r : Registry}
    {entity labels : Value} : LiveQuery.KeepsAim r entity labels u.run := by
  cases u with
  | fetch columns => exact LiveQuery.fetch_keepsAim columns
  | fetchFirst columns => exact LiveQuery.fetchFirst_keepsAim columns
  | fetchById id columns => exact LiveQuery.fetchById_keepsAim id columns
  | fetchValue column => exact .bind (LiveQuery.fetchFirst_keepsAim _) fun _ => .of_pure _
  | fetchColumn column => exact .bind (LiveQuery.fetch_keepsAim _) fun _ => .of_pure _
  | aggregate function columns percentile =>
    exact LiveQuery.aggregate_keepsAim function columns percentile
  | count columns | countDistinct columns => exact LiveQuery.countBy_keepsAim _ columns
  | sum column | collect column => exact .bind (LiveQuery.aggregate_keepsAim _ _ _) fun _ => .of_pure _
  | hasRows => exact .bind (LiveQuery.countBy_keepsAim _ _) fun _ => .ofResult _
  | total columns => exact LiveQuery.total_keepsAim columns
  | paginate perPage number columns => exact LiveQuery.paginate_keepsAim perPage number columns
  | insert values => exact LiveQuery.insert_keepsAim values
  | insertOne values => exact LiveQuery.insertOne_keepsAim values
  | update values => exact LiveQuery.update_keepsAim values
  | delete id => exact LiveQuery.delete_keepsAim id
  | relabel given operation => exact LiveQuery.relabel_keepsAim given operation
  | createWith values related => exact LiveQuery.createWith_keepsAim values related
  | createEntity c e | fetchEntity c id => cases none

/-! ### Moves -/

/-- What a caller does with a builder: a step of building, or a statement that is run. -/
inductive Move where
  | call (c : Call)
  | use (u : Use)

namespace Move

/-- Makes the move. -/
def run : Move → Exec LiveQuery Unit
  | call c => LiveQuery.build c.run
  | use u => discard u.run

/-- The target that the move gives to the builder. -/
def given? (l : LiveQuery) : Move → Option Value
  | call (.target v) => some v
  | call _ => none
  | use u => u.given? l

/-- A move that gives a target sets the class if it is one, and the labels if they can be read. Any other
move keeps both. -/
theorem run_aims (m : Move) (l : LiveQuery) : (m.run.outcome l).2.Aims l.registry
    ((m.given? l).elim l.query.entity fun v => Build.classAfter v l.query.entity)
    ((m.given? l).elim l.query.labels fun v =>
      Build.labelsAfter (Build.readable v l.builder) l.query.labels) := by
  cases m with
  | call c =>
    by_cases targets : ∃ v, c = .target v
    · obtain ⟨v, rfl⟩ := targets
      exact LiveQuery.target_aims l v
    · have other (v : Value) : c ≠ .target v := fun same => targets ⟨v, same⟩
      have none : (call c).given? l = none := by
        cases c with
        | target v => exact absurd rfl (other v)
        | _ => rfl
      rw [none]
      exact LiveQuery.build_keepsAim (Build.call_keepsTarget other) l (.refl l)
  | use u =>
    cases found : u.given? l with
    | none =>
      have same : (use u).given? l = none := found
      rw [same]
      exact (Use.run_keepsAim found).discard l (.refl l)
    | some v =>
      have same : (use u).given? l = some v := found
      have last {α : Type} (step : Exec LiveQuery α) :
          ((discard step).outcome l).2 = (step.outcome l).2 := by
        rw [show (discard step : Exec LiveQuery Unit) = step >>= fun _ => pure ⟨⟩ from
          (bind_pure_comp _ step).symm, outcome_bind]
        cases step.outcome l with
        | mk r l' => cases r <;> rfl
      have start : (get : Exec LiveQuery LiveQuery).outcome l = (.ok l, l) := rfl
      rw [same, show (use u).run = discard u.run from rfl, last]
      cases u with
      | createEntity c e =>
        obtain rfl := Option.some.inj found
        rw [show (Use.createEntity c e).run = LiveQuery.createEntity c e from rfl]
        unfold LiveQuery.createEntity
        rw [outcome_bind_ok start]
        refine LiveQuery.after_target l (.entityClass (l.registry.ref c)) fun _ _ _ => ?_
        exact .bind (.ofResult _) fun _ => .bind (LiveQuery.insertOne_keepsAim _) fun _ => .ofResult _
      | fetchEntity c id =>
        obtain rfl := Option.some.inj found
        rw [show (Use.fetchEntity c id).run = LiveQuery.fetchEntity c id from rfl]
        unfold LiveQuery.fetchEntity
        rw [outcome_bind_ok start]
        refine LiveQuery.after_target l (.entityClass (l.registry.ref c)) fun _ _ _ => ?_
        exact LiveQuery.fetchById_keepsAim id _
      | _ => cases found

end Move

namespace LiveQuery

/-- Where moves lead one after another; one that fails stops nothing but itself. -/
def afterMoves (l : LiveQuery) (moves : List Move) : LiveQuery :=
  moves.foldl (fun l m => (m.run.outcome l).2) l

/-- The targets that moves give to a builder, each with what comes of reading its labels. -/
def targets : List Move → LiveQuery → List (Value × Result (List Value))
  | [], _ => []
  | m :: rest, l => ((m.given? l).map fun v => (v, Build.readable v l.builder)).toList ++
      targets rest (m.run.outcome l).2

end LiveQuery

/-- The last class among targets. -/
def lastClass? (given : List (Value × Result (List Value))) : Option (ClassRef Value) :=
  (given.filterMap fun t => t.1.classRef?).getLast?

/-- The last labels among targets that could be read. -/
def lastLabels? (given : List (Value × Result (List Value))) : Option (List Value) :=
  (given.filterMap fun t => t.2.toOption).getLast?

theorem getLast?_elim_append {α β : Type} (as bs : List α) (b : β) (f : α → β) :
    (as ++ bs).getLast?.elim b f = bs.getLast?.elim (as.getLast?.elim b f) f := by
  rw [List.getLast?_append]
  cases bs.getLast? <;> rfl

namespace LiveQuery

/-- The class of a query is the last one that was given, and its labels are the last ones that could be
read. -/
theorem afterMoves_aims : ∀ (moves : List Move) (l : LiveQuery), (l.afterMoves moves).Aims l.registry
    ((lastClass? (targets moves l)).elim l.query.entity .entityClass)
    ((lastLabels? (targets moves l)).elim l.query.labels .tuple)
  | [], l => .refl l
  | m :: rest, l => by
    have first := m.run_aims l
    have later := afterMoves_aims rest (m.run.outcome l).2
    rw [first.registry, first.target.1, first.target.2] at later
    refine ⟨later.registry, ?_⟩
    have classes : (lastClass? (targets (m :: rest) l)).elim l.query.entity .entityClass =
        (lastClass? (targets rest (m.run.outcome l).2)).elim
          ((m.given? l).elim l.query.entity fun v => Build.classAfter v l.query.entity) .entityClass := by
      unfold lastClass?
      rw [targets, List.filterMap_append, getLast?_elim_append]
      cases m.given? l with
      | none => rfl
      | some v =>
        unfold Build.classAfter
        cases found : v.classRef? <;> simp [found]
    have labels : (lastLabels? (targets (m :: rest) l)).elim l.query.labels .tuple =
        (lastLabels? (targets rest (m.run.outcome l).2)).elim
          ((m.given? l).elim l.query.labels fun v =>
            Build.labelsAfter (Build.readable v l.builder) l.query.labels) .tuple := by
      unfold lastLabels?
      rw [targets, List.filterMap_append, getLast?_elim_append]
      cases m.given? l with
      | none => rfl
      | some v =>
        unfold Build.labelsAfter
        cases read : (Build.readable v l.builder).toOption <;> simp [read]
    rw [classes, labels]
    exact later.target

theorem readable_of_mem_targets {t : Value × Result (List Value)} :
    ∀ {moves : List Move} {l : LiveQuery}, t ∈ targets moves l → ∃ b, t.2 = Build.readable t.1 b
  | [], _, h => absurd h List.not_mem_nil
  | m :: rest, l, h => by
    rcases List.mem_append.mp h with first | later
    · obtain ⟨v, -, rfl⟩ := Option.map_eq_some_iff.mp (Option.mem_toList.mp first)
      exact ⟨l.builder, rfl⟩
    · exact readable_of_mem_targets later

/-! ### What nodes become -/

/-- The live query with other columns, and with what is left of streams then. -/
def showing (l : LiveQuery) (columns : Value) (used : Remains) : LiveQuery :=
  { l with builder := { l.builder with query := { l.query with columns }, used } }

/-- A fetch makes its records of the rows of one select, by the class of the query. -/
theorem fetch_records (l : LiveQuery) (columns : Value) : (fetch columns).Ends l
    (fun out l' => ∃ shown used rows left node,
      select.outcome (l.showing shown used) = (.ok rows, left) ∧ l'.placeholder? = .ok node ∧
      l.registry.records (.ofText? node) l.query.entity (rows.map Channel.rowValue) = .ok out)
    fun _ => True := by
  have chosen : (fetchColumns l.query.columns columns).Ends l
      (fun _ l' => ∃ used, l' = { l with builder := { l.builder with used } }) fun _ => True := by
    unfold fetchColumns useUp build
    split
    · exact .bind (.within (Build.useUp_ends (.bind (.ofResult (fun vs _ => .of_pure ⟨_, rfl⟩) trivial))))
    · exact .of_pure ⟨_, rfl⟩
  unfold fetch
  refine .bind (.of_get (.bind (chosen.imp ?_ fun _ => id)))
  rintro shown _ ⟨used, rfl⟩
  refine .bind (change_ends (.bind (.ensuring ?_)))
  have aims : Aims l.registry l.query.entity l.query.labels
      (select.outcome (l.showing shown used)).2 := select_keepsAim _ ⟨rfl, rfl, rfl⟩
  cases ran : select.outcome (l.showing shown used) with | mk r left => ?_
  rw [ran] at aims
  refine .of_outcome ran (fun rows same => ?_) fun _ _ => change_ends trivial
  obtain rfl := same
  refine change_ends (.bind (.of_get (.ofResult (fun out made => ?_) trivial)))
  obtain ⟨node, named, made⟩ := Result.bind_eq_ok made
  refine ⟨shown, used, rows, left, node, ran, named, ?_⟩
  have own : left.registry.records (.ofText? node) left.query.entity (rows.map Channel.rowValue) =
      .ok out := made
  rwa [aims.registry, aims.target.1] at own

end LiveQuery

/-! ### Agreement -/

/-- The labels of the query are those of the class that its nodes become entities of. -/
def Query.Agrees (q : Query) : Prop := ∀ c, q.entity = .entityClass c →
  ∃ given, Build.labels (.entityClass c) = .ok given ∧ q.labels = .tuple given

/-- A target that is a class, with its labels. -/
def IsReadClass (t : Value × Result (List Value)) : Prop := ∃ c given, t = (.entityClass c, .ok given)

theorem labels_of_readable {c : ClassRef Value} {b : Builder} {given : List Value}
    (h : Build.readable (.entityClass c) b = .ok given) : Build.labels (.entityClass c) = .ok given :=
  (Result.bind_eq_ok h).choose_spec.2

/-- Among targets that are classes, the last labels are those of the last class. -/
theorem exists_last_of_isReadClass {ts : List (Value × Result (List Value))}
    (classes : ∀ t ∈ ts, IsReadClass t) : ts = [] ∨ ∃ c given, (.entityClass c, .ok given) ∈ ts ∧
      lastClass? ts = some c ∧ lastLabels? ts = some given := by
  rcases List.eq_nil_or_concat ts with rfl | ⟨front, t, rfl⟩
  · exact Or.inl rfl
  · obtain ⟨c, given, rfl⟩ := classes t (by simp)
    refine Or.inr ⟨c, given, by simp, ?_, ?_⟩
    · simp [lastClass?, Value.classRef?]
    · simp [lastLabels?, Except.toOption]

namespace LiveQuery

/-- Whatever a caller does, the nodes of a query become entities of the last class that was given to it,
and its labels are the last ones that could be read: the two agree if these belong together, as they do
when every target is a class that has labels. Copies have both from the query, and groups and sub-queries
become nothing by a class of their own. -/
theorem afterMoves_hydrates (l : LiveQuery) (moves : List Move) :
    let after := l.afterMoves moves
    let given := targets moves l
    let labels := (lastLabels? given).elim l.query.labels .tuple
    after.query.HasTarget ((lastClass? given).elim l.query.entity .entityClass) labels ∧
    (after.query.Agrees ↔ ∀ c, (lastClass? given).or l.query.entity.classRef? = some c →
      ∃ own, Build.labels (.entityClass c) = .ok own ∧ labels = .tuple own) ∧
    ((∀ t ∈ given, IsReadClass t) → l.query.Agrees → after.query.Agrees) ∧
    Query.PassesOn after.query ∧
    ∀ ref c, lastClass? given = some ref → l.registry.find? ref.id = some c →
      ∀ columns out l', (fetch columns).outcome after = (.ok out, l') →
        ∃ shown used rows left node, select.outcome (after.showing shown used) = (.ok rows, left) ∧
          l'.placeholder? = .ok node ∧
          List.Forall₂ (l.registry.ClassesNodes node c) (rows.map Channel.rowValue) out := by
  intro after given labels
  have aims := afterMoves_aims moves l
  have agrees : after.query.Agrees ↔ ∀ c, (lastClass? given).or l.query.entity.classRef? = some c →
      ∃ own, Build.labels (.entityClass c) = .ok own ∧ labels = .tuple own := by
    have chosen (c : ClassRef Value) : after.query.entity = .entityClass c ↔
        (lastClass? given).or l.query.entity.classRef? = some c := by
      rw [aims.target.1]
      cases lastClass? given with
      | some ref => simp
      | none =>
        cases l.query.entity <;> simp [Value.classRef?]
    have read : after.query.labels = labels := aims.target.2
    unfold Query.Agrees
    simp only [chosen, read]
  refine ⟨aims.target, agrees, fun classes before => agrees.mpr fun c chosen => ?_, Query.passesOn _, ?_⟩
  · rcases exists_last_of_isReadClass classes with none | ⟨ref, own, member, last, read⟩
    · have before := before c
      simp only [labels, none] at chosen ⊢
      refine before ?_
      cases entity : l.query.entity <;> rw [entity] at chosen <;> cases chosen
      rfl
    · obtain ⟨b, same⟩ := readable_of_mem_targets member
      rw [last] at chosen
      obtain rfl := Option.some.inj chosen
      refine ⟨own, labels_of_readable same.symm, ?_⟩
      simp only [labels, read]
      rfl
  · intro ref c last known columns out l' made
    obtain ⟨shown, used, rows, left, node, ran, named, recorded⟩ :=
      (fetch_records after columns).1 out l' made
    refine ⟨shown, used, rows, left, node, ran, named, ?_⟩
    have entity : after.query.entity = .entityClass ref := by
      rw [aims.target.1, last]
      rfl
    rw [aims.registry, entity] at recorded
    exact records_classes known recorded

/-- A query that knows readers, on a connection that is answered with these rows. -/
def amongReaders (rows : List Row) : LiveQuery :=
  { afterCalls [] with
    registry := readers.2
    channel := some ⟨.new .standard, .ofConfig .standard, Server.idle.extend "run" [.rows rows],
      some standardPattern⟩ }

/-- The class of readers as a target. -/
def readerClass : Value := .entityClass (readers.2.ref readers.1)

/-- A query of readers that is ordered and fetched. -/
theorem afterMoves_hydrates_readers :
    let l := amongReaders [[(.text "user", driverNode 1 "User")]]
    let moves : List Move := [.call (.target readerClass), .call (.orderBy (.text "name") (.text "asc"))]
    (∀ t ∈ targets moves l, IsReadClass t) ∧ l.query.Agrees ∧ (l.afterMoves moves).query.Agrees ∧
    ∃ out node, ∃ rows : List Row,
      ((fetch (.tuple [star])).outcome (l.afterMoves moves)).1 = .ok out ∧
      List.Forall₂ (readers.2.ClassesNodes node readers.1) (rows.map Channel.rowValue) out := by
  intro l moves
  have whole := afterMoves_hydrates l moves
  have classes : ∀ t ∈ targets moves l, IsReadClass t := by
    intro t member
    obtain rfl := List.mem_singleton.mp member
    exact ⟨_, _, rfl⟩
  have fresh : l.query.Agrees := nofun
  have made : ((fetch (.tuple [star])).outcome (l.afterMoves moves)).1.toOption.isSome = true := by
    decide +kernel
  cases ran : (fetch (.tuple [star])).outcome (l.afterMoves moves) with | mk r l' => ?_
  rw [ran] at made
  cases r with
  | error e => cases made
  | ok out =>
    obtain ⟨_, _, rows, _, node, -, -, become⟩ := whole.2.2.2.2 _ _ rfl rfl _ _ _ ran
    exact ⟨classes, fresh, whole.2.2.1 classes fresh, out, node, rows, rfl, become⟩

/-- A query of readers is given posts for a target: what it matches are posts, and they become readers. A
class without labels is refused as a target, and stays. -/
theorem afterMoves_disagrees :
    let l := (amongReaders [[(.text "post", driverNode 9 "Post")]]).afterMoves
      [.call (.target readerClass), .call (.target (.text "Post"))]
    let root := (readers.2.define rootClassName none [] none).1
    let refused := (build (Build.target (.entityClass (readers.2.ref root)))).outcome (amongReaders [])
    ¬ l.query.Agrees ∧
    sentTexts ((fetch (.tuple [star])).outcome l).2 = ["MATCH (post:Post) RETURN post"] ∧
    ((fetch (.tuple [star])).outcome l).1.toOption.map (List.map Value.typeName) = some ["Reader"] ∧
    (∃ e, refused.1 = .error e) ∧ ¬ refused.2.query.Agrees := by
  intro l root refused
  refine ⟨fun agrees => ?_, by decide +kernel, by decide +kernel, ⟨_, rfl⟩, fun agrees => ?_⟩
  · obtain ⟨own, given, labels⟩ := agrees _ rfl
    obtain rfl := Except.ok.inj given
    have same : [Value.text "Post"] = [Value.text "User"] := Value.tuple.inj labels
    simp at same
  · obtain ⟨own, given, -⟩ := agrees _ rfl
    cases given

end LiveQuery

end GraphQuery
