import GraphQuery.Builder.Call
import GraphQuery.Proofs.Builder.KeptQueries

/-! # Calls that keep the target of a query

Two fields of a query say what it is about: the labels of its primary node, and the class that nodes
become entities of.  One call sets them, the class first and the labels after it (`target_sets`), and
every other one keeps both, however it ends (`call_keepsTarget`).  What callbacks do to the queries that
they are run on makes no difference.

`Query.passesOn` says what the queries that come out of another one have of the two. -/

namespace GraphQuery

open GraphQuery.Binding GraphQuery.Cypher GraphQuery.Schema

/-- The entity class that a value is. -/
def Value.classRef? : Value → Option (ClassRef Value)
  | .entityClass c => some c
  | _ => none

/-- A query with this class and these labels. -/
def Query.HasTarget (entity labels : Value) (q : Query) : Prop := q.entity = entity ∧ q.labels = labels

namespace Build

open Exec

variable {α β : Type} {entity labels : Value}

/-- The class and the labels of the query are these after the step, if they were before. -/
abbrev KeepsTarget (entity labels : Value) (step : Build α) : Prop :=
  step.KeepsQuery (Query.HasTarget entity labels)

/-- What is changed in a query is neither its class nor its labels. -/
theorem change_keepsTarget {f : Query → Query} (h : ∀ q : Query, (f q).HasTarget q.entity q.labels) :
    (change f).KeepsTarget entity labels :=
  change_keepsQuery fun q kept => ⟨(h q).1.trans kept.1, (h q).2.trans kept.2⟩

/-! ### Sub-queries -/

theorem onQuery_keepsTarget (start : Query) (body : Build Unit) :
    (onQuery start body).KeepsTarget entity labels := fun _ kept => kept

theorem adopt_keepsTarget (q : Incoming) : (adopt q).KeepsTarget entity labels := by
  refine .of_ends fun b kept => .bind (.of_get ?_)
  split
  · exact .of_pure kept
  · refine .bind (ask_ends (.bind (.ofResult (fun _ _ => ?_) kept)) kept)
    exact .bind (.of_set (.ofResult (fun _ _ => kept) kept))

theorem subQuery_keepsTarget (query : Operand) : (subQuery query).KeepsTarget entity labels := by
  cases query with
  | query q => exact adopt_keepsTarget q
  | value _ | body _ =>
    exact .bind .of_get fun b => .bind (onQuery_keepsTarget (subStart b.query) _) fun _ => .of_pure _

/-! ### Predicates -/

theorem addPredicate_keepsTarget (p : Predicate) : (addPredicate p).KeepsTarget entity labels :=
  .bind ask_keepsQuery fun _ => change_keepsTarget fun _ => ⟨rfl, rfl⟩

theorem addChecked_keepsTarget (p : Checked Predicate) : (addChecked p).KeepsTarget entity labels :=
  .bind ask_keepsQuery fun _ => .bind (.ofResult _) addPredicate_keepsTarget

theorem carried_keepsTarget (column operator value joined : Value) :
    (carried column operator value joined).KeepsTarget entity labels := addChecked_keepsTarget _

theorem nest_keepsTarget (wheres : List Predicate) (joined : Value) :
    (nest wheres joined).KeepsTarget entity labels :=
  .ite (fun _ => .of_pure _) fun _ => addChecked_keepsTarget _

theorem group_keepsTarget (body : Build Unit) (joined : Value) :
    (group body joined).KeepsTarget entity labels :=
  .bind withQuery_keepsQuery fun start => .bind (onQuery_keepsTarget start body) fun inner =>
    nest_keepsTarget inner.wheres joined

end Build

/-- Predicates keep the target, whatever they are given. -/
def targetPredicates (entity labels : Value) :
    PredicateLaws fun b => b.query.HasTarget entity labels where
  columns _ := True
  operators _ := True
  operands _ := True
  nested _ := True
  bodies _ := True
  references _ := True
  signs _ := True
  queries _ := True
  asks _ _ := Build.ask_keepsQuery
  usesUp _ := Build.useUp_keepsQuery
  resolves _ _ := .of_maintains Build.withQuery_keepsQuery fun _ => trivial
  binds c v _ := Build.bindValue_keepsQuery c v .filter
  knows _ _ := trivial
  normalizes _ _ _ _ := trivial
  plain _ := trivial
  defers _ _ _ := trivial
  takesIn o _ := .of_maintains (Build.subQuery_keepsTarget o) fun _ => trivial
  adds _ _ := Build.addPredicate_keepsTarget _
  keeping _ _ := trivial
  groups body _ := Build.group_keepsTarget body

namespace Build

open Exec

variable {entity labels : Value}

theorem filter_keepsTarget (column : Operand) (operator value : Option Operand) (joined : Value) :
    (filter column operator value joined).KeepsTarget entity labels :=
  (targetPredicates entity labels).filter (fun _ _ => trivial)
    (fun _ _ _ _ => ⟨trivial, fun _ _ _ _ => trivial⟩) (fun _ _ => trivial) (fun _ _ => trivial)
    (fun _ _ => trivial) joined

/-! ### Other clauses -/

theorem stage_keepsTarget (parts : List Value) (named : List (String × Value)) :
    (stage parts named).KeepsTarget entity labels :=
  stage_keepsQuery fun _ kept => kept

theorem limit_keepsTarget (v : Value) : (limit v).KeepsTarget entity labels :=
  .bind (.ofResult _) fun _ => change_keepsTarget fun _ => ⟨rfl, rfl⟩

theorem offset_keepsTarget (v : Value) : (offset v).KeepsTarget entity labels :=
  .bind (.ofResult _) fun _ => change_keepsTarget fun _ => ⟨rfl, rfl⟩

theorem page_keepsTarget (number size : Value) : (page number size).KeepsTarget entity labels :=
  .bind (.ofResult _) fun p => .bind (offset_keepsTarget p.1) fun _ => limit_keepsTarget p.2

theorem union_keepsTarget (query : Operand) (keepsAll : Value) :
    (union query keepsAll).KeepsTarget entity labels :=
  .bind ask_keepsQuery fun _ => .bind (subQuery_keepsTarget query) fun _ => .bind (.ofResult _) fun _ =>
    change_keepsTarget fun _ => ⟨rfl, rfl⟩

/-! ### Calls -/

/-- Every call but the one that sets the target keeps it, also when it fails. -/
theorem call_keepsTarget {c : Call} (other : ∀ v, c ≠ .target v) : c.run.KeepsTarget entity labels := by
  have joins : ∀ {placeholder : Value} (p : Pattern), Joins placeholder p → ∀ q : Query,
      q.HasTarget entity labels → Query.HasTarget entity labels
        { q with patterns := q.patterns ++ [.clause p] } := fun _ _ _ kept => kept
  let laws := targetPredicates entity labels
  have any {column : Operand} (v : Value) (_ : column = .value v) : laws.columns v := trivial
  cases c with
  | target v => exact absurd rfl (other v)
  | filter column operator value joint => exact filter_keepsTarget _ _ _ joint
  | group body joint => exact group_keepsTarget _ joint
  | compareRow column operator query joint => exact laws.compareRow any trivial trivial joint
  | among column values joint negated => exact laws.among any trivial joint negated
  | amongRows column query joint negated => exact laws.amongRows any trivial joint negated
  | between column values joint negated =>
    exact laws.between any (fun _ _ _ _ _ => addPredicate_keepsTarget _) values joint negated
  | isNull column joint negated => exact laws.isNull any joint negated
  | carried column operator value joint => exact carried_keepsTarget column operator value joint
  | present query joint negated => exact laws.present trivial joint negated
  | relation parent related placeholder relationship property value direction boolean =>
    exact relation_keepsQuery joins parent related relationship property value direction boolean
  | anyRelation parent placeholder property value direction boolean relationship =>
    exact anyRelation_keepsQuery joins parent property value direction boolean relationship
  | addSelect columns =>
    exact .bind withQuery_keepsQuery fun _ => change_keepsTarget fun _ => ⟨rfl, rfl⟩
  | stage parts named => exact stage_keepsTarget parts named
  | groupBy columns => exact .bind ask_keepsQuery fun _ => change_keepsTarget fun _ => ⟨rfl, rfl⟩
  | having column operator value joint =>
    exact .bind (.ofResult _) fun p => addHaving_keepsQuery (fun _ _ _ _ _ _ _ kept => kept) _ joint
  | orderBy column direction =>
    exact .bind (.ofResult _) fun _ => .bind ask_keepsQuery fun _ =>
      change_keepsTarget fun _ => ⟨rfl, rfl⟩
  | limit count => exact limit_keepsTarget count
  | offset count => exact offset_keepsTarget count
  | page number size => exact page_keepsTarget number size
  | union query keepsAll => exact union_keepsTarget _ keepsAll
  | addBindings values bucket => exact addBindings_keepsQuery values bucket
  | addPredicate predicate => exact addPredicate_keepsTarget predicate
  | addPattern pattern =>
    exact .bind ask_keepsQuery fun _ => .bind (.ofResult _) fun _ =>
      change_keepsTarget fun _ => ⟨rfl, rfl⟩
  | nest wheres joint => exact nest_keepsTarget wheres joint
  | refused reason => exact .fail reason
  | select _ | distinct | setAggregate _ => exact change_keepsTarget fun _ => ⟨rfl, rfl⟩

/-! ### Setting the target -/

/-- The class that nodes become entities of when a target is given: that of the target, or else the one
that was there. -/
def classAfter (given entity : Value) : Value := given.classRef?.elim entity .entityClass

/-- What comes of reading labels. Of what has been done to the query only what stands for the grammar
matters. -/
def readable (given : Value) (b : Builder) : Result (List Value) :=
  b.query.ask .grammar "normalize_labels" >>= fun _ => Build.labels (b.used.useUp given).1

/-- The labels of a query when labels have been read or refused. -/
def labelsAfter (read : Result (List Value)) (labels : Value) : Value :=
  read.toOption.elim labels .tuple

theorem readLabels_outcome (given : Value) (b : Builder) : ∃ used,
    (readLabels given).outcome b = (readable given b, { b with used }) := by
  unfold readable
  cases asked : b.query.ask .grammar "normalize_labels" with
  | error e =>
    have failed : (ask .grammar "normalize_labels").outcome b = (.error e, b) := by
      show (b.query.ask .grammar "normalize_labels", b) = _
      rw [asked]
    refine ⟨b.used, ?_⟩
    unfold readLabels
    rw [outcome_bind, failed]
    rfl
  | ok _ =>
    have passed : (ask .grammar "normalize_labels").outcome b = (.ok (), b) := by
      show (b.query.ask .grammar "normalize_labels", b) = _
      rw [asked]
    refine ⟨(b.used.useUp given).2, ?_⟩
    unfold readLabels
    rw [outcome_bind_ok passed]
    rfl

/-- Setting the target sets the class before the labels are read, and the labels only if they are. -/
theorem target_sets (given : Value) (b : Builder) :
    ((target given).outcome b).2.query.HasTarget (classAfter given b.query.entity)
      (labelsAfter (readable given b) b.query.labels) := by
  have rest (b : Builder) : ((readLabels given >>= fun labels =>
      change fun q => { q with labels := .tuple labels }).outcome b).2.query.HasTarget b.query.entity
        (labelsAfter (readable given b) b.query.labels) := by
    obtain ⟨used, same⟩ := readLabels_outcome given b
    rw [outcome_bind, same]
    cases readable given b with
    | error e => exact ⟨rfl, rfl⟩
    | ok read => exact ⟨rfl, rfl⟩
  unfold target
  split
  · next c => exact rest { b with query := { b.query with entity := .entityClass c } }
  · next other =>
    have none : given.classRef? = none := by
      cases given with
      | entityClass c => exact absurd rfl (other c)
      | _ => rfl
    unfold classAfter
    rw [none]
    exact rest b

end Build

/-! ### Queries that come out of another one -/

/-- What the queries that come out of another one have of its target: a copy has both the class and the
labels, also under new names of bindings, a group of predicates has the labels alone, and a sub-query has
neither. -/
structure Query.PassesOn (q : Query) : Prop where
  copied : ∀ q' : Query, q.copied = .ok q' → Query.HasTarget q.entity q.labels q'
  renamed : ∀ renames (q' : Query), (SubQuery.own q).rename renames = .ok (.own q') →
    Query.HasTarget q.entity q.labels q'
  group : ∀ q' : Query, Build.groupStart q = .ok q' → Query.HasTarget .null q.labels q'
  inner : (Build.subStart q).HasTarget .null (.tuple [])

theorem Query.passesOn (q : Query) : Query.PassesOn q := by
  have copies : ∀ q' : Query, q.copied = .ok q' → Query.HasTarget q.entity q.labels q' := by
    intro q' copied
    obtain ⟨-, -, copied⟩ := Result.bind_eq_ok copied
    obtain ⟨-, -, copied⟩ := Result.bind_eq_ok copied
    obtain rfl := Except.ok.inj copied
    exact ⟨rfl, rfl⟩
  refine ⟨copies, fun renames q' renamed => ?_, fun q' start => ?_, rfl, rfl⟩
  · unfold SubQuery.rename at renamed
    obtain ⟨kept, copied, renamed⟩ := Result.bind_eq_ok renamed
    obtain ⟨_, -, renamed⟩ := Result.bind_eq_ok renamed
    obtain ⟨_, -, renamed⟩ := Result.bind_eq_ok renamed
    obtain rfl := SubQuery.own.inj (Except.ok.inj renamed)
    exact copies kept copied
  · obtain ⟨-, -, start⟩ := Result.bind_eq_ok start
    obtain rfl := Except.ok.inj start
    exact ⟨rfl, rfl⟩

end GraphQuery
