import GraphQuery.Proofs.Builder.Steps
import GraphQuery.Proofs.Cypher.Introductions
import GraphQuery.Proofs.Query.PlainNames

/-! # What steps of building keep

Many facts about a query are kept by every step that adds nothing to it, and by those that add a clause
which fits.  `Build.KeepsQuery P` says that a query with `P` still has it after the step, also when the
step fails.

* `withQuery_keepsQuery`, `bindValue_keepsQuery`, `constrain_keepsQuery`, … : looking something up and
  binding a value keep anything;
* `addPredicate_keepsQuery`, `relation_keepsQuery`, `anyRelation_keepsQuery` : a clause has to fit.  The
  nodes of a new pattern are the one that the caller has chosen and one with a plain name;
* `stage_keepsQuery` : the parts of a stage have to fit, `addBindings_keepsQuery` : values never matter;
* `onQuery_keepsQuery` : a callback on another query.

Predicates are read from their arguments in one way whatever is kept.  `PredicateLaws inv` says what an
invariant of builders has to do with columns, operators and sub-queries, and `PredicateLaws.filter`,
`PredicateLaws.among`, … follow for every such invariant. -/

namespace GraphQuery

open GraphQuery.Binding GraphQuery.Cypher GraphQuery.Schema

namespace Build

open Exec

variable {α β : Type} {P : Query → Prop}

/-- The query of the builder has `P` after the step, if it had before. -/
abbrev KeepsQuery (P : Query → Prop) (step : Build α) : Prop := step.Maintains fun b => P b.query

/-! ### Reading and binding -/

theorem withQuery_keepsQuery {f : Query → Result α} : KeepsQuery P (withQuery f) := fun _ h => h

theorem ask_keepsQuery {part : QueryPart} {name : String} : KeepsQuery P (ask part name) := fun _ h => h

theorem useUp_keepsQuery {v : Value} : KeepsQuery P (useUp v) := fun _ h => h

theorem change_keepsQuery {f : Query → Query} (h : ∀ q : Query, P q → P (f q)) :
    KeepsQuery P (change f) := fun b kept => h b.query kept

theorem bind_keepsQuery (base : String) (v : Value) (bucket : Bucket) :
    KeepsQuery P (bind base v bucket) := .bind ask_keepsQuery fun _ _ h => h

theorem bindValue_keepsQuery (c : ColumnRef) (v : Value) (bucket : Bucket) :
    KeepsQuery P (bindValue c v bucket) := by
  refine .bind ask_keepsQuery fun _ => ?_
  split
  · exact .bind ask_keepsQuery fun _ => bind_keepsQuery _ v bucket
  · exact bind_keepsQuery _ v bucket

theorem constrain_keepsQuery (parent : String) (property value : Value) :
    KeepsQuery P (constrain parent property value) := by
  have named (base : String) (v : Value) : KeepsQuery P (some <$> bind base v .pattern) := by
    rw [← bind_pure_comp]
    exact .bind (bind_keepsQuery base v _) fun _ => .of_pure _
  unfold constrain
  split
  · exact .of_pure _
  · exact .of_pure _
  · split
    · exact .bind ask_keepsQuery fun _ => .bind ask_keepsQuery fun _ => .bind (.ofResult _) fun n =>
        named _ _
    · exact named _ _
  · exact .bind ask_keepsQuery fun _ => .fail _

theorem isTruthy_of_mem_labels {v : Value} {given : List Value} (h : labels v = .ok given) :
    ∀ label ∈ given, label.isTruthy = true := by
  have filled : ∀ {all : List Value}, (if all.isEmpty then (.error (.builder .labelsMissing) : Result _)
      else .ok all) = .ok given → all = given := fun h => by
    split at h
    · cases h
    · exact Except.ok.inj h
  unfold labels at h
  split at h
  · split at h
    · obtain rfl := filled h
      exact fun label member => (List.mem_filter.mp member).2
    · cases h
  · obtain ⟨all, read, h⟩ := Result.bind_eq_ok h
    obtain rfl := filled h
    exact isTruthy_of_mem_presentLabels read

/-- A step that goes on with labels. -/
theorem labelled_keepsQuery {next : List Value → Build β}
    (h : ∀ labels, (∀ v ∈ labels, v.isTruthy = true) → KeepsQuery P (next labels)) (v : Value) :
    KeepsQuery P (readLabels v >>= next) := by
  unfold readLabels
  simp only [bind_assoc]
  exact .bind ask_keepsQuery fun _ => .bind useUp_keepsQuery fun _ => Maintains.after fun labels found =>
    h labels (isTruthy_of_mem_labels found)

/-! ### Clauses -/

theorem addPredicate_keepsQuery {p : Predicate}
    (fits : ∀ q : Query, P q → P { q with wheres := q.wheres ++ [p] }) : KeepsQuery P (addPredicate p) :=
  .bind ask_keepsQuery fun _ => change_keepsQuery fits

theorem addChecked_keepsQuery {x : Checked α} {f : α → Predicate}
    (fits : ∀ a, ∀ q : Query, P q → P { q with wheres := q.wheres ++ [f a] }) :
    KeepsQuery P (addChecked (x.map f)) := by
  refine .bind ask_keepsQuery fun _ => Maintains.after fun p found => ?_
  obtain ⟨a, -, rfl⟩ := Checked.map_eq_ok (Result.ofChecked_eq_ok found)
  exact addPredicate_keepsQuery (fits a)

/-- Whether a pattern has one end that its caller has chosen, and another one with a plain name. -/
def Joins (placeholder : Value) (p : Pattern) : Prop :=
  ∀ node, p.Binds node → IsIdentifier node ∨ readName placeholder = .ok node

theorem parentNode_keepsQuery {next : NodePattern → Build Unit}
    (h : ∀ node : NodePattern, IsIdentifier node.placeholder → KeepsQuery P (next node)) (v : Value) :
    KeepsQuery P (parentNode v >>= next) := by
  unfold parentNode
  rw [bind_assoc]
  refine labelled_keepsQuery (fun labels full => ?_) v
  rw [bind_assoc]
  refine Maintains.after fun placeholder found => ?_
  rw [bind_assoc]
  exact .bind (.ofResult _) fun texts => h ⟨placeholder, texts⟩ (needPlaceholder_isIdentifier full found)

theorem addPattern_keepsQuery {x : Checked Pattern} (fits : ∀ p, x = .ok p → ∀ q : Query, P q →
    P { q with patterns := q.patterns ++ [.clause p] }) : KeepsQuery P (addPattern x) :=
  .bind ask_keepsQuery fun _ => Maintains.after fun p found =>
    change_keepsQuery (fits p (Result.ofChecked_eq_ok found))

theorem binds_withFar {parent : NodePattern} {isOptional : Bool} {binding : Option String}
    {direction property : Value} {f : PatternFrame} (framed : frame parent isOptional binding direction
      property = .ok f) {far : FarEnd} {node : String} (h : (f.withFar far).Binds node) :
    node = parent.placeholder ∨ node = far.placeholder := by
  obtain ⟨p, -, rfl⟩ := Checked.map_eq_ok framed
  exact h

section patterns

variable {placeholder : Value}
  (fits : ∀ p, Joins placeholder p → ∀ q : Query, P q → P { q with patterns := q.patterns ++ [.clause p] })

include fits

theorem relation_keepsQuery (parent related relationship property value direction boolean : Value) :
    KeepsQuery P
      (relation parent related placeholder relationship property value direction boolean) := by
  refine parentNode_keepsQuery (fun node plain => ?_) parent
  refine .bind ask_keepsQuery fun _ => labelled_keepsQuery (fun labels _ => ?_) related
  refine Maintains.after fun far checked => .bind (.ofResult _) fun isOptional => ?_
  refine .bind (constrain_keepsQuery _ property value) fun binding =>
    addPattern_keepsQuery fun p found => ?_
  obtain ⟨⟨f, name⟩, both, rfl⟩ := Checked.map_eq_ok found
  obtain ⟨chosen, named, rfl⟩ := Checked.map_eq_ok (Result.ofChecked_eq_ok checked)
  refine fits _ fun node' binds => ?_
  rcases binds_withFar (Checked.and_eq_ok both).1 binds with rfl | rfl
  · exact Or.inl plain
  · exact Or.inr (Checked.inside_eq_ok (Checked.and_eq_ok named).1)

theorem anyRelation_keepsQuery (parent property value direction boolean relationship : Value) :
    KeepsQuery P (anyRelation parent placeholder property value direction boolean relationship) := by
  refine parentNode_keepsQuery (fun node plain => ?_) parent
  refine .bind ask_keepsQuery fun _ => .bind (.ofResult _) fun isOptional => ?_
  refine .bind (constrain_keepsQuery _ property value) fun binding =>
    addPattern_keepsQuery fun p found => ?_
  obtain ⟨⟨f, chosen, name⟩, both, rfl⟩ := Checked.map_eq_ok found
  obtain ⟨framed, named⟩ := Checked.and_eq_ok both
  refine fits _ fun node' binds => ?_
  rcases binds_withFar framed binds with rfl | rfl
  · exact Or.inl plain
  · exact Or.inr (Checked.inside_eq_ok (Checked.and_eq_ok named).1)

end patterns

/-! ### Stages and values -/

/-- Where a caller has put something else in the place of the parts of a stage, they are only looked up. -/
theorem stage_keepsQuery {parts : List Value} {named : List (String × Value)}
    (fits : ∀ q : Query, P q → P { q with
      stages := (parts ++ named.map fun n => Value.text (n.2.plainText ++ " AS " ++ n.1)).foldl addPart
        q.stages }) :
    KeepsQuery P (stage parts named) := by
  refine .bind .of_get fun b => ?_
  split
  · exact change_keepsQuery fits
  · next standIn _ =>
    refine .forM (fun part => .bind (.ofResult (Result.ofFailure (standIn.holds part))) fun _ => ?_) _
    exact .ite (fun _ => ask_keepsQuery) fun _ => .of_pure _

theorem addEntries_keepsQuery (bucket : Value) (entries : List (Value × Value)) :
    KeepsQuery P (addEntries bucket entries) := by
  induction entries with
  | nil => exact .of_pure _
  | cons e rest ih =>
    exact .bind (.ofResult _) fun _ => .bind ask_keepsQuery fun _ => .bind (.ofResult _) fun _ =>
      .bind (fun _ kept => kept) fun _ => ih

theorem addBindings_keepsQuery (values bucket : Value) : KeepsQuery P (addBindings values bucket) := by
  unfold addBindings
  split
  · exact addEntries_keepsQuery bucket _
  · exact .fail _

/-- The labels of a target that is given, and the class of one that has a class. -/
theorem target_keepsQuery (fits : ∀ (q : Query) (labels entity : Value), P q →
    P { q with labels, entity }) (v : Value) : KeepsQuery P (target v) := by
  have labelled : KeepsQuery P (readLabels v >>= fun labels =>
      change fun q => { q with labels := .tuple labels }) :=
    labelled_keepsQuery (fun _ _ => change_keepsQuery fun q => fits q _ q.entity) v
  unfold target
  dsimp only
  split
  · exact .bind (change_keepsQuery fun q => fits q q.labels _) fun _ => labelled
  · exact labelled

theorem addHaving_keepsQuery {column operator : Value}
    (fits : ∀ c sign, havingColumn column = .ok c → normalizeOperator operator = .ok sign →
      ∀ (binding : String) (j : Connective) (q : Query), P q →
        P { q with havings := q.havings ++ [.clause ⟨c, sign, binding, j⟩] }) (v joined : Value) :
    KeepsQuery P (addHaving column operator v joined) := by
  refine .bind ask_keepsQuery fun _ => .after fun c named => ?_
  refine .bind (bind_keepsQuery _ v _) fun binding => .bind ask_keepsQuery fun _ => ?_
  refine .after fun sign normal => .bind (.ofResult _) fun j => ?_
  exact change_keepsQuery (fits c sign named normal binding j)

/-! ### Callbacks -/

theorem onQuery_keepsQuery {body : Build Unit} (h : KeepsQuery P body) {start : Query} (first : P start)
    {b : Builder} (kept : P b.query) :
    (onQuery start body).Ends b (fun q b' => P q ∧ P b'.query) fun b' => P b'.query := by
  refine .of_outcome (outcome_ofOutcome ..) (fun q found => ⟨?_, kept⟩) fun _ _ => kept
  let inner : Builder := { b with
    query := start
    table := if (b.query.standIn? .bindings).any (·.isNull) then .empty else b.table }
  have last : P (body.outcome inner).2.query := h inner first
  change ((body.outcome inner).1.map fun _ => (body.outcome inner).2.query) = .ok q at found
  cases ended : (body.outcome inner).1 with
  | error _ =>
    rw [ended] at found
    cases found
  | ok u =>
    rw [ended] at found
    exact Except.ok.inj found ▸ last

/-- A group of predicates. -/
theorem group_keepsQuery {body : Build Unit} (h : KeepsQuery P body)
    (start : ∀ q s : Query, P q → groupStart q = .ok s → P s)
    (fits : ∀ (j : Connective) (inner q : Query), P inner → P q →
      P { q with wheres := q.wheres ++ [.nested j inner.wheres] }) (joined : Value) :
    KeepsQuery P (group body joined) := by
  refine .of_ends fun b kept => .bind (withQuery_ends (fun s found => ?_) kept)
  refine .bind ((onQuery_keepsQuery h (start _ s kept found) kept).imp
    (fun inner b' both => ?_) fun _ => id)
  refine Maintains.ends (.ite (fun _ => .of_pure _) fun _ => ?_) both.2
  exact addChecked_keepsQuery fun j q kept => fits j inner q both.1 kept

/-! ### Predicates -/

/-- What a comparison is about is among its arguments, or a value. -/
theorem comparison_operands {good : Operand → Prop} (plain : ∀ v, good (.value v))
    {operator value : Option Operand} (second : ∀ o ∈ operator, good o) (third : ∀ o ∈ value, good o)
    {p : Operand × Operand} (h : comparison operator value = .ok p) : good p.1 ∧ good p.2 := by
  unfold comparison at h
  split at h
  · cases h
  · cases h
    exact ⟨plain _, second _ rfl⟩
  · dsimp only at h
    split at h
    · cases h
    · cases h
      refine ⟨?_, third _ rfl⟩
      cases operator with
      | none => exact plain _
      | some o => exact second o rfl

end Build

theorem Operand.exists_value (v : Value) : ∃ w, Operand.value v = .value w := ⟨v, rfl⟩

theorem Operand.not_deferred_of_value (o : Operand) (value : ∃ v, o = .value v)
    (deferred : o.isDeferred = true) : False := by
  obtain ⟨v, rfl⟩ := value
  cases deferred

/-- A predicate whose column, operator and sub-query are good, as far as it has them.  Ranges are left out;
`PredicateLaws.between` asks about them. -/
def Predicate.IsMadeOf (references : ColumnRef → Prop) (signs : String → Prop) (queries : SubQuery → Prop) :
    Predicate → Prop
  | .compared _ c sign _ => references c ∧ signs sign
  | .among _ c _ _ | .isNull _ c _ => references c
  | .comparedRow _ c sign s => references c ∧ signs sign ∧ queries s
  | .amongRows _ c s _ => references c ∧ queries s
  | .present _ s _ => queries s
  | .between .. | .carried .. | .nested .. | .foreign _ => False

/-- Laws by which predicates keep an invariant of builders.  The first fields say what may be given, and
what is read from it; the laws are about these alone. -/
structure PredicateLaws (inv : Builder → Prop) where
  /-- what may be given as a column -/
  columns : Value → Prop
  /-- what may be given as an operator -/
  operators : Value → Prop
  /-- what a column may be compared with -/
  operands : Operand → Prop
  /-- what may be given for a sub-query -/
  nested : Operand → Prop
  /-- what may be given for a group -/
  bodies : Build Unit → Prop
  /-- what a column is read as -/
  references : ColumnRef → Prop
  /-- what an operator is written as -/
  signs : String → Prop
  /-- what a sub-query is taken in as -/
  queries : SubQuery → Prop
  asks : ∀ part name, (Build.ask part name).Maintains inv
  usesUp : ∀ v, (Build.useUp v).Maintains inv
  resolves : ∀ v, columns v → (Build.resolve v).MaintainsWith inv references
  binds : ∀ c v, references c → (Build.bindValue c v .filter).Maintains inv
  knows : ∀ v, isOperator v = true → operators v
  normalizes : ∀ v, operators v → ∀ sign, normalizeOperator v = .ok sign → signs sign
  plain : ∀ v, operands (.value v)
  defers : ∀ o, operands o → o.isDeferred = true → nested o
  takesIn : ∀ o, nested o → (Build.subQuery o).MaintainsWith inv queries
  adds : ∀ p : Predicate, p.IsMadeOf references signs queries → (Build.addPredicate p).Maintains inv
  keeping : ∀ body : Build Unit, body.Maintains inv → bodies body
  groups : ∀ body, bodies body → ∀ joined, (Build.group body joined).Maintains inv

namespace PredicateLaws

open Exec Build

variable {inv : Builder → Prop} (laws : PredicateLaws inv) {α : Type}

include laws in
theorem addChecked {x : Checked α} {f : α → Predicate} (h : ∀ a, (addPredicate (f a)).Maintains inv) :
    (addChecked (x.map f)).Maintains inv := by
  refine .bind (laws.asks _ _) fun _ => .after fun p found => ?_
  obtain ⟨a, -, rfl⟩ := Checked.map_eq_ok (Result.ofChecked_eq_ok found)
  exact h a

/-- A predicate of which all but the binding is known. -/
theorem addMade {x : Checked α} {f : α → Predicate}
    (h : ∀ a, (f a).IsMadeOf laws.references laws.signs laws.queries) :
    (Build.addChecked (x.map f)).Maintains inv := laws.addChecked fun a => laws.adds _ (h a)

/-- Keys that may be given as columns, and have only such keys among their own. -/
def Keys (entries : List (Value × Value)) : Prop :=
  ∀ e ∈ entries, laws.columns e.1 ∧
    ∀ columns, e.1.entries? = some columns → ∀ f ∈ columns, laws.columns f.1

section predicates

variable {column : Operand} (given : ∀ v, column = .value v → laws.columns v)

include given

theorem resolved : (resolveOperand column).MaintainsWith inv laws.references := by
  cases column with
  | value v => exact laws.resolves v (given v rfl)
  | body _ | query _ => exact fun _ h => .fail h

theorem isNull (joined negated : Value) : (isNull column joined negated).Maintains inv :=
  .bind (laws.asks _ _) fun _ => (laws.resolved given).bind fun _ good => laws.addMade fun _ => good

theorem compareRow {operator : Value} (sign : laws.operators operator) {query : Operand}
    (h : laws.nested query) (joined : Value) :
    (compareRow column operator query joined).Maintains inv := by
  refine (laws.takesIn query h).bind fun s inner => .bind (laws.asks _ _) fun _ => ?_
  refine (laws.resolved given).bind fun c good => .after fun written normal => ?_
  exact laws.addMade fun _ => ⟨good, laws.normalizes _ sign written normal, inner⟩

theorem amongRows {query : Operand} (h : laws.nested query) (joined negated : Value) :
    (amongRows column query joined negated).Maintains inv := by
  refine (laws.takesIn query h).bind fun s inner => .bind (laws.asks _ _) fun _ => ?_
  exact (laws.resolved given).bind fun c good => laws.addMade fun _ => ⟨good, inner⟩

theorem among {values : Operand} (h : laws.operands values) (joined negated : Value) :
    (among column values joined negated).Maintains inv := by
  cases values with
  | value v =>
    refine .bind (.discard (.ofResult _)) fun _ => (laws.resolved given).bind fun c good => ?_
    refine .bind (laws.usesUp _) fun _ => .bind (.ofResult _) fun _ => .bind (.ofResult _) fun xs => ?_
    exact .bind (laws.binds c _ good) fun _ => laws.addMade fun _ => good
  | body _ | query _ => exact laws.amongRows given (laws.defers _ h rfl) joined negated

theorem between (adds : ∀ j c binding negated, laws.references c →
    (addPredicate (.between j c binding negated)).Maintains inv) (values joined negated : Value) :
    (between column values joined negated).Maintains inv := by
  have bound (xs : List Value) : Maintains inv (resolveOperand column >>= fun c => do
      let values ← Exec.ofResult (valuesFor c xs)
      let binding ← bindValue c (.ofList values) .filter
      Build.addChecked (((joint joined).and (negation negated)).map fun p =>
        .between p.1 c binding p.2)) := by
    refine (laws.resolved given).bind fun c good => .bind (.ofResult _) fun vs => ?_
    exact .bind (laws.binds c _ good) fun _ => laws.addChecked fun _ => adds _ c _ _ good
  refine .bind (laws.usesUp _) fun v => .bind (.ofResult _) fun xs => ?_
  split
  · exact .bind (.fail _) fun _ => bound xs
  · exact bound xs

theorem compare {operator : Operand} (sign : laws.operators operator.toValue) (v joined : Value) :
    (compare column operator v joined).Maintains inv := by
  refine (laws.resolved given).bind fun c good => ?_
  refine .bind (.bind (.ofResult _) fun x => laws.binds c x good) fun _ => ?_
  refine .bind (laws.asks _ _) fun _ => .after fun written normal => ?_
  exact laws.addMade fun _ => ⟨good, laws.normalizes _ sign written normal⟩

theorem compareOperand {operator : Operand} (sign : laws.operators operator.toValue) {value : Operand}
    (h : laws.operands value) (joined : Value) :
    (compareOperand column operator value joined).Maintains inv := by
  unfold Build.compareOperand
  split
  · exact laws.isNull given joined _
  · exact laws.compare given sign _ joined
  · next other =>
    have deferred : value.isDeferred = true := by
      cases value with
      | value v => exact absurd rfl (other v)
      | body _ | query _ => rfl
    exact laws.compareRow given sign (laws.defers _ h deferred) joined

end predicates

theorem present {query : Operand} (h : laws.nested query) (joined negated : Value) :
    (present query joined negated).Maintains inv :=
  (laws.takesIn query h).bind fun _ inner => laws.addMade fun _ => inner

theorem equal {key : Value} (given : laws.columns key) (v joined : Value) :
    (Build.compareOperand (.value key) equality (.value v) joined).Maintains inv := by
  have sign : laws.operators equality.toValue := laws.knows _ (by decide)
  exact laws.compareOperand (fun _ same => Operand.value.inj same ▸ given) sign (laws.plain v) joined

theorem compareColumns : ∀ {columns : List (Value × Value)}, (∀ f ∈ columns, laws.columns f.1) →
    (compareColumns columns).Maintains inv
  | [], _ => .of_pure _
  | (_, v) :: _, h => by
    obtain ⟨first, others⟩ := List.forall_mem_cons.mp h
    exact .bind (laws.equal first v _) fun _ => compareColumns others

theorem compareEntries : ∀ {entries : List (Value × Value)}, laws.Keys entries →
    (compareEntries entries).Maintains inv
  | [], _ => .of_pure _
  | (key, v) :: _, h => by
    obtain ⟨first, others⟩ := List.forall_mem_cons.mp h
    unfold Build.compareEntries
    cases found : key.entries? with
    | some columns =>
      have inside := laws.keeping _ (laws.compareColumns (first.2 columns found))
      exact .bind (laws.groups _ inside _) fun _ => compareEntries others
    | none => exact .bind (laws.equal first.1 v _) fun _ => compareEntries others

/-- A predicate as callers write it: its operator is one of those that are known, or equality. -/
theorem filter {column : Operand} {operator value : Option Operand}
    (given : ∀ v, column = .value v → laws.columns v)
    (keys : ∀ entries, column.entries? = some entries → laws.Keys entries)
    (body : ∀ build, column = .body build → laws.bodies build)
    (second : ∀ o ∈ operator, laws.operands o) (third : ∀ o ∈ value, laws.operands o) (joined : Value) :
    (filter column operator value joined).Maintains inv := by
  unfold Build.filter
  split
  · exact laws.among given (third _ rfl) joined _
  · split
    · next entries found =>
      exact laws.groups _ (laws.keeping _ (laws.compareEntries (keys entries found))) joined
    · exact laws.groups _ (body _ rfl) joined
    · refine .after fun ⟨sign, other⟩ compared => ?_
      have both := comparison_operands laws.plain second third compared
      refine .ite (fun known => ?_) fun _ => ?_
      · cases sign with
        | value v =>
          have sign : laws.operators (Operand.value v).toValue := laws.knows v known
          exact laws.compareOperand given sign both.2 joined
        | body _ | query _ => cases known
      · exact laws.compareOperand given (laws.knows _ (by decide)) both.1 joined

end PredicateLaws

end GraphQuery
