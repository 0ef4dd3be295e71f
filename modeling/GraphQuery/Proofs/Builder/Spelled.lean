import GraphQuery.Proofs.Binding.Spelling
import GraphQuery.Proofs.Builder.KeptQueries
import GraphQuery.Proofs.Builder.Ledger

/-! # Names that builders give

A clause binds its value under the name of the column that it compares with.  `Build.KeepsNames` says of
a step that it leaves a table whose names are names of bindings such a table.  Every call does so
(`call_keepsNames`) that gives its columns by name: a reference to a column may belong to a node with a
point in its placeholder, and then the name of its identity is a qualified one.

So a table has no other names in which only such calls have bound (`BoundByName.hasBindingNames`). -/

namespace GraphQuery

open GraphQuery.Text GraphQuery.Binding GraphQuery.Cypher BindingTable

/-! ### Columns that are given by name -/

/-- Whether a value is something else than a reference to a column. -/
def Value.isTextual : Value → Bool
  | .column _ => false
  | _ => true

/-- Whether a value is no reference to a column, and has none among its keys or among the keys of
these. -/
def Value.namesTextually (v : Value) : Bool :=
  v.isTextual && (v.entries?.getD []).all fun e =>
    e.1.isTextual && (e.1.entries?.getD []).all fun f => f.1.isTextual

/-- The same of an argument. -/
def Argument.namesTextually : Argument → Bool
  | .value v => v.namesTextually
  | _ => true

mutual
/-- Whether a call gives its columns by name, and stores nothing under a name of its own. -/
def Call.isTextual : Call → Bool
  | .filter column operator value _ =>
    column.namesTextually && column.isTextual && areTextual? operator && areTextual? value
  | .group body _ => body.isTextual
  | .compareRow _ _ query _ | .amongRows _ query _ _ | .present query _ _ | .union query _ =>
    query.isTextual
  | .among column values _ _ => column.namesTextually && values.isTextual
  | .between column _ _ _ => column.namesTextually
  | .addBindings _ _ => false
  | _ => true
/-- Whether the calls of a callback do so. -/
def Argument.isTextual : Argument → Bool
  | .body calls => areTextual calls
  | _ => true
/-- The same of an argument that may be left out. -/
def areTextual? : Option Argument → Bool
  | none => true
  | some a => a.isTextual
/-- The same of every one of some calls. -/
def areTextual : List Call → Bool
  | [] => true
  | c :: rest => c.isTextual && areTextual rest
end

namespace Query

variable {q : Query}

theorem not_point_of_isPlainText {s : String} (h : IsPlainText s) : '.' ∉ s.toList := fun member =>
  absurd (h _ member) (by decide)

theorem ownerPlaceholder_no_point {owner node : String} (h : '.' ∉ owner.toList)
    (found : q.ownerPlaceholder owner = .ok node) : '.' ∉ node.toList := by
  obtain ⟨known, -, found⟩ := Result.bind_eq_ok found
  cases known with
  | true =>
    obtain rfl := Except.ok.inj found
    exact h
  | false =>
    obtain ⟨-, -, found⟩ := Result.bind_eq_ok found
    exact not_point_of_isPlainText (needPlaceholder_isPlainText found)

/-- A column that is given by name gets a name for its binding. -/
theorem resolve_bindingBase {column : Value} (given : column.isTextual = true) {c : ColumnRef}
    (h : q.resolve column = .ok c) : IsBindingName (bindingBase c) := by
  have property : ∀ {name : String} {node : Option String},
      IsBindingName (bindingBase ⟨name, node, false⟩) := fun {name _} => bindingName_isBindingName name
  have identity : ∀ {name node : String}, '.' ∉ node.toList →
      IsBindingName (bindingBase ⟨name, some node, true⟩) := identityName_isBindingName
  unfold resolve at h
  split at h
  · cases given
  · cases resolves_of_resolveText h with
    | called call => exact identity (not_point_of_isPlainText (isIdentifier_of_identityCall? call).isPlainText)
    | @owned _ after node _ cut target =>
      have point : '.' ∉ node.toList := ownerPlaceholder_no_point
        (by rw [String.toList_ofList]; exact not_mem_of_splitAtFirst cut) target
      cases String.ofList after == "id" with
      | true => exact identity point
      | false => exact property
    | identity _ target => exact identity (not_point_of_isPlainText (placeholder?_isPlainText target).2)
    | property => exact property
  all_goals cases h

end Query

/-! ### Steps that keep the spelling of names -/

/-- An operand that is no reference to a column. -/
def Operand.IsTextual (column : Operand) : Prop := ∀ v, column = .value v → v.isTextual = true

/-- A builder whose table has names of bindings alone. -/
def Builder.Spelled (b : Builder) : Prop := b.table.HasBindingNames

namespace Build

open Exec

variable {α β : Type}

/-- The table of the builder has names of bindings alone after the step, if it had before. -/
abbrev KeepsNames (step : Build α) : Prop := step.Maintains Builder.Spelled

theorem withQuery_keepsNames {f : Query → Result α} : (withQuery f).KeepsNames := fun _ h => h

theorem ask_keepsNames {part : QueryPart} {name : String} : (ask part name).KeepsNames := fun _ h => h

theorem change_keepsNames {f : Query → Query} : (change f).KeepsNames := fun _ h => h

theorem useUp_keepsNames {v : Value} : (useUp v).KeepsNames := fun _ h => h

theorem addPredicate_keepsNames (p : Predicate) : (addPredicate p).KeepsNames :=
  .bind ask_keepsNames fun _ => change_keepsNames

theorem addChecked_keepsNames (p : Checked Predicate) : (addChecked p).KeepsNames :=
  .bind ask_keepsNames fun _ => .bind (.ofResult _) addPredicate_keepsNames

theorem resolveOperand_keepsNames : ∀ column : Operand, (resolveOperand column).KeepsNames
  | .value _ => withQuery_keepsNames
  | .body _ | .query _ => Maintains.fail _

theorem readLabels_keepsNames (v : Value) : (readLabels v).KeepsNames :=
  .bind ask_keepsNames fun _ => .bind useUp_keepsNames fun _ => .ofResult _

/-! ### Binding -/

theorem bind_keepsNames {base : String} (name : IsBindingName base) (v : Value) (bucket : Bucket) :
    (bind base v bucket).KeepsNames :=
  .bind ask_keepsNames fun _ b h => HasBindingNames.bind (t := b.table) h name v bucket

theorem bindValue_keepsNames {c : ColumnRef} (name : IsBindingName (bindingBase c)) (v : Value)
    (bucket : Bucket) : (bindValue c v bucket).KeepsNames := by
  refine .bind ask_keepsNames fun _ => ?_
  split
  · exact .bind ask_keepsNames fun _ => bind_keepsNames name v bucket
  · exact bind_keepsNames name v bucket

theorem resolve_keepsBindingBase {v : Value} (given : v.isTextual = true) :
    (resolve v).MaintainsWith Builder.Spelled fun c => IsBindingName (bindingBase c) := fun _ spelled =>
  withQuery_ends (fun _ found => ⟨Query.resolve_bindingBase given found, spelled⟩) spelled

/-! ### Queries among the arguments -/

end Build

/-- An operand that keeps the names of tables: a callback does so, and a query has only such names. -/
def Operand.Spelled : Operand → Prop
  | .value _ => True
  | .body build => build.KeepsNames
  | .query q => q.table.HasBindingNames

namespace Build

open Exec

theorem onQuery_keepsNames {body : Build Unit} (h : body.KeepsNames) (start : Query) :
    (onQuery start body).KeepsNames := by
  intro b spelled
  unfold onQuery
  rw [outcome_ofOutcome]
  dsimp only
  split
  · exact spelled
  · exact h { b with query := start } spelled

theorem adopt_keepsNames {q : Incoming} (names : q.table.HasBindingNames) : (adopt q).KeepsNames := by
  refine .of_ends fun b spelled => .bind (.of_get ?_)
  split
  · exact .of_pure spelled
  · refine .bind (ask_ends (.bind (.ofResult (fun _ _ => ?_) spelled)) spelled)
    have taken : (b.table.absorb q.table).1.HasBindingNames := HasBindingNames.absorb spelled names
    exact .bind (.of_set (.ofResult (fun _ _ => taken) taken))

theorem callback_keepsNames {operand : Operand} (h : operand.Spelled) :
    (callback operand).KeepsNames := by
  unfold callback
  split
  · exact h
  · exact withQuery_keepsNames
  · exact .fail _

theorem subQuery_keepsNames : ∀ {operand : Operand}, operand.Spelled → (subQuery operand).KeepsNames
  | .query _, h => adopt_keepsNames h
  | .value _, h | .body _, h => .bind .of_get fun _ => .bind
      (onQuery_keepsNames (callback_keepsNames h) _) fun _ => .of_pure _

theorem nest_keepsNames (wheres : List Predicate) (joined : Value) : (nest wheres joined).KeepsNames :=
  .ite (fun _ => .of_pure _) fun _ => addChecked_keepsNames _

theorem group_keepsNames {body : Build Unit} (h : body.KeepsNames) (joined : Value) :
    (group body joined).KeepsNames :=
  .bind withQuery_keepsNames fun start => .bind (onQuery_keepsNames h start) fun inner =>
    nest_keepsNames inner.wheres joined

/-! ### Predicates -/

theorem isNull_keepsNames (column : Operand) (joined negated : Value) :
    (isNull column joined negated).KeepsNames :=
  .bind ask_keepsNames fun _ => .bind (resolveOperand_keepsNames column) fun _ =>
    addChecked_keepsNames _

theorem compareRow_keepsNames {query : Operand} (h : query.Spelled) (column : Operand)
    (operator joined : Value) : (compareRow column operator query joined).KeepsNames :=
  .bind (subQuery_keepsNames h) fun _ => .bind ask_keepsNames fun _ =>
    .bind (resolveOperand_keepsNames column) fun _ => .bind (.ofResult _) fun _ =>
      addChecked_keepsNames _

theorem amongRows_keepsNames {query : Operand} (h : query.Spelled) (column : Operand)
    (joined negated : Value) : (amongRows column query joined negated).KeepsNames :=
  .bind (subQuery_keepsNames h) fun _ => .bind ask_keepsNames fun _ =>
    .bind (resolveOperand_keepsNames column) fun _ => addChecked_keepsNames _

end Build

/-- Predicates keep the names of bindings: columns are given by name. -/
def spelledPredicates : PredicateLaws Builder.Spelled where
  columns v := v.isTextual = true
  operators _ := True
  operands := Operand.Spelled
  nested := Operand.Spelled
  bodies := Build.KeepsNames
  references c := IsBindingName (bindingBase c)
  signs _ := True
  queries _ := True
  asks _ _ := Build.ask_keepsNames
  usesUp _ := Build.useUp_keepsNames
  resolves _ := Build.resolve_keepsBindingBase
  binds _ v name := Build.bindValue_keepsNames name v .filter
  knows _ _ := trivial
  normalizes _ _ _ _ := trivial
  plain _ := trivial
  defers _ h _ := h
  takesIn _ h := .of_maintains (Build.subQuery_keepsNames h) fun _ => trivial
  adds p _ := Build.addPredicate_keepsNames p
  keeping _ := id
  groups _ := Build.group_keepsNames

namespace Build

open Exec

/-- Keys that are no references to columns, and have none among their own keys. -/
def HaveTextualKeys (entries : List (Value × Value)) : Prop :=
  ∀ e ∈ entries, e.1.isTextual = true ∧
    ∀ columns, e.1.entries? = some columns → ∀ f ∈ columns, f.1.isTextual = true

/-! ### Patterns and conditions on groups -/

theorem addPattern_keepsNames (p : Checked Pattern) : (addPattern p).KeepsNames :=
  .bind ask_keepsNames fun _ => .bind (.ofResult _) fun _ => change_keepsNames

theorem constrain_keepsNames {parent : String} (plain : IsPlainText parent) (property value : Value) :
    (constrain parent property value).KeepsNames := by
  have named {base : String} (name : IsBindingName base) (v : Value) :
      Maintains Builder.Spelled (some <$> bind base v .pattern) := by
    rw [← bind_pure_comp]
    exact .bind (bind_keepsNames name v _) fun _ => .of_pure _
  unfold constrain
  split
  · exact .of_pure _
  · exact .of_pure _
  · split
    · refine .bind ask_keepsNames fun _ => .bind ask_keepsNames fun _ => .bind (.ofResult _) fun n => ?_
      exact named (identityName_isBindingName (Query.not_point_of_isPlainText plain)) _
    · exact named (bindingName_isBindingName _) _
  · exact .bind ask_keepsNames fun _ => .fail _

theorem parentNode_keepsNames {next : NodePattern → Build Unit}
    (h : ∀ node : NodePattern, IsPlainText node.placeholder → (next node).KeepsNames) (v : Value) :
    (parentNode v >>= next).KeepsNames := by
  unfold parentNode
  rw [bind_assoc]
  refine .bind (readLabels_keepsNames v) fun labels => ?_
  rw [bind_assoc]
  refine .of_ends fun b spelled => .bind (.ofResult (fun placeholder found => ?_) spelled)
  refine Maintains.ends ?_ spelled
  rw [bind_assoc]
  refine .bind (.ofResult _) fun texts => ?_
  exact h ⟨placeholder, texts⟩ (needPlaceholder_isPlainText found)

theorem relation_keepsNames
    (parent related placeholder relationship property value direction boolean : Value) :
    (relation parent related placeholder relationship property value direction boolean).KeepsNames := by
  refine parentNode_keepsNames (fun node plain => ?_) parent
  refine .bind ask_keepsNames fun _ => .bind (readLabels_keepsNames _) fun _ => ?_
  refine .bind (.ofResult _) fun _ => .bind (.ofResult _) fun _ => ?_
  exact .bind (constrain_keepsNames plain property value) fun _ => addPattern_keepsNames _

theorem anyRelation_keepsNames
    (parent placeholder property value direction boolean relationship : Value) :
    (anyRelation parent placeholder property value direction boolean relationship).KeepsNames := by
  refine parentNode_keepsNames (fun node plain => ?_) parent
  refine .bind ask_keepsNames fun _ => .bind (.ofResult _) fun _ => ?_
  exact .bind (constrain_keepsNames plain property value) fun _ => addPattern_keepsNames _

theorem addHaving_keepsNames (column operator v joined : Value) :
    (addHaving column operator v joined).KeepsNames := by
  refine .bind ask_keepsNames fun _ => .bind (.ofResult _) fun property => ?_
  refine .bind (bind_keepsNames (bindingName_isBindingName property) v _) fun _ => ?_
  exact .bind ask_keepsNames fun _ => .bind (.ofResult _) fun _ => .bind (.ofResult _) fun _ =>
    change_keepsNames

/-! ### Other clauses -/

theorem target_keepsNames (v : Value) : (target v).KeepsNames := by
  have labelled : Maintains Builder.Spelled (readLabels v >>= fun labels =>
      change fun q => { q with labels := .tuple labels }) :=
    .bind (readLabels_keepsNames v) fun _ => change_keepsNames
  unfold target
  dsimp only
  split
  · exact .bind change_keepsNames fun _ => labelled
  · exact labelled

theorem stage_keepsNames (parts : List Value) (named : List (String × Value)) :
    (stage parts named).KeepsNames := by
  refine .bind .of_get fun b => ?_
  split
  · exact change_keepsNames
  · next standIn _ =>
    refine .forM (fun part => .bind (.ofResult (Result.ofFailure (standIn.holds part))) fun _ => ?_) _
    exact .ite (fun _ => ask_keepsNames) fun _ => .of_pure _

theorem page_keepsNames (number size : Value) : (page number size).KeepsNames :=
  .bind (.ofResult _) fun _ => .bind (.bind (.ofResult _) fun _ => change_keepsNames) fun _ =>
    .bind (.ofResult _) fun _ => change_keepsNames

theorem union_keepsNames {query : Operand} (h : query.Spelled) (keepsAll : Value) :
    (union query keepsAll).KeepsNames :=
  .bind ask_keepsNames fun _ => .bind (subQuery_keepsNames h) fun _ => .bind (.ofResult _) fun _ =>
    change_keepsNames

end Build

open Build

/-! ### Calls -/

theorem Argument.namesTextually_operand : ∀ {a : Argument}, a.namesTextually = true →
    a.operand.IsTextual ∧ ∀ entries, a.operand.entries? = some entries → HaveTextualKeys entries
  | .value v, h => by
    obtain ⟨textual, keys⟩ := Bool.and_eq_true_iff.mp h
    refine ⟨fun w e => Operand.value.inj e ▸ textual, fun entries found e member => ?_⟩
    have found : v.entries? = some entries := found
    rw [found] at keys
    obtain ⟨key, others⟩ := Bool.and_eq_true_iff.mp (List.all_eq_true.mp keys e member)
    refine ⟨key, fun columns inner f inside => ?_⟩
    rw [inner] at others
    exact List.all_eq_true.mp others f inside
  | .body _, _ | .query _, _ => ⟨fun _ e => (by cases e), fun _ e => (by cases e)⟩
  | .callback _, _ => ⟨fun _ e => (by cases e; rfl), fun _ e => (by cases e)⟩

mutual
/-- A call that gives its columns by name keeps the names of bindings. -/
theorem call_keepsNames : ∀ c : Call, c.isTextual = true → (∀ q ∈ c.queries, q.table.HasBindingNames) →
    c.run.KeepsNames
  | .target v, _, _ => target_keepsNames v
  | .filter column operator value joint, given, names => by
    simp only [Call.isTextual, Bool.and_eq_true] at given
    have first := fun q hq => names q (List.mem_append_left _ (List.mem_append_left _ hq))
    have second := fun q hq => names q (List.mem_append_left _ (List.mem_append_right _ hq))
    have third := fun q hq => names q (List.mem_append_right _ hq)
    have named := Argument.namesTextually_operand given.1.1.1
    have body : column.operand.Spelled := argument_spelled column given.1.1.2 first
    exact spelledPredicates.filter named.1 named.2 (fun _ same => by rwa [same] at body)
      (argument?_spelled operator given.1.2 second) (argument?_spelled value given.2 third) joint
  | .group body joint, given, names =>
    group_keepsNames (callback_keepsNames (argument_spelled body given names)) joint
  | .compareRow column operator query joint, given, names =>
    compareRow_keepsNames (argument_spelled query given names) column.operand operator joint
  | .among column values joint negated, given, names => by
    obtain ⟨named, textual⟩ := Bool.and_eq_true_iff.mp given
    exact spelledPredicates.among (Argument.namesTextually_operand named).1
      (argument_spelled values textual names) joint negated
  | .amongRows column query joint negated, given, names =>
    amongRows_keepsNames (argument_spelled query given names) column.operand joint negated
  | .between column values joint negated, given, _ =>
    spelledPredicates.between (Argument.namesTextually_operand given).1
      (fun _ _ _ _ _ => addPredicate_keepsNames _) values joint negated
  | .isNull column joint negated, _, _ => isNull_keepsNames column.operand joint negated
  | .carried _ _ _ _, _, _ => addChecked_keepsNames _
  | .present query joint negated, given, names =>
    spelledPredicates.present (argument_spelled query given names) joint negated
  | .relation .., _, _ => relation_keepsNames _ _ _ _ _ _ _ _
  | .anyRelation .., _, _ => anyRelation_keepsNames _ _ _ _ _ _ _
  | .select _, _, _ | .distinct, _, _ | .setAggregate _, _, _ => change_keepsNames
  | .addSelect _, _, _ => .bind withQuery_keepsNames fun _ => change_keepsNames
  | .stage parts named, _, _ => stage_keepsNames parts named
  | .groupBy _, _, _ => .bind ask_keepsNames fun _ => change_keepsNames
  | .having _ _ _ _, _, _ => .bind (.ofResult _) fun _ => addHaving_keepsNames _ _ _ _
  | .orderBy _ _, _, _ => .bind (.ofResult _) fun _ => .bind ask_keepsNames fun _ => change_keepsNames
  | .limit _, _, _ | .offset _, _, _ => .bind (.ofResult _) fun _ => change_keepsNames
  | .page number size, _, _ => page_keepsNames number size
  | .union query keepsAll, given, names =>
    union_keepsNames (argument_spelled query given names) keepsAll
  | .addPredicate p, _, _ => addPredicate_keepsNames p
  | .addPattern _, _, _ => addPattern_keepsNames _
  | .nest wheres joint, _, _ => nest_keepsNames wheres joint
  | .refused reason, _, _ => .fail reason
theorem argument_spelled : ∀ a : Argument, a.isTextual = true →
    (∀ q ∈ a.queries, q.table.HasBindingNames) → a.operand.Spelled
  | .value _, _, _ | .callback _, _, _ => trivial
  | .body calls, given, names => calls_keepNames calls given names
  | .query q, _, names => names q (List.mem_singleton_self q)
theorem argument?_spelled : ∀ a : Option Argument, areTextual? a = true →
    (∀ q ∈ queries? a, q.table.HasBindingNames) → ∀ o ∈ operand? a, o.Spelled
  | none, _, _ => nofun
  | some a, given, names => fun o found => by
    obtain rfl := Option.some.inj found
    exact argument_spelled a given names
theorem calls_keepNames : ∀ calls : List Call, areTextual calls = true →
    (∀ q ∈ queriesOfAll calls, q.table.HasBindingNames) → (runAll calls).KeepsNames
  | [], _, _ => .of_pure _
  | c :: rest, given, names => by
    obtain ⟨first, others⟩ := Bool.and_eq_true_iff.mp given
    exact .bind (call_keepsNames c first fun q hq => names q (List.mem_append_left _ hq)) fun _ =>
      calls_keepNames rest others fun q hq => names q (List.mem_append_right _ hq)
end

/-! ### Tables -/

/-- A table in which nothing is bound but by calls that give their columns by name. -/
inductive BoundByName : BindingTable → Prop
  /-- a new table -/
  | empty : BoundByName .empty
  /-- a call, which may fail, and which may take in queries with tables of their own -/
  | called {b : Builder} (c : Call) (textual : c.isTextual = true) : BoundByName b.table →
      (∀ q ∈ c.queries, BoundByName q.table) → BoundByName (c.run.outcome b).2.table

theorem BoundByName.afterCalls : ∀ {calls : List Call} {b : Builder}, BoundByName b.table →
    areTextual calls = true → (∀ q ∈ queriesOfAll calls, BoundByName q.table) →
      BoundByName ((runAll calls).outcome b).2.table
  | [], _, h, _, _ => h
  | c :: rest, b, h, textual, queries => by
    obtain ⟨first, others⟩ := Bool.and_eq_true_iff.mp textual
    have called := BoundByName.called c first h fun q hq => queries q (List.mem_append_left _ hq)
    revert called
    unfold runAll
    rw [Exec.outcome_bind]
    rcases c.run.outcome b with ⟨_ | u, b'⟩
    · exact id
    · exact fun called => afterCalls called others fun q hq => queries q (List.mem_append_right _ hq)

theorem BoundByName.hasBindingNames {t : BindingTable} (h : BoundByName t) : t.HasBindingNames := by
  induction h with
  | empty => exact hasBindingNames_empty
  | called c textual _ _ table queries => exact call_keepsNames c textual queries _ table

end GraphQuery
