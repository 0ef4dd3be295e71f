import GraphQuery.Proofs.Builder.KeptQueries
import GraphQuery.Proofs.Builder.Spelled
import GraphQuery.Proofs.Cypher.RawTexts

/-! # Calls that keep queries silent

A query is silent if all the texts in it that are written as they are mention nothing.  `Call.IsSilent`
asks this of the texts that a call is given: the placeholders of far nodes, the parts of an explicit
stage, carried predicates, the columns and the signs of conditions on groups, and the signs of
comparisons with sub-queries.  Columns have to be given by name; they are quoted.

Every silent call keeps the query of its builder silent (`call_keepsSilent`), however deep its callbacks
are, and a query that is taken in stays silent (`SubQuery.rename_isSilent`). -/

namespace GraphQuery

open GraphQuery.Text GraphQuery.Binding GraphQuery.Cypher GraphQuery.Schema

/-! ### What calls are given -/

/-- A sign for an operator that is silent before a blank, as it is written. -/
def Value.IsQuietSign (operator : Value) : Prop :=
  ∀ sign, normalizeOperator operator = .ok sign → IsQuietOperator sign

mutual
/-- Whether a call gives its columns by name, and silent texts where they are written as they are. A
call that is handed clauses which were made elsewhere does not say what is in them. -/
def Call.IsSilent : Call → Prop
  | .filter column operator value _ =>
    column.namesTextually = true ∧ column.IsSilent ∧ areSilentArguments operator ∧
      areSilentArguments value
  | .group body _ => body.IsSilent
  | .compareRow column operator query _ =>
    column.namesTextually = true ∧ operator.IsQuietSign ∧ query.IsSilent
  | .among column values _ _ => column.namesTextually = true ∧ values.IsSilent
  | .amongRows column query _ _ => column.namesTextually = true ∧ query.IsSilent
  | .between column _ _ _ | .isNull column _ _ => column.namesTextually = true
  | .carried column operator value _ => ∀ c o v, readText column = .ok c → readText operator = .ok o →
    readText value = .ok v → Silent (c ++ " " ++ o ++ " " ++ v)
  | .present query _ _ | .union query _ => query.IsSilent
  | .relation _ _ placeholder _ _ _ _ _ | .anyRelation _ placeholder _ _ _ _ _ =>
    ∀ node, readName placeholder = .ok node → Silent node
  | .select columns | .addSelect columns | .groupBy columns =>
    ∀ v ∈ flatColumns columns, v.isTextual = true
  | .stage parts named =>
    (∀ s, .text s ∈ parts → Silent s) ∧ ∀ n ∈ named, Silent (n.2.plainText ++ " AS " ++ n.1)
  | .having column operator value _ => ∀ c o v sign, Build.havingColumn column = .ok c →
    Build.comparison (operand? operator) (operand? value) = .ok (o, v) →
      normalizeOperator o.toValue = .ok sign → Silent (c ++ " " ++ sign ++ " ")
  | .orderBy column _ => column.isTextual = true
  | .setAggregate _ | .addPredicate _ | .addPattern _ | .nest _ _ => False
  | _ => True
/-- Whether the calls of a callback are silent. -/
def Argument.IsSilent : Argument → Prop
  | .body calls => areSilentCalls calls
  | _ => True
/-- The same of an argument that may be left out. -/
def areSilentArguments : Option Argument → Prop
  | none => True
  | some a => a.IsSilent
/-- The same of every one of some calls. -/
def areSilentCalls : List Call → Prop
  | [] => True
  | c :: rest => c.IsSilent ∧ areSilentCalls rest
end

theorem operators_silent : ∀ small ∈ operators,
    Silent (small ++ " ") ∧ Silent (uppercase small ++ " ") := by
  decide +kernel

theorem isQuietSign_of_isOperator {operator : Value} (h : isOperator operator = true) :
    operator.IsQuietSign := by
  intro sign normal
  unfold isOperator at h
  split at h
  · next s =>
    have other : Silent "<> " := by decide
    obtain ⟨small, capital⟩ := operators_silent _ (List.contains_iff_mem.mp h)
    unfold normalizeOperator at normal
    dsimp only at normal
    split at normal
    · obtain rfl := Except.ok.inj normal
      exact other
    · split at normal
      · cases normal
      · obtain rfl := Except.ok.inj normal
        split
        · exact capital
        · exact small
  · cases h

/-! ### Parts of queries -/

namespace Query

variable {q : Query}

theorem empty_isSilent : Query.empty.IsSilent := by
  refine ⟨⟨fun _ h => ?_, fun _ h => ?_, fun columns h => ?_, fun _ h => ?_, fun _ h => ?_,
    fun _ h => ?_, fun _ h => ?_⟩, trivial, trivial⟩
  case refine_3 =>
    obtain rfl := Except.ok.inj h
    exact List.forall_mem_singleton.mpr trivial
  all_goals cases h

theorem IsSilent.withPredicate (h : q.IsSilent) {p : Predicate} (quiet : p.IsSilent) :
    Query.IsSilent { q with wheres := q.wheres ++ [p] } :=
  ⟨⟨h.parts.patterns, h.parts.stages, h.parts.columns, h.parts.groups, h.parts.havings,
    h.parts.sortKeys, h.parts.aggregate⟩, areSilent_append h.wheres ⟨quiet, trivial⟩, h.branches⟩

theorem subStart_isSilent (q : Query) : (Build.subStart q).IsSilent :=
  empty_isSilent.other _ _ _ _ _ _

theorem groupStart_isSilent (h : q.IsSilent) {start : Query} (found : Build.groupStart q = .ok start) :
    start.IsSilent := by
  obtain ⟨-, -, found⟩ := Result.bind_eq_ok found
  obtain rfl := Except.ok.inj found
  have empty := (subStart_isSilent q).parts
  exact ⟨⟨h.parts.patterns, empty.stages, empty.columns, empty.groups, empty.havings, empty.sortKeys,
    empty.aggregate⟩, trivial, trivial⟩

end Query

/-! ### Columns -/

theorem isQuietColumn_of_isTextual {v : Value} (h : v.isTextual = true) : v.IsQuietColumn := by
  cases v
  case column => cases h
  all_goals trivial

namespace Query

variable {q : Query} {vs chosen : List Value}

theorem isQuietColumn_of_ofList (h : ∀ v ∈ vs, v.IsQuietColumn)
    (found : chosenColumns { q with columns := .ofList vs } = .ok chosen) :
    ∀ v ∈ chosen, v.IsQuietColumn := by
  unfold chosenColumns at found
  split at found
  · obtain rfl := Except.ok.inj found
    exact h
  · obtain rfl := Except.ok.inj found
    exact List.forall_mem_singleton.mpr trivial

theorem isQuietColumn_of_columnsSoFar (h : q.HasQuietParts) (found : columnsSoFar q.columns = .ok vs) :
    ∀ v ∈ vs, v.IsQuietColumn := by
  unfold columnsSoFar at found
  split at found
  · obtain rfl := Except.ok.inj found
    exact fun _ none => absurd none List.not_mem_nil
  · next columns mark same =>
    obtain rfl := Except.ok.inj found
    intro v member
    split at member
    · exact absurd member List.not_mem_nil
    · refine h.columns columns ?_ v member
      have full : q.columns.isTruthy = true := by
        cases columns with
        | nil => exact absurd member List.not_mem_nil
        | cons _ _ => rw [same]; rfl
      unfold chosenColumns
      rw [if_pos full, same]
      rfl
  · cases found

end Query

/-! ### Steps that keep queries quiet -/

/-- A builder whose query is quiet. -/
def Builder.IsSilent (b : Builder) : Prop := b.query.IsSilent

/-- An operand that keeps queries quiet: a callback does so, and a query is quiet itself. -/
def Operand.IsSilent : Operand → Prop
  | .value _ => True
  | .body build => build.Maintains Builder.IsSilent
  | .query q => q.query.IsSilent

namespace Build

open Exec

variable {α β : Type}

/-- The query of the builder is quiet after the step, if it was before. -/
abbrev KeepsSilent (step : Build α) : Prop := step.Maintains Builder.IsSilent

theorem addPredicate_keepsSilent {p : Predicate} (quiet : p.IsSilent) : (addPredicate p).KeepsSilent :=
  addPredicate_keepsQuery fun _ h => h.withPredicate quiet

theorem resolve_keepsQuiet {v : Value} (given : v.isTextual = true) :
    (resolve v).MaintainsWith Builder.IsSilent ColumnRef.IsQuiet := fun _ quiet =>
  withQuery_ends (fun _ found =>
    ⟨resolve_isQuiet quiet.parts (isQuietColumn_of_isTextual given) found, quiet⟩) quiet

/-! ### Sub-queries -/

theorem callback_keepsSilent {operand : Operand} (h : operand.IsSilent) :
    (callback operand).KeepsSilent := by
  unfold callback
  split
  · exact h
  · exact withQuery_keepsQuery
  · exact .fail _

theorem adopt_isSilent {q : Incoming} (h : q.query.IsSilent) {b : Builder} (quiet : b.IsSilent) :
    (adopt q).Ends b (fun s b' => s.IsSilent ∧ b'.IsSilent) Builder.IsSilent := by
  have inside : SubQuery.IsSilent (.own q.query) := ⟨h.parts, h.wheres, h.branches⟩
  refine .bind (.of_get ?_)
  split
  · exact .of_pure ⟨⟨h.parts, h.wheres, h.branches⟩, quiet⟩
  · refine .bind (ask_ends (.bind (.ofResult (fun _ _ => ?_) quiet)) quiet)
    refine .bind (.of_set (.ofResult (fun copy found => ⟨?_, quiet⟩) quiet))
    exact SubQuery.IsSilent.rename _ inside found

theorem subQuery_keepsSilent {operand : Operand} (h : operand.IsSilent) :
    (subQuery operand).MaintainsWith Builder.IsSilent SubQuery.IsSilent := by
  intro b quiet
  cases operand with
  | query q => exact adopt_isSilent h quiet
  | value _ | body _ =>
    refine .bind (.of_get (.bind ?_))
    refine (onQuery_keepsQuery (callback_keepsSilent h) (Query.subStart_isSilent b.query) quiet).imp ?_
      fun _ => id
    exact fun q b' both => .of_pure ⟨⟨both.1.parts, both.1.wheres, both.1.branches⟩, both.2⟩

theorem group_keepsSilent {body : Build Unit} (h : body.KeepsSilent) (joined : Value) :
    (group body joined).KeepsSilent :=
  group_keepsQuery h (fun _ _ quiet found => Query.groupStart_isSilent quiet found)
    (fun _ _ _ inner quiet => quiet.withPredicate inner.wheres) joined

end Build

/-- Predicates keep queries quiet: columns are given by name, and signs and sub-queries are silent. -/
def silentPredicates : PredicateLaws Builder.IsSilent where
  columns v := v.isTextual = true
  operators := Value.IsQuietSign
  operands := Operand.IsSilent
  nested := Operand.IsSilent
  bodies := Build.KeepsSilent
  references := ColumnRef.IsQuiet
  signs := IsQuietOperator
  queries := SubQuery.IsSilent
  asks _ _ := Build.ask_keepsQuery
  usesUp _ := Build.useUp_keepsQuery
  resolves _ := Build.resolve_keepsQuiet
  binds c v _ := Build.bindValue_keepsQuery c v .filter
  knows _ := isQuietSign_of_isOperator
  normalizes _ sign := sign
  plain _ := trivial
  defers _ h _ := h
  takesIn _ := Build.subQuery_keepsSilent
  adds p made := Build.addPredicate_keepsSilent (by
    cases p
    case between | carried | nested | foreign => exact made.elim
    all_goals exact made)
  keeping _ := id
  groups _ := Build.group_keepsSilent

namespace Build

open Exec

/-! ### Patterns and conditions on groups -/

/-- A pattern whose chosen end is silent. -/
theorem addSilentPattern {placeholder : Value} (h : ∀ node, readName placeholder = .ok node → Silent node) :
    ∀ p, Joins placeholder p → ∀ q : Query, q.IsSilent →
      Query.IsSilent { q with patterns := q.patterns ++ [.clause p] } := by
  intro p joins q quiet
  refine ⟨⟨fun p' member => ?_, quiet.parts.stages, quiet.parts.columns, quiet.parts.groups,
    quiet.parts.havings, quiet.parts.sortKeys, quiet.parts.aggregate⟩, quiet.wheres, quiet.branches⟩
  rcases List.mem_append.mp member with old | new
  · exact quiet.parts.patterns p' old
  · obtain rfl := Member.clause.inj (List.mem_singleton.mp new)
    exact fun node binds => (joins node binds).elim (fun plain => plain.isPlainText.silent) (h node)

theorem addHaving_keepsSilent {column operator : Value}
    (h : ∀ c sign, havingColumn column = .ok c → normalizeOperator operator = .ok sign →
      Silent (c ++ " " ++ sign ++ " ")) (v joined : Value) :
    (addHaving column operator v joined).KeepsSilent := by
  refine addHaving_keepsQuery (fun c sign named normal binding j q quiet => ?_) v joined
  refine ⟨⟨quiet.parts.patterns, quiet.parts.stages, quiet.parts.columns, quiet.parts.groups,
    fun g member => ?_, quiet.parts.sortKeys, quiet.parts.aggregate⟩, quiet.wheres, quiet.branches⟩
  rcases List.mem_append.mp member with old | new
  · exact quiet.parts.havings g old
  · obtain rfl := Member.clause.inj (List.mem_singleton.mp new)
    exact h c sign named normal

/-! ### Other clauses -/

theorem carried_keepsSilent {column operator value : Value} (h : ∀ c o v, readText column = .ok c →
    readText operator = .ok o → readText value = .ok v → Silent (c ++ " " ++ o ++ " " ++ v))
    (joined : Value) : (carried column operator value joined).KeepsSilent := by
  refine .bind ask_keepsQuery fun _ => .after fun p found => ?_
  obtain ⟨⟨⟨j, c⟩, o, v⟩, all, rfl⟩ := Checked.map_eq_ok (Result.ofChecked_eq_ok found)
  obtain ⟨front, back⟩ := Checked.and_eq_ok all
  exact addPredicate_keepsSilent (h c o v (Checked.inside_eq_ok (Checked.and_eq_ok front).2)
    (Checked.inside_eq_ok (Checked.and_eq_ok back).1) (Checked.inside_eq_ok (Checked.and_eq_ok back).2))

theorem target_keepsSilent (v : Value) : (target v).KeepsSilent :=
  target_keepsQuery (fun q _ _ quiet => quiet.other _ _ q.limit q.offset q.isDistinct q.standIns) v

theorem columns_keepsSilent {vs : List Value} (h : ∀ v ∈ vs, v.IsQuietColumn) :
    (change fun q => { q with columns := .ofList vs }).KeepsSilent :=
  change_keepsQuery fun _ quiet => ⟨⟨quiet.parts.patterns, quiet.parts.stages,
    fun _ found => Query.isQuietColumn_of_ofList h found, quiet.parts.groups, quiet.parts.havings,
    quiet.parts.sortKeys, quiet.parts.aggregate⟩, quiet.wheres, quiet.branches⟩

theorem select_keepsSilent {columns : List Value} (h : ∀ v ∈ flatColumns columns, v.isTextual = true) :
    (select columns).KeepsSilent := by
  refine columns_keepsSilent fun v member => ?_
  split at member
  · rw [List.mem_singleton.mp member]
    trivial
  · exact isQuietColumn_of_isTextual (h v member)

theorem addSelect_keepsSilent {columns : List Value}
    (h : ∀ v ∈ flatColumns columns, v.isTextual = true) : (addSelect columns).KeepsSilent := by
  refine .of_ends fun b quiet => .bind (withQuery_ends (fun current found => ?_) quiet)
  refine (columns_keepsSilent fun v member => ?_).ends quiet
  rcases List.mem_append.mp member with old | new
  · exact Query.isQuietColumn_of_columnsSoFar quiet.parts found v old
  · exact isQuietColumn_of_isTextual (h v new)

/-- A part that is there already is not added. -/
theorem mem_of_mem_addParts {v : Value} : ∀ {all parts : List Value}, v ∈ all.foldl addPart parts →
    v ∈ parts ∨ v ∈ all
  | [], _, h => Or.inl h
  | part :: all, parts, h => by
    have step : v ∈ addPart parts part → v ∈ parts ∨ v = part := by
      unfold addPart
      split
      · exact Or.inl
      · exact fun member => (List.mem_append.mp member).imp_right List.mem_singleton.mp
    have rest : v ∈ addPart parts part ∨ v ∈ all := mem_of_mem_addParts h
    rcases rest with old | later
    · exact (step old).imp_right fun same => List.mem_cons.mpr (Or.inl same)
    · exact Or.inr (List.mem_cons_of_mem _ later)

theorem stage_keepsSilent {parts : List Value} {named : List (String × Value)}
    (h : ∀ s, .text s ∈ parts → Silent s)
    (h' : ∀ n ∈ named, Silent (n.2.plainText ++ " AS " ++ n.1)) : (stage parts named).KeepsSilent := by
  refine stage_keepsQuery fun q quiet => ⟨⟨quiet.parts.patterns, fun s member => ?_,
    quiet.parts.columns, quiet.parts.groups, quiet.parts.havings, quiet.parts.sortKeys,
    quiet.parts.aggregate⟩, quiet.wheres, quiet.branches⟩
  rcases mem_of_mem_addParts member with old | new
  · exact quiet.parts.stages s old
  · rcases List.mem_append.mp new with given | given
    · exact h s given
    · obtain ⟨n, inside, same⟩ := List.mem_map.mp given
      exact Value.text.inj same ▸ h' n inside

theorem groupBy_keepsSilent {columns : List Value}
    (h : ∀ v ∈ flatColumns columns, v.isTextual = true) : (groupBy columns).KeepsSilent := by
  refine .bind ask_keepsQuery fun _ => change_keepsQuery fun q quiet => ⟨⟨quiet.parts.patterns,
    quiet.parts.stages, quiet.parts.columns, fun v member => ?_, quiet.parts.havings,
    quiet.parts.sortKeys, quiet.parts.aggregate⟩, quiet.wheres, quiet.branches⟩
  rcases List.mem_append.mp member with old | new
  · exact quiet.parts.groups v old
  · exact isQuietColumn_of_isTextual (h v new)

theorem orderBy_keepsSilent {column : Value} (h : column.isTextual = true) (direction : Value) :
    (orderBy column direction).KeepsSilent := by
  refine .bind (.ofResult _) fun d => .bind ask_keepsQuery fun _ => change_keepsQuery fun q quiet => ?_
  refine ⟨⟨quiet.parts.patterns, quiet.parts.stages, quiet.parts.columns, quiet.parts.groups,
    quiet.parts.havings, fun k member => ?_, quiet.parts.aggregate⟩, quiet.wheres, quiet.branches⟩
  rcases List.mem_append.mp member with old | new
  · exact quiet.parts.sortKeys k old
  · obtain rfl := Member.clause.inj (List.mem_singleton.mp new)
    exact isQuietColumn_of_isTextual h

theorem limit_keepsSilent (v : Value) : (limit v).KeepsSilent :=
  .bind (.ofResult _) fun n => change_keepsQuery fun q quiet =>
    quiet.other q.labels q.entity n q.offset q.isDistinct q.standIns

theorem offset_keepsSilent (v : Value) : (offset v).KeepsSilent :=
  .bind (.ofResult _) fun n => change_keepsQuery fun q quiet =>
    quiet.other q.labels q.entity q.limit n q.isDistinct q.standIns

theorem union_keepsSilent {query : Operand} (h : query.IsSilent) (keepsAll : Value) :
    (union query keepsAll).KeepsSilent := by
  refine .bind ask_keepsQuery fun _ => (subQuery_keepsSilent h).bind fun s inner =>
    .bind (.ofResult _) fun all => ?_
  exact change_keepsQuery fun q quiet => ⟨⟨quiet.parts.patterns, quiet.parts.stages, quiet.parts.columns,
    quiet.parts.groups, quiet.parts.havings, quiet.parts.sortKeys, quiet.parts.aggregate⟩, quiet.wheres,
    areSilentBranches_append quiet.branches ⟨inner, trivial⟩⟩

end Build

open Build

/-! ### Calls -/

mutual
/-- A silent call keeps the query silent, and what it takes in may be any silent query. -/
theorem call_keepsSilent : ∀ c : Call, c.IsSilent → (∀ q ∈ c.queries, q.query.IsSilent) →
    c.run.KeepsSilent
  | .target v, _, _ => target_keepsSilent v
  | .filter column operator value joint, given, silent => by
    obtain ⟨textual, whole, compared, with_⟩ := given
    have first := fun q hq => silent q (List.mem_append_left _ (List.mem_append_left _ hq))
    have second := fun q hq => silent q (List.mem_append_left _ (List.mem_append_right _ hq))
    have third := fun q hq => silent q (List.mem_append_right _ hq)
    have named := Argument.namesTextually_operand textual
    have body : column.operand.IsSilent := argument_isSilent column whole first
    exact silentPredicates.filter named.1 named.2 (fun _ same => by rwa [same] at body)
      (argument?_isSilent operator compared second) (argument?_isSilent value with_ third) joint
  | .group body joint, given, silent =>
    group_keepsSilent (callback_keepsSilent (argument_isSilent body given silent)) joint
  | .compareRow column operator query joint, given, silent =>
    silentPredicates.compareRow (Argument.namesTextually_operand given.1).1 given.2.1
      (argument_isSilent query given.2.2 silent) joint
  | .among column values joint negated, given, silent =>
    silentPredicates.among (Argument.namesTextually_operand given.1).1
      (argument_isSilent values given.2 silent) joint negated
  | .amongRows column query joint negated, given, silent =>
    silentPredicates.amongRows (Argument.namesTextually_operand given.1).1
      (argument_isSilent query given.2 silent) joint negated
  | .between column values joint negated, given, _ =>
    silentPredicates.between (Argument.namesTextually_operand given).1
      (fun _ _ _ _ quiet => addPredicate_keepsSilent quiet) values joint negated
  | .isNull column joint negated, given, _ =>
    silentPredicates.isNull (Argument.namesTextually_operand given).1 joint negated
  | .carried _ _ _ joint, given, _ => carried_keepsSilent given joint
  | .present query joint negated, given, silent =>
    silentPredicates.present (argument_isSilent query given silent) joint negated
  | .relation _ _ _ _ _ _ _ _, given, _ => relation_keepsQuery (addSilentPattern given) _ _ _ _ _ _ _
  | .anyRelation _ _ _ _ _ _ _, given, _ => anyRelation_keepsQuery (addSilentPattern given) _ _ _ _ _ _
  | .select _, given, _ => select_keepsSilent given
  | .addSelect _, given, _ => addSelect_keepsSilent given
  | .distinct, _, _ => change_keepsQuery fun q quiet =>
    quiet.other q.labels q.entity q.limit q.offset (.bool true) q.standIns
  | .stage _ _, given, _ => stage_keepsSilent given.1 given.2
  | .groupBy _, given, _ => groupBy_keepsSilent given
  | .having column operator value joint, given, _ =>
    .after fun p compared => addHaving_keepsSilent
      (fun c sign named normal => given c p.1 p.2 sign named compared normal) _ joint
  | .orderBy _ direction, given, _ => orderBy_keepsSilent given direction
  | .limit v, _, _ => limit_keepsSilent v
  | .offset v, _, _ => offset_keepsSilent v
  | .page _ _, _, _ => .bind (.ofResult _) fun p => .bind (offset_keepsSilent p.1) fun _ =>
    limit_keepsSilent p.2
  | .union query keepsAll, given, silent =>
    union_keepsSilent (argument_isSilent query given silent) keepsAll
  | .addBindings values bucket, _, _ => addBindings_keepsQuery values bucket
  | .refused reason, _, _ => .fail reason
theorem argument_isSilent : ∀ a : Argument, a.IsSilent → (∀ q ∈ a.queries, q.query.IsSilent) →
    a.operand.IsSilent
  | .value _, _, _ | .callback _, _, _ => trivial
  | .body calls, given, silent => calls_keepSilent calls given silent
  | .query q, _, silent => silent q (List.mem_singleton_self q)
theorem argument?_isSilent : ∀ a : Option Argument, areSilentArguments a →
    (∀ q ∈ queries? a, q.query.IsSilent) → ∀ o ∈ operand? a, o.IsSilent
  | none, _, _ => nofun
  | some a, given, silent => fun o found => by
    obtain rfl := Option.some.inj found
    exact argument_isSilent a given silent
theorem calls_keepSilent : ∀ calls : List Call, areSilentCalls calls →
    (∀ q ∈ queriesOfAll calls, q.query.IsSilent) → (runAll calls).KeepsSilent
  | [], _, _ => .of_pure _
  | c :: rest, given, silent =>
    .bind (call_keepsSilent c given.1 fun q hq => silent q (List.mem_append_left _ hq)) fun _ =>
      calls_keepSilent rest given.2 fun q hq => silent q (List.mem_append_right _ hq)
end

end GraphQuery
