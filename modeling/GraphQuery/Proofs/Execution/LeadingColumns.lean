import GraphQuery.Proofs.Cypher.ColumnNames
import GraphQuery.Proofs.Execution.Readings
import GraphQuery.Proofs.Record.RowRecords

/-! # The column that a query is asked for

Asking for one column sets the projection of the query for one select, but only where the query has none
of its own, and a stage that groups rows or an aggregate does not look at the projection at all.  The
values that come back are those of the first column of each row, whatever that is.

* `LeadsWith` : the first item of a select that a column is asked of, with one case for each of these;
* `leadsWith_of_selectText` : that is what the statement returns first;
* `LiveQuery.fetch_outcome` : a query with a projection of its own does the same for every column;
* `LiveQuery.fetchColumn_leads` : what is sent for a column, and what is handed back. -/

namespace GraphQuery

open GraphQuery.Binding GraphQuery.Cypher GraphQuery.Schema GraphQuery.Text Exec

/-- The query when a column is asked for: its own projection goes first. -/
def Query.asking (q : Query) (column : Value) : Query :=
  if q.columns.isNull then { q with columns := .ofList [column] } else q

namespace Cypher

variable {q : Query} {column : Value} {text : String}

/-- The first item of a select when a column is asked of a query, none if it has no items. -/
inductive FirstItem (q : Query) (column : Value) (seen : Introduced) : Option String → Prop
  /-- the column that is asked for -/
  | asked {item : String} : isStaged q = false → q.columns.isNull = true → column ≠ star →
      itemText q column = .ok item → FirstItem q column seen (some item)
  /-- the first column of a projection that the query has already -/
  | chosen {columns : List Value} {items : List String} : isStaged q = false →
      q.columns.isNull = false → chosenColumns q = .ok columns → isStar columns = false →
      columns.mapM (itemText q) = .ok items → FirstItem q column seen items.head?
  /-- everything, which is the first node, or a star behind explicit stages -/
  | everything {columns : List Value} : isStaged q = false →
      chosenColumns (q.asking column) = .ok columns → isStar columns = true →
      FirstItem q column seen (if q.hasStages then some "*" else (seen.map (·.1)).head?)
  /-- the first group, or else the aggregate over the groups -/
  | carried {names : List String} : isStaged q = true → carriedNames q = .ok names →
      FirstItem q column seen names.head?

/-- Asking for a column changes nothing but the projection. -/
theorem exists_asking (q : Query) (column : Value) : ∃ columns, q.asking column = { q with columns } := by
  unfold Query.asking
  split
  · exact ⟨_, rfl⟩
  · exact ⟨q.columns, rfl⟩

theorem sameNodes_shown (q : Query) (columns : Value) (branches : List Branch) :
    Query.SameNodes { q with columns, branches } q := ⟨rfl, rfl, fun _ => rfl⟩

theorem firstItem_of_returnItems {seen : Introduced} {items : List String}
    (h : returnItems (q.asking column) seen = .ok items) : FirstItem q column seen items.head? := by
  obtain ⟨columns, same⟩ := exists_asking q column
  have nodes : (q.asking column).SameNodes q := same ▸ sameNodes_shown q columns q.branches
  have staged : isStaged (q.asking column) = isStaged q := by rw [same]; rfl
  have stages : (q.asking column).hasStages = q.hasStages := by rw [same]; rfl
  have names : carriedNames (q.asking column) = carriedNames q := by
    rw [same]
    exact (sameNodes_shown q columns q.branches).carriedNames rfl rfl rfl fun _ => rfl
  cases returnsItems_of_returnItems h with
  | carried grouped carried => exact .carried (staged ▸ grouped) (names ▸ carried)
  | everything unstaged chosen explicit =>
    have all : FirstItem q column seen _ := .everything (staged ▸ unstaged) chosen rfl
    rwa [if_pos (stages ▸ explicit)] at all
  | nodes unstaged chosen bare =>
    have all : FirstItem q column seen _ := .everything (staged ▸ unstaged) chosen rfl
    rwa [if_neg (by simp [← stages, bare])] at all
  | @listed columns _ unstaged chosen several written =>
    rw [show itemText (q.asking column) = itemText q from funext nodes.itemText] at written
    cases absent : q.columns.isNull with
    | true =>
      rw [Query.asking, if_pos absent] at chosen
      obtain rfl : columns = [column] := (Except.ok.inj chosen).symm
      rw [List.mapM_cons] at written
      obtain ⟨item, first, rest⟩ := Result.bind_eq_ok written
      obtain rfl := Except.ok.inj rest
      refine .asked (staged ▸ unstaged) absent ?_ first
      rintro rfl
      cases several
    | false =>
      rw [Query.asking, if_neg (Bool.eq_false_iff.mp absent)] at chosen
      exact .chosen (staged ▸ unstaged) absent chosen several written

/-- The text of a select that a column is asked of, and what it returns first. The select has these
branches, of which only the number matters here. -/
inductive LeadsWith (q : Query) (column : Value) (branches : List Branch) :
    String → Option String → Prop
  /-- the first of its items -/
  | item {stage carried order skip limit : String} {seen : Introduced} {items selects : List String} :
      ListsItems q → matchStage parameter q (conditionsOf parameter q) [] = .ok (stage, seen) →
      FirstItem q column seen items.head? →
      LeadsWith q column branches (unionText
        (spaced [stage, carried, itemsText q items, order, skip, limit]) (branches.zip selects)) items.head?
  /-- an aggregate that is there already, which is all that it returns -/
  | aggregate {a : Member Aggregate} {stage carried item order skip limit : String}
      {selects : List String} : isStaged q = false → q.aggregate = some a →
      aggregateText parameter q a = .ok ("RETURN " ++ item) →
      LeadsWith q column branches (unionText
        (spaced [stage, carried, "RETURN " ++ item, order, skip, limit]) (branches.zip selects)) (some item)
  /-- an aggregate over the rows of a whole union -/
  | whole {a : Member Aggregate} {rows item : String} : q.aggregate = some a →
      aggregateText parameter q a = .ok ("RETURN " ++ item) →
      LeadsWith q column branches ("CALL \x7b " ++ rows ++ " \x7d " ++ ("RETURN " ++ item)) (some item)

theorem aggregateText_eq_ok {write : String → String} {a : Member Aggregate}
    (h : aggregateText write q a = .ok text) : ∃ item, text = "RETURN " ++ item := by
  obtain ⟨_, -, h⟩ := Result.bind_eq_ok h
  obtain ⟨_, -, h⟩ := Result.bind_eq_ok h
  exact ⟨_, (Except.ok.inj h).symm⟩

theorem leadsWith_of_selectText {branches : List Branch}
    (h : selectText parameter { q.asking column with branches } = .ok text) :
    ∃ lead, LeadsWith q column branches text lead := by
  -- nothing but the returned items looks at the projection, and nothing of this at the branches
  obtain ⟨columns, same⟩ := exists_asking q column
  have first {seen : Introduced} {items : List String}
      (returned : returnItems (q.asking column) seen = .ok items) :
      FirstItem q column seen items.head? := firstItem_of_returnItems returned
  rw [same] at first h
  obtain ⟨asked, whole⟩ : ∃ asked, asked = ({ q with columns, branches } : Query) := ⟨_, rfl⟩
  have returns : returnItems asked = returnItems { q with columns } := by
    have nodes : Query.SameNodes { q with columns, branches } { q with columns } :=
      ⟨rfl, rfl, fun _ => rfl⟩
    rw [whole]
    exact nodes.returnItems rfl (nodes.carriedNames rfl rfl rfl fun _ => rfl) rfl rfl
  have stage : matchStage parameter asked (conditionsOf parameter asked) [] =
      matchStage parameter q (conditionsOf parameter q) [] := by
    rw [whole]
    rfl
  have projection (a : Member Aggregate) :
      aggregateText parameter asked a = aggregateText parameter q a := by
    have nodes : Query.SameNodes asked q := whole ▸ sameNodes_shown q columns branches
    exact nodes.aggregateText (by rw [whole]) a
  have staged : isStaged asked = isStaged q := by rw [whole]; rfl
  have aggregates : asked.aggregate = q.aggregate := by rw [whole]
  have joined : asked.branches = branches := by rw [whole]
  have listed (items : List String) : itemsText asked items = itemsText q items := by rw [whole]; rfl
  rw [← whole] at h
  cases hasParts_of_selectText h with
  | aggregate _ own written =>
    rw [projection] at written
    obtain ⟨item, rfl⟩ := aggregateText_eq_ok written
    exact ⟨some item, .whole (aggregates ▸ own) written⟩
  | select _ matched _ projects _ _ _ =>
    rw [joined]
    cases projects with
    | aggregate unstaged own written =>
      rw [projection] at written
      obtain ⟨item, rfl⟩ := aggregateText_eq_ok written
      exact ⟨some item, .aggregate (staged ▸ unstaged) (aggregates ▸ own) written⟩
    | listed lists returned =>
      rw [returns] at returned
      rw [listed]
      refine ⟨_, .item (fun unstaged => ?_) (stage ▸ matched) (first returned)⟩
      exact aggregates ▸ lists (staged.trans unstaged)

/-- A query that returns the column it is asked for: it has no projection yet, and neither an aggregate nor
a stage that groups rows. -/
structure ReturnsAsked (q : Query) (column : Value) : Prop where
  unprojected : q.columns.isNull = true
  unstaged : isStaged q = false
  unaggregated : q.aggregate = none
  single : column ≠ star

theorem FirstItem.asked_of_returnsAsked {seen : Introduced} {lead : Option String}
    (h : FirstItem q column seen lead) (returns : ReturnsAsked q column) :
    ∃ item, itemText q column = .ok item ∧ lead = some item := by
  cases h with
  | @asked item _ _ _ written => exact ⟨item, written, rfl⟩
  | chosen _ projected _ _ _ => cases projected.symm.trans returns.unprojected
  | carried staged _ => cases staged.symm.trans returns.unstaged
  | everything _ found all =>
    rw [Query.asking, if_pos returns.unprojected] at found
    obtain rfl := Except.ok.inj found
    exact absurd (List.singleton_inj.mp (eq_star_of_isStar all)) returns.single

theorem LeadsWith.asked {branches : List Branch} {lead : Option String}
    (h : LeadsWith q column branches text lead) (returns : ReturnsAsked q column) :
    ∃ item, itemText q column = .ok item ∧ lead = some item := by
  cases h with
  | item _ _ first => exact first.asked_of_returnsAsked returns
  | aggregate _ own _ | whole own _ => cases own.symm.trans returns.unaggregated

end Cypher

/-! ### What is handed back -/

/-- The value that is handed back for a row: the node that is all it holds, as one of the chosen class, or
else what becomes of its first column. -/
def Registry.Leads (r : Registry) (primary : Option String) (chosen : Value) (row : Row) (x : Value) :
    Prop :=
  (∃ n, LoneNode row n ∧ r.hydrate chosen (.record n) = .ok x) ∨
    (∀ n, ¬ LoneNode row n) ∧ ∃ column rest entry, row = column :: rest ∧
      r.Becomes primary chosen column entry ∧ x = entry.2

namespace LiveQuery

variable {l l' : LiveQuery} {column : Value} {rows : List Row}

theorem leadingValue_hydrate {r : Registry} {chosen x : Value} {n : Record}
    (made : r.hydrate chosen (.record n) = .ok x) : leadingValue x = x := by
  obtain ⟨class?, -, as⟩ := hydrate_eq_ok made
  cases class? with
  | none =>
    obtain rfl : x = .record n := as
    rfl
  | some c =>
    obtain ⟨e, -, -, rfl⟩ := as
    rfl

/-- Of a row that loses no column, the first one is handed back. -/
theorem leads_of_keepsColumns {r : Registry} {primary : Option String} {chosen x : Value} {row : Row}
    (apart : ColumnsApart primary row) (given : row ≠ [])
    (kept : r.KeepsColumns primary chosen (.ofPairs row) x) :
    r.Leads primary chosen row (leadingValue x) := by
  obtain ⟨es, entries, kept⟩ := kept
  obtain rfl : row = es := Option.some.inj entries
  rcases kept with ⟨n, lone, hydrated⟩ | ⟨several, cols, become, rfl, whole, -⟩
  · exact Or.inl ⟨n, lone, (leadingValue_hydrate hydrated).symm ▸ hydrated⟩
  · refine Or.inr ⟨several, ?_⟩
    rw [whole apart]
    cases become with
    | nil => exact absurd rfl given
    | cons first _ => exact ⟨_, _, _, rfl, first, rfl⟩

/-- The live query when a column is asked for. -/
def asking (l : LiveQuery) (column : Value) : LiveQuery :=
  { l with builder := { l.builder with query := l.query.asking column } }

theorem fetchColumns_outcome (l : LiveQuery) (column : Value) :
    (fetchColumns l.query.columns (.ofList [column])).outcome l =
      (.ok (l.query.asking column).columns, l) := by
  unfold fetchColumns Query.asking
  cases l.query.columns.isNull <;> rfl

/-- A column is fetched by the select of the query that it is asked of, and the projection that was there
comes back. -/
theorem fetch_outcome (l : LiveQuery) (column : Value) :
    (fetch (.ofList [column])).outcome l =
      ((select.outcome (l.asking column)).1 >>= l.records l.query.entity,
        (select.outcome (l.asking column)).2.withColumns l.query.columns) := by
  have asked : (change fun q => { q with columns := (l.query.asking column).columns }).outcome l =
      (.ok (), l.asking column) := by
    obtain ⟨columns, same⟩ := exists_asking l.query column
    unfold LiveQuery.asking
    rw [same]
    rfl
  have stays := select_stays (l := l.asking column) (l.asking column) (.refl _)
  have start : (get : Exec LiveQuery LiveQuery).outcome l = (.ok l, l) := rfl
  unfold LiveQuery.fetch
  rw [outcome_bind_ok start, outcome_bind_ok (fetchColumns_outcome l column), outcome_bind_ok asked,
    outcome_bind, outcome_ensuring]
  cases ran : select.outcome (l.asking column) with
  | mk r l' =>
    rw [ran] at stays
    obtain ⟨channel, rfl⟩ : (l.asking column).Stays l' := stays
    cases r with
    | error e => rfl
    | ok rows =>
      obtain ⟨columns, same⟩ := exists_asking l.query column
      unfold LiveQuery.asking
      rw [same]
      rfl

theorem asking_chosen (chosen : l.query.columns.isNull = false) : l.asking column = l := by
  unfold LiveQuery.asking Query.asking
  rw [if_neg (Bool.eq_false_iff.mp chosen)]
  rfl

/-- What is sent when a column is asked for: the bindings of the query, and a statement with what that
returns first, which is the column if the query returns what it is asked for. -/
def SendsLeading (l : LiveQuery) (column : Value) (text : String) (row : Row) : Prop :=
  row = l.builder.table.flatten ∧ ∃ lead,
    LeadsWith l.query column (Query.settle l.number (l.asking column).query).branches text lead ∧
    (ReturnsAsked l.query column → ∃ item, itemText l.query column = .ok item ∧ lead = some item)

theorem fetch_leads (l : LiveQuery) (column : Value) :
    RunsOne (fetch (.ofList [column])) Channel.select (l.SendsLeading column) l := by
  have runs : RunsOne select Channel.select (l.SendsLeading column) (l.asking column) := by
    refine select_runsOne fun text row compiled bound =>
      ⟨parameters_eq (l := l.asking column) bound, ?_⟩
    obtain ⟨-, -, selected⟩ := Result.bind_eq_ok compiled
    obtain ⟨lead, leads⟩ := leadsWith_of_selectText selected
    exact ⟨lead, leads, leads.asked⟩
  have outcome := fetch_outcome l column
  refine ⟨fun a l' done => ?_, fun e l' done => ?_⟩
  · rw [outcome] at done
    obtain ⟨found, rfl⟩ := Prod.mk.inj done
    cases ran : select.outcome (l.asking column) with
    | mk r l' =>
      cases r with
      | error e => rw [ran] at found; cases found
      | ok rows => exact runs.1 rows l' ran
  · rw [outcome] at done
    obtain ⟨-, rfl⟩ := Prod.mk.inj done
    cases ran : select.outcome (l.asking column) with
    | mk r l' =>
      cases r with
      | error e => exact runs.2 e l' ran
      | ok rows => exact Or.inr (runs.1 rows l' ran)

/-- What is handed back for a column: for each row of the select what becomes of its first column, as long
as the rows lose no column. -/
def HandsBack (l : LiveQuery) (column : Value) (values : List Value) : Prop :=
  ∃ rows l' node, select.outcome (l.asking column) = (.ok rows, l') ∧ l.placeholder? = .ok node ∧
    ((∀ row ∈ rows, row ≠ [] ∧ NamedColumns row ∧ ColumnsApart node row) →
      List.Forall₂ (l.registry.Leads node l.query.entity) rows values)

theorem fetch_handsBack {records : List Value}
    (made : (fetch (.ofList [column])).outcome l = (.ok records, l')) :
    l.HandsBack column (records.map leadingValue) := by
  rw [fetch_outcome] at made
  obtain ⟨found, -⟩ := Prod.mk.inj made
  cases ran : select.outcome (l.asking column) with
  | mk r l'' =>
    rw [ran] at found
    obtain ⟨rows, rfl, recorded⟩ := Result.bind_eq_ok found
    obtain ⟨node, named, recorded⟩ := Result.bind_eq_ok recorded
    refine ⟨rows, l'', node, ran, named, fun good => ?_⟩
    have kept := records_columns (fun row member es entries => ?_) recorded
    · rw [List.forall₂_map_right_iff]
      have each := List.forall₂_map_left_iff.mp kept
      refine ((List.forall₂_and_left _ _).mpr ⟨good, each⟩).imp fun row x h => ?_
      exact leads_of_keepsColumns h.1.2.2 h.1.1 h.2
    · obtain ⟨es', inside, rfl⟩ := List.mem_map.mp member
      obtain rfl := Option.some.inj entries
      exact (good _ inside).2.1

/-- The live query when it is asked for one row. -/
def oneRow (l : LiveQuery) : LiveQuery :=
  { l with builder := { l.builder with query := { l.query with limit := .int 1 } } }

theorem limit_oneRow (l : LiveQuery) : (build (Build.limit (.int 1))).outcome l = (.ok (), l.oneRow) := rfl

theorem fetchFirst_leads (l : LiveQuery) (column : Value) :
    RunsOne (fetchFirst (.ofList [column])) Channel.select (l.oneRow.SendsLeading column) l := by
  unfold fetchFirst
  refine .bind (.of_outcome (limit_oneRow l) (fun _ _ => ?_) fun _ c => by cases c)
  exact RunsOne.followed (l := l.oneRow) (fetch_leads l.oneRow column) fun _ _ => .of_pure _

/-- With a projection of its own a query does the same for every column. -/
theorem fetch_chosen (chosen : l.query.columns.isNull = false) (column other : Value) :
    (fetch (.ofList [other])).outcome l = (fetch (.ofList [column])).outcome l := by
  rw [fetch_outcome, fetch_outcome, asking_chosen chosen, asking_chosen chosen]

theorem fetchFirst_chosen (chosen : l.query.columns.isNull = false) (column other : Value) :
    (fetchFirst (.ofList [other])).outcome l = (fetchFirst (.ofList [column])).outcome l := by
  unfold fetchFirst
  rw [outcome_bind_ok (limit_oneRow l), outcome_bind_ok (limit_oneRow l), outcome_bind, outcome_bind,
    fetch_chosen (l := l.oneRow) chosen column other]

theorem fetchFirst_handsBack {v : Value}
    (made : (fetchFirst (.ofList [column])).outcome l = (.ok v, l')) :
    ∃ values, l.oneRow.HandsBack column values ∧ leadingValue v = values.head?.getD .null := by
  unfold fetchFirst at made
  rw [outcome_bind_ok (limit_oneRow l), outcome_bind] at made
  cases ran : (fetch (.ofList [column])).outcome l.oneRow with
  | mk r l'' =>
    rw [ran] at made
    cases r with
    | error e => cases made
    | ok records =>
      obtain rfl := Except.ok.inj (Prod.mk.inj made).1
      refine ⟨_, fetch_handsBack ran, ?_⟩
      cases records <;> rfl

/-- Asking for one column, of all rows or of the first one, runs one statement.  It returns that column
first if the query has no projection yet, no aggregate, and no stage that groups rows.  A query with a
projection does the same for every column.  What is handed back is the first column of each row. -/
theorem fetchColumn_leads (l : LiveQuery) (column : Value) :
    RunsOne (fetchColumn column) Channel.select (l.SendsLeading column) l ∧
    RunsOne (fetchValue column) Channel.select (l.oneRow.SendsLeading column) l ∧
    (l.query.columns.isNull = false → ∀ other,
      (fetchColumn other).outcome l = (fetchColumn column).outcome l ∧
      (fetchValue other).outcome l = (fetchValue column).outcome l) ∧
    (∀ values l', (fetchColumn column).outcome l = (.ok values, l') → l.HandsBack column values) ∧
    ∀ v l', (fetchValue column).outcome l = (.ok v, l') →
      ∃ values, l.oneRow.HandsBack column values ∧ v = values.head?.getD .null := by
  refine ⟨(fetch_leads l column).followed fun _ _ => .of_pure _,
    (fetchFirst_leads l column).followed fun _ _ => .of_pure _, fun chosen other => ?_,
    fun values l' made => ?_, fun v l' made => ?_⟩
  · unfold fetchColumn fetchValue
    simp only [outcome_bind, fetch_chosen chosen column other, fetchFirst_chosen chosen column other,
      and_self]
  · unfold fetchColumn at made
    rw [outcome_bind] at made
    split at made
    · obtain rfl := Except.ok.inj (Prod.mk.inj made).1
      exact fetch_handsBack ‹_›
    · cases made
  · unfold fetchValue at made
    rw [outcome_bind] at made
    split at made
    · obtain rfl := Except.ok.inj (Prod.mk.inj made).1
      exact fetchFirst_handsBack ‹_›
    · cases made

/-- A query without a projection. -/
theorem fetchColumn_leads_asked :
    let l := afterCalls [.target (.text "User"), .orderBy (.text "name") (.text "asc")]
    ReturnsAsked l.query (.text "age") ∧
    RunsOne (fetchColumn (.text "age")) Channel.select (l.SendsLeading (.text "age")) l ∧
    sentTexts ((fetchColumn (.text "age")).outcome l).2 =
      ["MATCH (user:User) RETURN user.age ORDER BY user.name ASC"] := by
  intro l
  exact ⟨⟨rfl, rfl, rfl, by simp [Cypher.star]⟩, (fetchColumn_leads l _).1, by decide +kernel⟩

/-- The age is asked of a query that returns names: its statement returns the name, and the name is handed
back. -/
theorem fetchValue_chosen :
    let l : LiveQuery := { afterCalls [.target (.text "User"), .select [.text "name"]] with
      channel := some ⟨.new .standard, .ofConfig .standard,
        Server.idle.extend "run" [.rows [[(.text "user.name", .text "Ann")]]], some standardPattern⟩ }
    sentTexts ((fetchValue (.text "age")).outcome l).2 = ["MATCH (user:User) RETURN user.name LIMIT 1"] ∧
    ((fetchValue (.text "age")).outcome l).1.toOption.bind (·.text?) = some "Ann" := by
  decide +kernel

end LiveQuery

end GraphQuery
