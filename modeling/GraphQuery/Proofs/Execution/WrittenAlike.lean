import GraphQuery.Proofs.Execution.Closure

/-! # Written values and values to filter by

A value that is written goes through two hands on its way to the session.  The builder turns a day, a
moment or a time of day into text, and the connection prepares whatever it is given: it turns days and
moments into text, inside of collections as well, and leaves times of day alone.  A value that nodes are
filtered by goes through the second only.

* `prepareValue_writtenValue` : the first of the two makes a difference to times of day alone;
* `LiveQuery.Hands` : what holds of all parameters that a step hands to the session;
* `Write.represented_alike` : a value reaches the session in the same form, whether it is written or
  filtered by, exactly if it is no time of day. -/

namespace GraphQuery

open GraphQuery.Binding GraphQuery.Cypher GraphQuery.Text Exec

/-- Only a time of day is prepared differently once it has been written down. -/
theorem prepareValue_writtenValue (pattern : String) (v : Value) :
    prepareValue pattern (writtenValue pattern v) = prepareValue pattern v ↔ ∀ t, v ≠ .clock t := by
  cases v with
  | clock t =>
    refine iff_of_false (fun same => ?_) fun other => other t rfl
    cases (same : Value.text (t.format pattern) = .clock t)
  | _ => exact iff_of_true rfl nofun

/-! ### A comparison with a value -/

/-- Whether a column of a query is a property, and no identity. -/
def Query.IsProperty (q : Query) (column : String) : Prop :=
  ∀ c, q.resolve (.text column) = .ok c → c.identity = false

namespace Builder

/-- The name that a value gets when a column is compared with it. -/
def comparisonName (b : Builder) (c : ColumnRef) : String := b.table.uniqueName (bindingBase c) []

/-- The builder that compares a column with a value besides. -/
def compared (b : Builder) (c : ColumnRef) (v : Value) : Builder :=
  { b with table := (b.table.bind (bindingBase c) v .filter).2 }.withWhere
    (.compared .all c "=" (b.comparisonName c))

theorem bound_compared (b : Builder) (c : ColumnRef) (v : Value) :
    (b.compared c v).table.bound (b.comparisonName c) = some v :=
  BindingTable.bound_add_self (BindingTable.uniqueName_not_mem b.table (bindingBase c)) v .filter

theorem branchQueries_compared (b : Builder) (c : ColumnRef) (v : Value) :
    (b.compared c v).query.branchQueries = b.query.branchQueries := by
  show branchQueriesOfAll (b.query.wheres ++ [_]) ++ _ = branchQueriesOfAll b.query.wheres ++ _
  rw [branchQueriesOfAll_append]
  exact congrArg (· ++ _) (List.append_nil _)

end Builder

namespace Build

variable {b : Builder} {c : ColumnRef}

theorem bindColumn_property (plain : b.query.standIns = []) (property : c.identity = false) (v : Value) :
    (bindColumn c v .filter).outcome b =
      (.ok (b.comparisonName c), { b with table := (b.table.bind (bindingBase c) v .filter).2 }) := by
  have value : valueFor c v = .ok v := by rw [valueFor, property]; rfl
  unfold bindColumn bindValue bind
  rw [value, outcome_bind_ok (outcome_ofResult ..), outcome_bind_ok (ask_outcome plain ..), property,
    if_neg Bool.false_ne_true, outcome_bind_ok (ask_outcome plain ..)]
  rfl

variable {column : String} {v : Value} (plain : b.query.standIns = []) (some : v.isNull = false)

include some

theorem equals_eq :
    (Call.equals (.text column) v).run = compare (.value (.text column)) equality v Call.andName := by
  rw [← filter_value column some]
  rfl

include plain

theorem equals_outcome (found : b.query.resolve (.text column) = .ok c) (property : c.identity = false) :
    (Call.equals (.text column) v).run.outcome b = (.ok (), b.compared c v) := by
  have operator : normalizeOperator equality.toValue = .ok "=" := rfl
  have joined : joint Call.andName = .ok .all := rfl
  have resolved : (resolveOperand (.value (.text column))).outcome b = (.ok c, b) := by
    show (b.query.resolve (.text column), b) = _
    rw [found]
  let bound : Builder := { b with table := (b.table.bind (bindingBase c) v .filter).2 }
  have plain' : bound.query.standIns = [] := plain
  rw [equals_eq some]
  unfold compare needList
  rw [outcome_bind_ok resolved, outcome_bind_ok (bindColumn_property plain property v),
    outcome_bind_ok (ask_outcome plain' ..), operator, outcome_bind_ok (outcome_ofResult ..), joined]
  exact addChecked_outcome plain' _

theorem equals_ends (property : b.query.IsProperty column) :
    (Call.equals (.text column) v).run.Ends b
      (fun _ b' => ∃ c, b.query.resolve (.text column) = .ok c ∧ b' = b.compared c v) fun _ => True := by
  cases read : b.query.resolve (.text column) with
  | ok c =>
    exact .of_outcome (equals_outcome plain some read (property c read)) (fun _ _ => ⟨c, rfl, rfl⟩) nofun
  | error e =>
    rw [equals_eq some]
    exact .bind (withQuery_ends (f := fun q => q.resolve (.text column))
      (fun c found => nomatch read.symm.trans found) trivial)

end Build

theorem Builder.BuiltByName.compared {b : Builder} {column : String} {c : ColumnRef} {v : Value}
    (built : b.BuiltByName) (plain : b.query.standIns = []) (some : v.isNull = false)
    (found : b.query.resolve (.text column) = .ok c) (property : c.identity = false) :
    (b.compared c v).BuiltByName := by
  have later : ((runAll [.equals (.text column) v]).outcome b).2.BuiltByName :=
    built.afterCalls rfl rfl ⟨⟨rfl, trivial, trivial, trivial⟩, trivial⟩
      fun _ none => absurd none List.not_mem_nil
  have step : (runAll [.equals (.text column) v]).outcome b = (.ok (), b.compared c v) := by
    unfold runAll
    exact outcome_bind_ok (Build.equals_outcome plain some found property) _
  rwa [step] at later

/-! ### What a step hands over -/

namespace LiveQuery

variable {α β : Type} {l : LiveQuery} {step : Exec LiveQuery β}

/-- Whether all statements that a step hands to the session of a connection with the same grammar are
of a kind, together with their parameters. -/
def Hands (step : Exec LiveQuery β) (kind : String → Properties → Prop) (l : LiveQuery) : Prop :=
  ∀ c, l.channel = some c → c.OnSession → c.InTransaction → c.datePattern = l.datePattern →
    ∃ c' news, (step.outcome l).2.channel = some c' ∧ c'.server.events = c.server.events ++ news ∧
      ∀ r text parameters, .statementRun r text parameters ∈ news →
        ∃ s, text = .text s ∧ kind s parameters

theorem hands_of_unchanged {kind : String → Properties → Prop}
    (h : (step.outcome l).2.channel = l.channel) : Hands step kind l := fun c found _ _ _ =>
  ⟨c, [], h.trans found, (List.append_nil _).symm, fun _ _ _ none => absurd none List.not_mem_nil⟩

theorem RunsOne.hands {run : (statement bindings : Value) → Exec Channel α} {good : String → Row → Prop}
    (h : RunsOne step run good l) (prepares : Channel.RunsPrepared run)
    {kind : String → Properties → Prop} (holds : ∀ text row parameters, good text row →
      parametersUnder l.datePattern (.ofPairs row) = .ok parameters → kind text parameters) :
    Hands step kind l := by
  intro c found onSession inTransaction shared
  obtain ⟨c', news, later, events, sent⟩ := h.sends prepares found onSession inTransaction
  refine ⟨c', news, later, events, fun r text parameters member => ?_⟩
  obtain ⟨s, row, same, good, prepared⟩ := sent r text parameters member
  exact ⟨s, same, holds s row parameters good (shared ▸ prepared)⟩

/-- Reads the nodes where a column equals a value, besides what the query asks for. -/
def fetchWhere (column : String) (v columns : Value) : Exec LiveQuery (List Value) := do
  build (Call.equals (.text column) v).run
  fetch columns

/-- What is read runs the select of the builder that compares the column besides. -/
theorem fetchWhere_runsOne (built : l.builder.BuiltByName) (clean : AllCutCleanly l.query.branchQueries)
    {column : String} (property : l.query.IsProperty column) {v columns : Value}
    (some : v.isNull = false) (listed : columns.ListsNames) :
    RunsOne (fetchWhere column v columns) Channel.select (fun text row => ∃ c,
      l.query.resolve (.text column) = .ok c ∧
        (l.builder.compared c v).table.Supplies (fun _ => False) text row) l := by
  obtain ⟨ledger, reached⟩ := built.reached
  have plain : l.query.standIns = [] := reached.accounted.plain.standIns
  refine .bind (.within ((Build.equals_ends plain some property).imp ?_ ?_))
  · rintro _ _ ⟨c, found, rfl⟩
    have closed := (built.compared plain some found (property c found)).closed
      ((l.builder.branchQueries_compared c v).symm ▸ clean)
    exact (fetch_supplied (l := { l with builder := l.builder.compared c v }) closed (.refl closed.named)
      listed).mono fun text row supplied => ⟨c, found, supplied⟩
  · exact fun _ _ => Or.inl rfl

end LiveQuery

/-! ### One parameter -/

/-- Whether parameters have a value under a name, and only that one. -/
def IsParameter (parameters : Properties) (n : String) (v : Value) : Prop :=
  ∀ x, (n, x) ∈ parameters ↔ x = v

theorem IsParameter.of_distinct {parameters : Properties} {n : String} {v : Value}
    (distinct : (parameters.map Prod.fst).Nodup) (inside : (n, v) ∈ parameters) :
    IsParameter parameters n v := fun x => by
  refine ⟨fun other => ?_, fun same => same ▸ inside⟩
  exact (Prod.mk.inj (List.inj_on_of_nodup_map distinct other inside rfl)).2

/-- What is sent in a slot is the value as it is written and then prepared. -/
theorem WriteFrame.Fills.isParameter {w : WriteFrame} {node front text : String} {slots : List Slot}
    {row : Row} (fills : w.Fills node front slots text row) (named : w.table.WellNamed)
    (spelled : w.table.HasBindingNames) {dates : Option String} {parameters : Properties}
    (sent : parametersUnder dates (.ofPairs row) = .ok parameters) {s : Slot} (slot : s ∈ slots) :
    IsParameter parameters s.binding
      (prepareValue (dates.getD standardPattern) (writtenValue w.pattern s.item.value)) :=
  have keys := fills.isBindingKey_of_mem named spelled
  have distinct := fills.distinct_keys named
  .of_distinct (parametersUnder_distinct keys distinct sent)
    (mem_parametersUnder keys distinct sent (mem_of_entryAt?_text (fills.bound s slot)))

theorem BindingTable.Closes.isParameter {t : BindingTable} {pattern : String} {given : Value → Prop}
    {text : String} {parameters : Properties} (closes : t.Closes pattern given text parameters)
    {n : String} {v : Value} (bound : t.bound n = some v) :
    IsParameter parameters n (prepareValue pattern v) :=
  .of_distinct closes.distinct (closes.kept n v bound)

namespace Write

open LiveQuery

variable {w : Write} {l : LiveQuery}

/-- What a write hands over fills the slots of what it is asked for. -/
theorem hands (maps : w.HasMaps) {kind : String → Properties → Prop}
    (holds : ∀ text row parameters, w.Fills l text row →
      parametersUnder l.datePattern (.ofPairs row) = .ok parameters → kind text parameters) :
    Hands w.run kind l := by
  cases w with
  | insert values =>
    cases given : values.isTruthy with
    | true => exact (insert_runsOne given).hands Channel.insert_runsPrepared holds
    | false => exact hands_of_unchanged (insert_empty given).after
  | insertOne values => exact insertOne_runsOne.hands Channel.insert_runsPrepared holds
  | update values =>
    cases given : values.isTruthy with
    | true => exact (update_runsOne given).hands Channel.affecting_runsPrepared holds
    | false => exact hands_of_unchanged (update_empty given).after
  | createWith values related =>
    exact (createWith_runsOne maps).hands Channel.insert_runsPrepared holds

/-- In queries that clause calls have built from columns given by name, on connections with the same
grammar: a write hands over one parameter for each value that it is asked for, under a name of its own.
Filtering another query by such a value, on a column that is a property, hands over the same for it,
exactly if the value is no time of day. -/
theorem represented_alike {f : LiveQuery} (built : l.builder.BuiltByName) (maps : w.HasMaps)
    (other : f.builder.BuiltByName) (clean : AllCutCleanly f.query.branchQueries)
    (shared : f.datePattern = l.datePattern) {column : String} (property : f.query.IsProperty column)
    {columns : Value} (listed : columns.ListsNames) :
    Hands w.run (fun text parameters => ∃ node front slots row,
      w.items l = .ok (slots.map (·.item)) ∧ l.frame.Fills node front slots text row ∧
      ∀ s ∈ slots, ∃ sent, IsParameter parameters s.binding sent ∧ (s.item.value.isNull = false →
        Hands (fetchWhere column s.item.value columns) (fun _ parameters => ∃ c sent',
          f.query.resolve (.text column) = .ok c ∧
          IsParameter parameters (f.builder.comparisonName c) sent' ∧
          (sent' = sent ↔ ∀ t, s.item.value ≠ .clock t)) f)) l := by
  obtain ⟨ledger, reached⟩ := built.reached
  refine hands maps fun text row parameters filled sent => ?_
  obtain ⟨node, front, items, slots, -, -, asked, same, fills⟩ := filled
  refine ⟨node, front, slots, row, same ▸ asked, fills, fun s slot => ?_⟩
  refine ⟨_, fills.isParameter reached.accounted.named built.named.hasBindingNames sent slot,
    fun some => ?_⟩
  refine (fetchWhere_runsOne other clean property some listed).hands Channel.select_runsPrepared ?_
  rintro text' row' parameters' ⟨c, found, supplied⟩ sent'
  refine ⟨c, _, found, (supplied.closes sent').isParameter (f.builder.bound_compared c _), ?_⟩
  rw [shared, eq_comm]
  exact prepareValue_writtenValue _ _

end Write

/-- The texts among the parameters of the statements that have reached the server. -/
def sentTextParameters (l : LiveQuery) : List (List (String × Option String)) :=
  (l.channel.elim [] (·.server.events)).filterMap fun e => match e with
    | .statementRun _ _ parameters => some (parameters.map fun p => (p.1, p.2.text?))
    | _ => none

open LiveQuery in
/-- A day is sent as the same text, whether it is written or filtered by. -/
theorem Write.represented_alike_day :
    let l := afterCalls [.target (.text "User")]
    let f := afterCalls [.target (.text "User"), .equals (.text "name") (.text "Ann")]
    let day := Value.date ⟨2024, 2, 29⟩
    let w := Write.insertOne (.ofPairs [(.text "born", day), (.text "name", .text "Ann")])
    let star := Value.tuple [Cypher.star]
    w.HasMaps ∧ AllCutCleanly f.query.branchQueries ∧ f.query.IsProperty "born" ∧
      Hands w.run (fun text parameters => ∃ node front slots row,
        w.items l = .ok (slots.map (·.item)) ∧ l.frame.Fills node front slots text row ∧
        ∀ s ∈ slots, ∃ sent, IsParameter parameters s.binding sent ∧ (s.item.value.isNull = false →
          Hands (fetchWhere "born" s.item.value star) (fun _ parameters => ∃ c sent',
            f.query.resolve (.text "born") = .ok c ∧
            IsParameter parameters (f.builder.comparisonName c) sent' ∧
            (sent' = sent ↔ ∀ t, s.item.value ≠ .clock t)) f)) l ∧
      sentTextParameters (w.run.outcome l).2 =
        [[("born", some "2024-02-29 00:00:00"), ("name", some "Ann")]] ∧
      sentTextParameters ((fetchWhere "born" day star).outcome f).2 =
        [[("name", some "Ann"), ("born", some "2024-02-29 00:00:00")]] := by
  intro l f day w star
  have built : l.builder.BuiltByName := (Builder.BuiltByName.empty 1 []).afterCalls rfl rfl
    ⟨trivial, trivial⟩ fun _ none => absurd none List.not_mem_nil
  have other : f.builder.BuiltByName := (Builder.BuiltByName.empty 1 []).afterCalls rfl rfl
    ⟨trivial, ⟨rfl, trivial, trivial, trivial⟩, trivial⟩ fun _ none => absurd none List.not_mem_nil
  have clean : AllCutCleanly f.query.branchQueries := by
    rw [show f.query.branchQueries = [] from List.isEmpty_iff.mp (by decide +kernel)]
    exact fun _ c => absurd c List.not_mem_nil
  have resolved : f.query.resolve (.text "born") = .ok ⟨"born", some "user", false⟩ := rfl
  have property : f.query.IsProperty "born" := fun c found =>
    Except.ok.inj (resolved.symm.trans found) ▸ rfl
  have listed : star.ListsNames := .tuple (List.forall_mem_singleton.mpr rfl)
  exact ⟨trivial, clean, property,
    Write.represented_alike built (w := w) trivial other clean rfl property listed,
    by decide +kernel, by decide +kernel⟩

open LiveQuery in
/-- A time of day is written as text with the first day of a year, and filtered by as it is. -/
theorem Write.represented_alike_clock :
    let l := afterCalls [.target (.text "User")]
    let noon := Value.clock ⟨12, 30, 0, 0, none⟩
    let w := Write.insert (.ofPairs [(.text "at", noon)])
    sentTextParameters (w.run.outcome l).2 = [[("at", some "1900-01-01 12:30:00")]] ∧
      sentTextParameters ((fetchWhere "at" noon (.tuple [star])).outcome l).2 = [[("at", none)]] := by
  decide +kernel

end GraphQuery
