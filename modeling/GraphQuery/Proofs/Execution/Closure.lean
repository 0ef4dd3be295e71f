import GraphQuery.Proofs.Execution.ClosedQueries
import GraphQuery.Proofs.Execution.Uses
import GraphQuery.Proofs.Execution.WrittenParameters
import GraphQuery.Proofs.Session.Statements

/-! # What reaches the server is closed

A use of a builder runs a statement whose text mentions parameters, and sends a set of parameters with
it that has been prepared.  Both come from the names of columns, along different ways.

* `LiveQuery.RunsOne.closes` : a row that supplies a statement is still closed over it when both
  reach the server;
* `Use.Gives` : the values that a use binds besides those of the query;
* `Use.sendsClosed` : the statement that a use runs is closed over the bindings of its builder and
  these values, for a builder that clause calls have built from columns given by name. -/

namespace GraphQuery

open GraphQuery.Binding GraphQuery.Cypher GraphQuery.Schema GraphQuery.Text Exec

/-! ### From the connection to the server -/

namespace Channel

theorem parametersUnder_of_prepared {c : Channel} {bindings : Value} {parameters : Properties}
    (h : ((prepared bindings).outcome c).1 = .ok parameters) :
    parametersUnder c.datePattern bindings = .ok parameters := by
  have read : (prepared bindings).Ends c
      (fun parameters _ => parametersUnder c.datePattern bindings = .ok parameters) fun _ => True := by
    unfold prepared
    split
    · exact .bind (.of_get (.bind (.ofResult (fun _ _ => .bind (.of_get
        (.ofResult (fun _ found => found) trivial))) trivial)))
    · exact .bind (.of_get (.ofResult (fun _ found => found) trivial))
  exact read.1 parameters c ((prepared_outcome bindings c).trans (by rw [h]))

/-- A way of running a statement with its bindings, which are prepared before it is sent. -/
def RunsPrepared {α : Type} (run : (statement bindings : Value) → Exec Channel α) : Prop :=
  ∀ text bindings (c : Channel), c.OnSession → c.InTransaction → ∃ s : Statement, s.text = text ∧
    s.parameters c = ((prepared bindings).outcome c).1 ∧ c.Sent s ((run text bindings).outcome c).2

theorem select_runsPrepared : RunsPrepared select := fun text bindings _ onSession inTransaction =>
  ⟨.select text bindings, rfl, rfl,
    (Statement.sent onSession inTransaction (.select text bindings)).after⟩

theorem insert_runsPrepared : RunsPrepared insert := fun text bindings _ onSession inTransaction =>
  ⟨.insert text bindings, rfl, rfl,
    (Statement.sent onSession inTransaction (.insert text bindings)).after⟩

theorem affecting_runsPrepared : RunsPrepared affecting := fun text bindings _ onSession inTransaction =>
  ⟨.affecting text bindings, rfl, rfl,
    (Statement.sent onSession inTransaction (.affecting text bindings)).after⟩

theorem Routes.statementRun {c : Channel} {s : Statement} {es : List Event} {count : Nat} {r : Runner}
    {text : Value} {parameters : Properties} (h : c.Routes s es count)
    (member : .statementRun r text parameters ∈ es) :
    text = s.text ∧ s.parameters c = .ok parameters := by
  cases h with
  | unsent => cases member
  | inside _ _ given | read _ _ _ given =>
    cases List.mem_singleton.mp member
    exact ⟨rfl, given⟩
  | refused => cases List.mem_singleton.mp member
  | write _ _ _ given =>
    rcases List.mem_cons.mp member with other | member
    · cases other
    · cases List.mem_singleton.mp member
      exact ⟨rfl, given⟩

end Channel

/-! ### Columns -/

/-- Whether all columns in a value are given by name, whatever is left of it. -/
def Value.ListsNames (columns : Value) : Prop :=
  ∀ (used : Remains) (vs : List Value), Result.ofFailure (used.useUp columns).1.members = .ok vs →
    ∀ v ∈ flatColumns vs, v.isTextual = true

theorem Value.ListsNames.tuple {vs : List Value} (h : ∀ v ∈ flatColumns vs, v.isTextual = true) :
    (Value.tuple vs).ListsNames := fun _ _ read => Except.ok.inj read ▸ h

theorem Value.ListsNames.ofList {vs : List Value} (h : ∀ v ∈ flatColumns vs, v.isTextual = true) :
    (Value.ofList vs).ListsNames := fun _ _ read => Except.ok.inj read ▸ h

/-- A reference to a column counts as itself. -/
theorem isTextual_of_flatColumns {vs : List Value} (h : ∀ v ∈ flatColumns vs, v.isTextual = true) :
    ∀ v ∈ vs, v.isTextual = true := by
  intro v member
  cases v
  case column c => exact h (.column c) (List.mem_flatMap.mpr ⟨_, member, List.mem_singleton_self _⟩)
  all_goals rfl

theorem isQuietColumn_aggregateColumns {vs : List Value} (h : ∀ v ∈ flatColumns vs, v.isTextual = true) :
    ∀ v ∈ aggregateColumns vs, v.IsQuietColumn := by
  unfold aggregateColumns
  dsimp only
  split
  · exact List.forall_mem_singleton.mpr trivial
  · exact fun v member => isQuietColumn_of_isTextual (h v member)

namespace LiveQuery

variable {α β γ : Type} {l : LiveQuery} {given : Value → Prop} {step : Exec LiveQuery β}

/-- Whether every statement that a step runs is closed over the bindings of the builder and what is
given, when it reaches the server. -/
def SendsClosed (step : Exec LiveQuery β) (given : Value → Prop) (l : LiveQuery) : Prop :=
  ∀ c, l.channel = some c → c.OnSession → c.InTransaction →
    ∃ c' news, (step.outcome l).2.channel = some c' ∧ c'.server.events = c.server.events ++ news ∧
      ∀ r text parameters, .statementRun r text parameters ∈ news → ∃ s, text = .text s ∧
        l.builder.table.Closes (c.datePattern.getD standardPattern) given s parameters

theorem sendsClosed_of_unchanged (h : (step.outcome l).2.channel = l.channel) :
    SendsClosed step given l := fun c found _ _ =>
  ⟨c, [], h.trans found, (List.append_nil _).symm, fun _ _ _ none => absurd none List.not_mem_nil⟩

/-- A step that runs one statement sends that one at most, with its bindings as they are prepared. -/
theorem RunsOne.sends {run : (statement bindings : Value) → Exec Channel α} {good : String → Row → Prop}
    (h : RunsOne step run good l) (prepares : Channel.RunsPrepared run) {c : Channel}
    (found : l.channel = some c) (onSession : c.OnSession) (inTransaction : c.InTransaction) :
    ∃ c' news, (step.outcome l).2.channel = some c' ∧ c'.server.events = c.server.events ++ news ∧
      ∀ r text parameters, .statementRun r text parameters ∈ news → ∃ s row, text = .text s ∧
        good s row ∧ parametersUnder c.datePattern (.ofPairs row) = .ok parameters := by
  let left (l' : LiveQuery) : Prop := l'.channel = l.channel ∨ Runs run good l.channel l'.channel
  have ends : step.Ends l (fun _ => left) left := h.imp (fun _ _ => Or.inr) fun _ => id
  rcases ends.after with unchanged | ⟨c', text, row, before, holds, later⟩
  · exact ⟨c, [], unchanged.trans found, (List.append_nil _).symm, fun _ _ _ none =>
      absurd none List.not_mem_nil⟩
  · obtain rfl := Option.some.inj (before.symm.trans found)
    obtain ⟨s, same, parameters, sent⟩ := prepares (.text text) (.ofPairs row) c' onSession inTransaction
    obtain ⟨es, count, route, sees⟩ := sent.events
    obtain ⟨news, events, work⟩ := sees.events
    refine ⟨_, news, later, events, fun r value sent member => ⟨text, row, ?_⟩⟩
    have inside : .statementRun r value sent ∈ es := by
      rw [← work]
      exact List.mem_filter.mpr ⟨member, rfl⟩
    obtain ⟨rfl, given⟩ := route.statementRun inside
    exact ⟨same, holds, Channel.parametersUnder_of_prepared (parameters.symm.trans given)⟩

/-- A row that supplies a statement is closed over it when both reach the server. -/
theorem RunsOne.closes {run : (statement bindings : Value) → Exec Channel α}
    (h : RunsOne step run (l.builder.table.Supplies given) l) (prepares : Channel.RunsPrepared run) :
    SendsClosed step given l := by
  intro c found onSession inTransaction
  obtain ⟨c', news, later, events, sent⟩ := h.sends prepares found onSession inTransaction
  refine ⟨c', news, later, events, fun r text parameters member => ?_⟩
  obtain ⟨s, row, same, supplied, prepared⟩ := sent r text parameters member
  exact ⟨s, same, supplied.closes prepared⟩

theorem SendsClosed.closes (h : SendsClosed step given l) {c : Channel} (found : l.channel = some c)
    (onSession : c.OnSession) (inTransaction : c.InTransaction) (unused : c.server.events = [])
    {text : String} (sent : text ∈ sentTexts (step.outcome l).2) : ∃ parameters,
      l.builder.table.Closes (c.datePattern.getD standardPattern) given text parameters := by
  obtain ⟨c', news, later, events, closed⟩ := h c found onSession inTransaction
  unfold sentTexts at sent
  rw [later, Option.elim_some, events, unused, List.nil_append] at sent
  obtain ⟨e, member, seen⟩ := List.mem_filterMap.mp sent
  split at seen
  · obtain ⟨s, rfl, closes⟩ := closed _ _ _ member
    obtain rfl := Option.some.inj seen
    exact ⟨_, closes⟩
  · cases seen

/-! ### Around the statement -/

theorem RunsOne.mono {run : (statement bindings : Value) → Exec Channel α}
    {good good' : String → Row → Prop} (h : RunsOne step run good l)
    (weaken : ∀ text row, good text row → good' text row) : RunsOne step run good' l := by
  have runs {c c' : Option Channel} : Runs run good c c' → Runs run good' c c' :=
    fun ⟨x, text, row, found, holds, after⟩ => ⟨x, text, row, found, weaken text row holds, after⟩
  exact h.imp (fun _ _ => runs) fun _ => Or.imp_right runs

theorem RunsOne.followed {run : (statement bindings : Value) → Exec Channel α}
    {good : String → Row → Prop} (h : RunsOne step run good l) {next : β → Exec LiveQuery γ}
    (keeps : ∀ a c, (next a).Maintains fun l => l.channel = c) : RunsOne (step >>= next) run good l := by
  refine .bind (h.imp (fun a l' runs => ?_) fun _ => id)
  exact ((keeps a l'.channel).ends rfl).imp (fun _ _ same => same ▸ runs) fun _ same =>
    Or.inr (same ▸ runs)

variable {run : (statement bindings : Value) → Exec Channel α} {good : String → Row → Prop}

theorem ofEntries_flatten (t : BindingTable) : ofEntries t.flatten = t.flatten :=
  ofEntries_distinct (distinctKeys_ofEntries t.entries)

theorem send_runsOne_bound {text : String} (h : good text l.builder.table.flatten) :
    RunsOne (send run text []) run good l := by
  refine send_runsOne fun table flat => ?_
  rw [parameters_eq flat, List.map_nil, List.append_nil, ofEntries_flatten]
  exact h

/-- The percentile of an aggregate is bound, if there is one: its name, and the table afterwards. -/
def BindsPercentile (t : BindingTable) (percentile : Value) (binding : Option String)
    (t' : BindingTable) : Prop :=
  binding = none ∧ t' = t ∨ ∃ x, Result.ofFailure percentile.toDouble = .ok x ∧
    binding = some (t.uniqueName "percentile" []) ∧
      t' = (t.bind "percentile" (.double x) .projection).2

/-- The live query with another aggregate, or without one. -/
def withAggregate (l : LiveQuery) (a : Option Aggregate) : LiveQuery :=
  { l with builder := { l.builder with query := { l.query with aggregate := a.map .clause } } }

/-- The live query with other bindings of the projection. -/
def withProjections (l : LiveQuery) (bound : Row) : LiveQuery :=
  { l with builder := { l.builder with table := l.builder.table.replace .projection bound } }

theorem bindPercentile_ends {percentile : Value} {ok : Option String → LiveQuery → Prop}
    {bad : LiveQuery → Prop} (h : ∀ binding t', BindsPercentile l.builder.table percentile binding t' →
      (binding = none → percentile = .null) →
      ok binding { l with builder := { l.builder with table := t' } }) (error : bad l) :
    (bindPercentile percentile).Ends l ok bad := by
  unfold bindPercentile
  split
  · exact .of_pure (h none l.builder.table (Or.inl ⟨rfl, rfl⟩) fun _ => rfl)
  · refine .bind (.ofResult (fun x read => ?_) error)
    rw [← bind_pure_comp]
    refine .bind (.within (.bind (Build.ask_ends ?_ error)))
    refine .of_outcome (outcome_ofOutcome _ _) (fun name e => .of_pure ?_) fun _ e => by cases e
    obtain rfl := Except.ok.inj e
    exact h _ _ (Or.inr ⟨x, read, rfl, rfl⟩) nofun

/-- The aggregate is there while the statement runs; the clean-up goes on without it. -/
theorem selectAggregate_ends {a : Aggregate} {cleanUp : Exec LiveQuery Unit}
    {ok : List Row → LiveQuery → Prop} {bad : LiveQuery → Prop}
    (ran : select.Ends (l.withAggregate (some a))
      (fun rows l' => cleanUp.Ends (l'.withAggregate none) (fun _ => ok rows) bad)
      fun l' => cleanUp.Ends (l'.withAggregate none) (fun _ => bad) bad) :
    (selectAggregate a cleanUp).Ends l ok bad := by
  refine .bind (.within (.of_modify (.ensuring (ran.imp (fun rows l' last => ?_) fun l' last => ?_))))
  · exact .bind (.within (.of_modify last))
  · exact .bind (.within (.of_modify last))

/-- An aggregate binds its percentile, runs the select with the aggregate in it, and takes both away
again. Between binding and running, columns or a function that cannot be read stop it. -/
theorem aggregate_ends {function columns percentile : Value} {ok bad : LiveQuery → Prop}
    (weaken : ∀ l', ok l' → bad l') (start : bad l)
    (h : ∀ binding t', BindsPercentile l.builder.table percentile binding t' →
      (binding = none → percentile = .null) →
      let bound : LiveQuery := { l with builder := { l.builder with
        table := t', used := (l.builder.used.useUp columns).2 } }
      let given := Result.ofFailure (l.builder.used.useUp columns).1.members
      let name := Result.ofChecked (Checked.inside "function" (readText function))
      ((given.toOption = none ∨ name.toOption = none) → bad bound) ∧
        ∀ vs f, given = .ok vs → name = .ok f →
          select.Ends (bound.withAggregate (some ⟨f, aggregateColumns vs, "aggregate", binding⟩))
            (fun _ l' => ok ((l'.withAggregate none).withProjections l.builder.table.projections))
            fun l' => bad ((l'.withAggregate none).withProjections l.builder.table.projections)) :
    (aggregate function columns percentile).Ends l (fun _ => ok) bad := by
  unfold aggregate
  refine .bind (.within (Build.ask_ends (.bind (.of_get ?_)) start))
  refine .bind (bindPercentile_ends (fun binding t' bound given => ?_) start)
  obtain ⟨stopped, ran⟩ := h binding t' bound given
  refine .bind (.within (Build.useUp_ends (.bind (.of_outcome (outcome_ofResult _ _)
    (fun vs read => ?_) fun e read => stopped (Or.inl (congrArg Except.toOption read))))))
  refine .bind (.of_outcome (outcome_ofResult _ _) (fun f named => ?_)
    fun e named => stopped (Or.inr (congrArg Except.toOption named)))
  refine .bind (selectAggregate_ends ((ran vs f read named).imp (fun rows l' done => ?_) fun l' done => ?_))
  · -- what is left to do reads the rows and leaves the state alone
    refine .within (.of_modify ((Maintains.ends ?_ done).imp (fun _ _ => id) weaken))
    refine .bind .of_get fun l' => .ite (fun _ => .bind (.ofResult _) fun _ => .of_pure _) fun _ => ?_
    cases rows with
    | nil => exact .of_pure _
    | cons row rest => exact .bind (.ofResult _) fun _ => .ofResult _
  · exact .within (.of_modify done)

theorem aggregate_runsOne {function columns percentile : Value}
    (h : ∀ name given binding t' used,
      Result.ofFailure (l.builder.used.useUp columns).1.members = .ok given →
      BindsPercentile l.builder.table percentile binding t' →
      RunsOne select Channel.select good { l with builder := ⟨{ l.query with
        aggregate := some (.clause ⟨name, aggregateColumns given, "aggregate", binding⟩) },
        t', l.builder.tableNumber, used⟩ }) :
    RunsOne (aggregate function columns percentile) Channel.select good l :=
  aggregate_ends (fun _ => Or.inr) (Or.inl rfl) fun binding t' bound _ =>
    ⟨fun _ => Or.inl rfl, fun given name read _ => h name given binding t' _ read bound⟩

/-! ### Reading -/

variable (closed : Query.Closed l.query l.builder.table)

include closed

section fetch

variable {t : BindingTable} (gains : t.Gains l.builder.table given)

include gains

theorem select_supplied : RunsOne select Channel.select (t.Supplies given) l := by
  refine select_runsOne fun text table compiled flat => ?_
  rw [parameters_eq flat]
  exact closed.supplies gains (closed.statementText_namesOnly compiled)

/-- The columns of a fetch do not matter, as long as they are given by name. -/
theorem fetch_supplied {columns : Value} (listed : columns.ListsNames) :
    RunsOne (fetch columns) Channel.select (t.Supplies given) l := by
  refine fetch_runsOne fun v used fetched => ?_
  refine select_supplied (l := { l with builder := { l.builder with
    query := { l.query with columns := v }, used } }) (closed.columns fun chosen found => ?_) gains
  rcases fetched with rfl | ⟨vs, read, rfl⟩
  · exact closed.silent.parts.columns chosen found
  · exact Query.isQuietColumn_of_ofList (fun c member =>
      isQuietColumn_of_isTextual (isTextual_of_flatColumns (listed _ vs read) c member)) found

theorem fetchFirst_supplied {columns : Value} (listed : columns.ListsNames) :
    RunsOne (fetchFirst columns) Channel.select (t.Supplies given) l := by
  let limited : LiveQuery := { l with builder := { l.builder with
    query := { l.query with limit := .int 1 } } }
  have step : (build (Build.limit (.int 1))).outcome l = (.ok (), limited) := rfl
  have fetched := fetch_supplied (l := limited) (closed.limit (.int 1)) gains listed
  unfold fetchFirst
  refine .bind (.of_outcome step (fun _ _ => ?_) fun _ c => by cases c)
  exact RunsOne.followed (l := limited) fetched fun _ _ => .of_pure _

end fetch

theorem aggregate_supplied {function columns percentile : Value} (listed : columns.ListsNames) :
    RunsOne (aggregate function columns percentile) Channel.select (l.builder.table.Supplies fun v =>
      ∃ x, Result.ofFailure percentile.toDouble = .ok x ∧ v = .double x) l := by
  refine aggregate_runsOne fun name given binding t' used read bound => ?_
  have quiet := isQuietColumn_aggregateColumns (listed _ given read)
  have label : Silent "aggregate" := by decide
  have base : IsBindingName "percentile" := by decide
  rcases bound with ⟨rfl, rfl⟩ | ⟨x, percentile, rfl, rfl⟩
  · exact select_supplied (closed.aggregate label quiet fun n none => by cases none) (.refl closed.named)
  · refine select_supplied ((closed.bind base (.double x) .projection).aggregate label quiet ?_)
      (.bind closed.named base.ne_empty .projection ?_)
    · intro n member
      obtain rfl := Option.some.inj member
      exact (BindingTable.mem_names_add
        (text_isIn_eq_false (BindingTable.uniqueName_not_mem _ _)) _ _ _).mpr (Or.inl rfl)
    · exact ⟨x, percentile, rfl⟩

/-! ### One identity -/

omit closed in
theorem requireIdentity_ends {v : Value} (some : v.isNull = false) : (requireIdentity (.value v)).Ends l
    (fun _ _ => ∃ node n, l.query.placeholder? = .ok (.some node) ∧ Build.identity v = .ok n)
    fun l' => l'.channel = l.channel := by
  have facts {γ : Type} {step : Build γ} {b : Builder} {fact : Prop} (h : fact) :
      step.Ends b (fun _ _ => fact) fun _ => True := ⟨fun _ _ _ => h, fun _ _ _ => trivial⟩
  unfold requireIdentity build
  refine .within ((?_ : Exec.Ends _ _ _ fun _ => True).imp (fun _ _ => id) fun _ _ => rfl)
  rw [Build.filter_value "id" some]
  refine .bind (Build.withQuery_ends (f := fun q => q.resolve (.text "id")) (fun c found => ?_) trivial)
  obtain ⟨node, target, rfl⟩ := Build.resolve_id_eq_ok found
  refine .bind (Build.bindColumn_ends (fun x name b' value _ => facts ?_) trivial)
  change (Build.identity v).map Value.int = .ok x at value
  cases read : Build.identity v with
  | error e =>
    rw [read] at value
    cases value
  | ok n => exact ⟨node, n, target, rfl⟩

/-- With an identity, a use goes on with the query that asks for it besides. -/
theorem gains_narrowed {node : String} (target : l.query.placeholder? = .ok (some node)) {v : Value}
    {n : Int} (read : Build.identity v = .ok n) :
    Query.Closed (l.narrowed node n).query (l.narrowed node n).builder.table ∧
      l.builder.table.Gains (l.narrowed node n).builder.table
        fun w => ∃ n, Build.identity v = .ok n ∧ w = .int n := by
  have plain := (placeholder?_isPlainText target).2
  exact ⟨closed.narrowed target (.int n),
    .bind closed.named (Query.Closed.isBindingName_id plain).ne_empty .filter ⟨n, read, rfl⟩⟩

theorem delete_supplied (plain : l.query.standIns = []) (v : Value) :
    RunsOne (delete (.value v)) Channel.affecting
      (l.builder.table.Supplies fun w => ∃ n, Build.identity v = .ok n ∧ w = .int n) l := by
  cases some : v.isNull with
  | true =>
    have none : ¬ (!(Operand.value v).isNull) = true := by
      rw [show (Operand.value v).isNull = true from some]
      decide
    unfold delete
    rw [if_neg none]
    unfold needGrammar build
    refine .bind (.within (Build.ask_ends (.bind (.of_get ?_)) (Or.inl rfl)))
    refine .bind (.ofResult (fun text compiled => ?_) (Or.inl rfl))
    exact send_runsOne_bound (closed.supplies (.refl closed.named)
      (deleteText_namesOnly closed.mentioned closed.silent.parts closed.quiet compiled))
  | false =>
    by_cases known : ∃ node n, l.query.placeholder? = .ok (.some node) ∧ Build.identity v = .ok n
    · obtain ⟨node, n, target, read⟩ := known
      obtain ⟨narrow, gains⟩ := gains_narrowed closed target read
      refine delete_narrowed_runsOne plain target read fun text compiled => ?_
      rw [ofEntries_flatten]
      exact narrow.supplies gains
        (deleteText_namesOnly narrow.mentioned narrow.silent.parts narrow.quiet compiled)
    · have given : (!(Operand.value v).isNull) = true := by
        rw [show (Operand.value v).isNull = false from some]
        rfl
      unfold delete
      rw [if_pos given]
      refine .bind ((requireIdentity_ends some).imp
        (fun _ l' found => absurd found known) fun l' same => ?_)
      exact Or.inl same

theorem fetchById_supplied (plain : l.query.standIns = []) {v : Value} (some : v.isNull = false)
    {columns : Value} (listed : columns.ListsNames) :
    RunsOne (fetchById (.value v) columns) Channel.select
      (l.builder.table.Supplies fun w => ∃ n, Build.identity v = .ok n ∧ w = .int n) l := by
  unfold fetchById
  by_cases known : ∃ node n, l.query.placeholder? = .ok (.some node) ∧ Build.identity v = .ok n
  · obtain ⟨node, n, target, read⟩ := known
    obtain ⟨narrow, gains⟩ := gains_narrowed closed target read
    refine .bind (.of_outcome (requireIdentity_outcome plain target read) (fun _ _ => ?_)
      fun _ c => by cases c)
    exact fetchFirst_supplied narrow gains listed
  · refine .bind ((requireIdentity_ends some).imp (fun _ l' found => absurd found known) fun l' same => ?_)
    exact Or.inl same

theorem relabel_supplied (labels operation : Value) : RunsOne (relabel labels operation)
    Channel.affecting (l.builder.table.Supplies given) l := by
  unfold relabel
  refine .bind (.ofResult (fun _ _ => ?_) (Or.inl rfl))
  refine .bind (.within (Build.readLabels_ends (fun read used => ?_) fun used => Or.inl rfl))
  refine .bind (.of_get (.bind (.ofResult (fun text compiled => ?_) (Or.inl rfl))))
  refine RunsOne.followed (send_runsOne_bound (l := { l with builder := { l.builder with used } }) ?_)
    fun _ _ => .of_pure _
  exact closed.supplies (.refl closed.named)
    (relabelText_namesOnly closed.mentioned closed.silent.parts closed.quiet compiled)

omit closed

/-! ### Writing -/

end LiveQuery

/-- The values that a write binds. -/
def Write.Gives (w : Write) (l : LiveQuery) (v : Value) : Prop :=
  ∃ items, w.items l = .ok items ∧ ∃ i ∈ items, v = writtenValue l.frame.pattern i.value

namespace WriteFrame.Fills

variable {w : WriteFrame} {node front text : String} {slots : List Slot} {row : Row}
  (fills : w.Fills node front slots text row) (named : w.table.WellNamed)

include fills named

/-- What is sent with a write: the bindings of the query, and the slots behind them. -/
theorem keys_eq : ∃ names, row.map Prod.fst = w.table.names ++ names ∧
    names.Perm ((slots.map (·.binding)).map Value.text) := by
  obtain ⟨more, rfl, perm⟩ := fills.whole
  have keys : w.table.flatten.map Prod.fst = w.table.names := congrArg (List.map Prod.fst) named.flatten_eq
  have firsts := (perm.map Prod.fst).map Value.text
  refine ⟨(namedRow more).map Prod.fst, by rw [List.map_append, keys], ?_⟩
  simpa [namedRow, Function.comp_def, Slot.entry] using firsts

theorem mem_keys (k : Value) :
    k ∈ row.map Prod.fst ↔ k ∈ w.table.names ∨ ∃ s ∈ slots, k = .text s.binding := by
  obtain ⟨names, keys, perm⟩ := fills.keys_eq named
  rw [keys, List.mem_append, perm.mem_iff]
  simp [eq_comm]

theorem isBindingKey_of_mem (spelled : w.table.HasBindingNames) :
    ∀ k ∈ row.map Prod.fst, k.IsBindingKey := by
  intro k inside
  rcases (fills.mem_keys named k).mp inside with old | ⟨s, -, rfl⟩
  · exact spelled k old
  · exact ⟨_, rfl, s.spelled⟩

theorem distinct_keys : (row.map Prod.fst).Nodup := by
  obtain ⟨names, keys, perm⟩ := fills.keys_eq named
  rw [keys]
  refine List.nodup_append.mpr ⟨named.distinct, ?_, ?_⟩
  · exact perm.nodup_iff.mpr (fills.distinct.map fun _ _ => Value.text.inj)
  · rintro k old k' new rfl
    obtain ⟨n, member, rfl⟩ := List.mem_map.mp (perm.mem_iff.mp new)
    obtain ⟨s, given, rfl⟩ := List.mem_map.mp member
    exact fills.free s given old

theorem supplies (spelled : w.table.HasBindingNames) {given : Value → Prop}
    (gives : ∀ s ∈ slots, given (writtenValue w.pattern s.item.value))
    (covered : ∃ names, parametersIn text = some names ∧
      ∀ n ∈ names, .text n ∈ w.table.names ∨ ∃ s ∈ slots, s.binding = n) :
    w.table.Supplies given text row := by
  obtain ⟨more, rfl, perm⟩ := fills.whole
  have keys : w.table.flatten.map Prod.fst = w.table.names := congrArg (List.map Prod.fst) named.flatten_eq
  refine ⟨named, ?_, fills.isBindingKey_of_mem named spelled, fills.distinct_keys named,
    fun n v bound => ?_, fun e inside new => ?_⟩
  · obtain ⟨names, read, allowed⟩ := covered
    refine ⟨names, read, fun n hn => (fills.mem_keys named _).mpr ((allowed n hn).imp_right ?_)⟩
    rintro ⟨s, member, rfl⟩
    exact ⟨s, member, rfl⟩
  · refine List.mem_append_left _ ?_
    rw [named.flatten_eq]
    exact named.bound_eq_some_iff.mp bound
  · rcases List.mem_append.mp inside with old | inside
    · exact absurd (keys ▸ List.mem_map_of_mem old) new
    · obtain ⟨p, member, rfl⟩ := List.mem_map.mp inside
      obtain ⟨s, slot, rfl⟩ := List.mem_map.mp (perm.mem_iff.mp member)
      exact gives s slot

end WriteFrame.Fills

/-- A statement that does nothing but write mentions its slots alone. -/
theorem WriteFrame.Fills.covered {w : WriteFrame} {node text : String} {slots : List Slot} {row : Row}
    (fills : w.Fills node "" slots text row) : ∃ names, parametersIn text = some names ∧
      ∀ n ∈ names, .text n ∈ w.table.names ∨ ∃ s ∈ slots, s.binding = n := by
  obtain ⟨body, found, rfl, read, shown⟩ := fills.shown
  refine ⟨found.map (·.name), ?_, fun n hn => Or.inr ?_⟩
  · rw [String.empty_append]
    exact parametersIn_of_mentionsIn read
  · rw [names_of_shown shown, List.map_map] at hn
    exact List.mem_map.mp hn

theorem Write.Fills.supplies {w : Write} {l : LiveQuery} {text : String} {row : Row}
    (fills : w.Fills l text row) (closed : Query.Closed l.query l.builder.table)
    (whole : w.front l.query = .ok "") : l.builder.table.Supplies (w.Gives l) text row := by
  obtain ⟨node, front, items, slots, -, first, asked, same, fills⟩ := fills
  obtain rfl := Except.ok.inj (first.symm.trans whole)
  refine fills.supplies closed.named closed.spelled (fun s member => ?_) fills.covered
  exact ⟨items, asked, s.item, same ▸ List.mem_map_of_mem member, rfl⟩

theorem LiveQuery.update_supplied {l : LiveQuery} (closed : Query.Closed l.query l.builder.table)
    {values : Value} (given : values.isTruthy = true) : RunsOne (update values) Channel.affecting
      (l.builder.table.Supplies ((Write.update values).Gives l)) l := by
  refine updateStatement_runsOne given fun text written compiled => ?_
  obtain ⟨node, front, properties, slots, target, picked, read, asked, ⟨assignments, whole, assigned⟩,
    fills⟩ := updateStatement_fills compiled
  have items : (Write.update values).items l = .ok (changedItems properties) := by
    rw [Write.items, read]
    rfl
  refine fills.supplies closed.named closed.spelled (fun s member => ?_) ?_
  · exact ⟨_, items, s.item, asked ▸ List.mem_map_of_mem member, rfl⟩
  · refine NamesOnly.parametersIn (updateText_namesOnly (fun n hn => Or.inl (closed.mentioned n hn))
      closed.silent.parts closed.quiet (fun a member => Or.inr ?_) whole)
    obtain ⟨s, slot, same⟩ := assigned a member
    exact ⟨s, slot, same ▸ s.spoken_binding.symm⟩

/-! ### Uses -/

namespace Use

/-- The values that a use binds besides those of the query. -/
def Gives (l : LiveQuery) : Use → Value → Prop
  | aggregate _ _ percentile, v => ∃ x, Result.ofFailure percentile.toDouble = .ok x ∧ v = .double x
  | fetchById (.value id) _, v | delete (.value id), v => ∃ n, Build.identity id = .ok n ∧ v = .int n
  | insert values, v => (Write.insert values).Gives l v
  | insertOne values, v => (Write.insertOne values).Gives l v
  | update values, v => (Write.update values).Gives l v
  | createWith values related, v => (Write.createWith values related).Gives l v
  | _, _ => False

/-- Whether a use runs one statement of the builder, where all columns that it is given are given by
name, and an identity as a value. -/
def ListsNames : Use → Prop
  | fetch columns | fetchFirst columns | aggregate _ columns _ | count columns
  | countDistinct columns => columns.ListsNames
  | fetchById id columns => (∃ v, id = .value v ∧ v.isNull = false) ∧ columns.ListsNames
  | fetchValue column | fetchColumn column | sum column | collect column =>
    (Value.ofList [column]).ListsNames
  | delete id => ∃ v, id = .value v
  | createWith values related => (Write.createWith values related).HasMaps
  | hasRows | insert _ | insertOne _ | update _ | relabel _ _ => True
  | total _ | paginate _ _ _ | createEntity _ _ | fetchEntity _ _ => False

end Use

namespace LiveQuery

variable {l : LiveQuery} (closed : Query.Closed l.query l.builder.table)

include closed

theorem plainAggregate_supplied {function columns : Value} {given : Value → Prop}
    (listed : columns.ListsNames) : RunsOne (aggregate function columns .null) Channel.select
      (l.builder.table.Supplies given) l := by
  refine (aggregate_supplied closed listed).mono fun text row supplied => supplied.mono ?_
  rintro v ⟨x, none, -⟩
  cases none

theorem countBy_supplied {function : String} {columns : Value} {given : Value → Prop}
    (listed : columns.ListsNames) : RunsOne (countBy function columns) Channel.select
      (l.builder.table.Supplies given) l :=
  (plainAggregate_supplied closed listed).followed fun _ _ => .bind .of_get fun _ =>
    .ite (fun _ => .of_pure _) fun _ => .bind (.ofResult _) fun _ => .of_pure _

end LiveQuery

open LiveQuery in
/-- Whatever clause calls have built from columns given by name: every parameter of the statement that a
use runs is sent with it, with the prepared form of the value that is bound under its name or that the
use gives, and every binding of the builder is sent under its own name. -/
theorem Use.sendsClosed {l : LiveQuery} (built : l.builder.BuiltByName)
    (clean : AllCutCleanly l.query.branchQueries) (u : Use) (listed : u.ListsNames) :
    SendsClosed u.run (u.Gives l) l := by
  have closed := built.closed clean
  obtain ⟨ledger, reached⟩ := built.reached
  have plain : l.query.standIns = [] := reached.accounted.plain.standIns
  have whole : l.builder.table.Gains l.builder.table (u.Gives l) := .refl closed.named
  cases u with
  | fetch columns =>
    exact (fetch_supplied closed whole listed).closes Channel.select_runsPrepared
  | fetchFirst columns =>
    exact (fetchFirst_supplied closed whole listed).closes Channel.select_runsPrepared
  | fetchById id columns =>
    obtain ⟨⟨v, rfl, some⟩, listed⟩ := listed
    exact (fetchById_supplied closed plain some listed).closes Channel.select_runsPrepared
  | fetchValue column =>
    exact ((fetchFirst_supplied closed whole listed).followed fun _ _ => .of_pure _).closes
      Channel.select_runsPrepared
  | fetchColumn column =>
    exact ((fetch_supplied closed whole listed).followed fun _ _ => .of_pure _).closes
      Channel.select_runsPrepared
  | aggregate function columns percentile =>
    exact (aggregate_supplied closed listed).closes Channel.select_runsPrepared
  | count columns | countDistinct columns =>
    exact (countBy_supplied closed listed).closes Channel.select_runsPrepared
  | sum column | collect column =>
    exact ((plainAggregate_supplied closed listed).followed fun _ _ => .of_pure _).closes
      Channel.select_runsPrepared
  | hasRows =>
    have star : (Value.tuple [star]).ListsNames := .tuple (List.forall_mem_singleton.mpr rfl)
    exact ((countBy_supplied closed star).followed fun _ _ => .ofResult _).closes
      Channel.select_runsPrepared
  | delete id =>
    obtain ⟨v, rfl⟩ := listed
    exact (delete_supplied closed plain v).closes Channel.affecting_runsPrepared
  | relabel labels operation =>
    exact (relabel_supplied closed labels operation).closes Channel.affecting_runsPrepared
  | insert values =>
    cases given : values.isTruthy with
    | true =>
      exact ((insert_runsOne given).mono fun _ _ fills => fills.supplies closed rfl).closes
        Channel.insert_runsPrepared
    | false => exact sendsClosed_of_unchanged (insert_empty given).after
  | insertOne values =>
    exact (insertOne_runsOne.mono fun _ _ fills => fills.supplies closed rfl).closes
      Channel.insert_runsPrepared
  | update values =>
    cases given : values.isTruthy with
    | true => exact (update_supplied closed given).closes Channel.affecting_runsPrepared
    | false => exact sendsClosed_of_unchanged (update_empty given).after
  | createWith values related =>
    exact ((createWith_runsOne listed).mono fun _ _ fills => fills.supplies closed rfl).closes
      Channel.insert_runsPrepared
  | total _ | paginate _ _ _ | createEntity _ _ | fetchEntity _ _ => exact listed.elim

open LiveQuery in
/-- A percentile beside an identity and a comparison with a column whose name is no plain one. -/
theorem Use.sendsClosed_percentile :
    let l := afterCalls [.target (.text "User"), .equals (.text "age (years)") (.int 30),
      .equals (.text "id") (.text "7")]
    let u := Use.aggregate (.text "percentile_cont") (.ofList [.text "age (years)"]) (.int 1)
    l.builder.BuiltByName ∧ AllCutCleanly l.query.branchQueries ∧ u.ListsNames ∧
      SendsClosed u.run (u.Gives l) l ∧ sentTexts (u.run.outcome l).2 =
        ["MATCH (user:User) WHERE user.`age (years)` = $age_years AND id(user) = $iduser " ++
          "RETURN percentileCont(user.`age (years)`, $percentile) AS aggregate"] := by
  intro l u
  have built : l.builder.BuiltByName := (Builder.BuiltByName.empty 1 []).afterCalls rfl rfl
    ⟨trivial, ⟨rfl, trivial, trivial, trivial⟩, ⟨rfl, trivial, trivial, trivial⟩, trivial⟩
    fun _ none => absurd none List.not_mem_nil
  have none : l.query.branchQueries = [] := List.isEmpty_iff.mp (by decide +kernel)
  have clean : AllCutCleanly l.query.branchQueries := by
    rw [none]
    exact fun _ c => absurd c List.not_mem_nil
  have listed : u.ListsNames := Value.ListsNames.ofList (List.forall_mem_singleton.mpr rfl)
  exact ⟨built, clean, listed, Use.sendsClosed built clean u listed, by decide +kernel⟩

open LiveQuery in
/-- A branch whose item is cut inside its quotation: what follows is no longer quoted, and a name in it
that begins with a dollar sign is read as a parameter that nothing binds. -/
theorem Use.sendsClosed_cut :
    let branch := ((runAll [.target (.text "User"), .select [.text "a AS b"],
      .orderBy (.text "x $y") (.text "asc")]).outcome ⟨.empty, .empty, 2, []⟩).2
    let l := afterCalls [.target (.text "User"), .select [.text "name"],
      .union (.query ⟨2, branch.tableNumber, branch.query, branch.table⟩) (.bool false)]
    let u := Use.fetch (.tuple [star])
    l.builder.BuiltByName ∧ u.ListsNames ∧ sentTexts (u.run.outcome l).2 =
        ["MATCH (user:User) RETURN user.name UNION MATCH (user:User) " ++
          "RETURN user.\x60a AS \x60user.name\x60 ORDER BY user.\x60x $y\x60 ASC"] ∧
      ¬ SendsClosed u.run (u.Gives l) l := by
  intro branch l u
  have own : branch.BuiltByName := (Builder.BuiltByName.empty 2 []).afterCalls rfl rfl
    ⟨trivial, List.forall_mem_singleton.mpr rfl, rfl, trivial⟩
    fun _ none => absurd none List.not_mem_nil
  have built : l.builder.BuiltByName := by
    refine (Builder.BuiltByName.empty 1 []).afterCalls rfl rfl
      ⟨trivial, List.forall_mem_singleton.mpr rfl, trivial, trivial⟩ (List.forall_mem_singleton.mpr ?_)
    exact ⟨by decide +kernel, own.reached, own.named, own.silent⟩
  have listed : u.ListsNames := Value.ListsNames.tuple (List.forall_mem_singleton.mpr rfl)
  have sent : sentTexts (u.run.outcome l).2 =
      ["MATCH (user:User) RETURN user.name UNION MATCH (user:User) " ++
        "RETURN user.\x60a AS \x60user.name\x60 ORDER BY user.\x60x $y\x60 ASC"] := by
    decide +kernel
  refine ⟨built, listed, sent, fun closed => ?_⟩
  obtain ⟨parameters, closes⟩ := closed.closes (c := ⟨.new .standard, .ofConfig .standard, .idle,
    some standardPattern⟩) rfl nofun nofun rfl (sent ▸ List.mem_singleton_self _)
  obtain ⟨names, read, bound⟩ := closes.covered
  have mentions : parametersIn ("MATCH (user:User) RETURN user.name UNION MATCH (user:User) " ++
      "RETURN user.\x60a AS \x60user.name\x60 ORDER BY user.\x60x $y\x60 ASC") = some ["y"] := by
    decide +kernel
  obtain rfl := Option.some.inj (mentions.symm.trans read)
  have free : (l.builder.table.bound "y").isNone = true := by decide +kernel
  obtain ⟨v, found | ⟨-, none⟩, -⟩ := bound "y" (List.mem_singleton_self _)
  · rw [found] at free
    cases free
  · exact none

end GraphQuery
