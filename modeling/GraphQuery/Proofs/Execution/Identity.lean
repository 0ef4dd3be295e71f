import GraphQuery.Execution.Write
import GraphQuery.Proofs.Builder.Taking
import GraphQuery.Proofs.Cypher.Narrowing

/-! # Deleting and fetching one identity

Both go on with the query that asks for the identity besides, and run one statement whose stage has a
test for it.  So only the node with that identity is touched if the test is a conjunct of the condition
on the rows.  `LiveQuery.identity_narrows` says when it is one: exactly if nothing looser than `AND`
joins the constraints and the predicates that the query has already.

* `LiveQuery.RunsOne` says what a step does with the connection: it runs one statement, or it fails.
* `LiveQuery.Narrows` says what has to hold of the statement and its bindings. -/

namespace GraphQuery

open GraphQuery.Text GraphQuery.Cypher GraphQuery.Binding BindingTable Exec

namespace Build

variable {b : Builder} {node : String}

theorem addChecked_outcome (plain : b.query.standIns = []) (p : Predicate) :
    (addChecked (.ok p)).outcome b = (.ok (), b.withWhere p) := by
  unfold addChecked addPredicate needList
  have checked : Result.ofChecked (.ok p) = .ok p := rfl
  rw [outcome_bind_ok (ask_outcome plain ..), checked, outcome_bind_ok (outcome_ofResult ..),
    outcome_bind_ok (ask_outcome plain ..)]
  rfl

/-- The column `id` is the identity of the primary node. -/
theorem resolve_id {q : Query} (target : q.placeholder? = .ok (some node)) :
    q.resolve (.text "id") = .ok ⟨"id", some node, true⟩ := by
  have column : trim "id" = "id" := by decide
  have call : identityCall? "id".toList = none := by decide
  have point : splitAtFirst '.' "id".toList = none := by decide
  show q.resolveText "id" = _
  unfold Query.resolveText
  simp only [column, call, point, target]
  rfl

theorem resolve_id_eq_ok {q : Query} {c : ColumnRef} (h : q.resolve (.text "id") = .ok c) :
    ∃ node, q.placeholder? = .ok (some node) ∧ c = ⟨"id", some node, true⟩ := by
  have column : trim "id" = "id" := by decide
  have call : identityCall? "id".toList = none := by decide
  have point : splitAtFirst '.' "id".toList = none := by decide
  cases Query.resolves_of_resolve h with
  | called called => cases (column ▸ call).symm.trans called
  | owned _ cut => cases (column ▸ point).symm.trans cut
  | identity _ target => exact ⟨_, target, rfl⟩
  | property _ _ other => exact (other column).elim

theorem bindColumn_identity (plain : b.query.standIns = []) (hnode : IsPlainText node) {v : Value}
    {n : Int} (read : identity v = .ok n) :
    (bindColumn ⟨"id", some node, true⟩ v .filter).outcome b =
      (.ok (b.table.uniqueName ("id" ++ node) []),
        { b with table := (b.table.bind ("id" ++ node) (.int n) .filter).2 }) := by
  have value : valueFor ⟨"id", some node, true⟩ v = .ok (.int n) := by
    show (identity v).map Value.int = _
    rw [read]
    rfl
  have base : bindingBase ⟨"id", some node, true⟩ = "id" ++ node := identityName_eq hnode
  unfold bindColumn bindValue bind
  rw [value, base, outcome_bind_ok (outcome_ofResult ..), outcome_bind_ok (ask_outcome plain ..),
    if_pos rfl, outcome_bind_ok (ask_outcome plain ..), outcome_bind_ok (ask_outcome plain ..)]
  rfl

theorem isNull_of_identity {v : Value} {n : Int} (read : identity v = .ok n) : v.isNull = false := by
  cases v with
  | null => cases read
  | _ => rfl

theorem filter_value (column : String) {v : Value} (some : v.isNull = false) :
    filter (.value (.text column)) (.some equality) (.some (.value v)) Call.andName =
      compare (.value (.text column)) equality v Call.andName := by
  have single : Operand.isMembership (.some equality) = false := by decide
  have sign : equality.isOperator = true := by decide
  have legal : comparison (.some equality) (.some (.value v)) = .ok (equality, .value v) := by
    show (if isIllegalPair equality (.value v) = true then _ else _) = _
    rw [isIllegalPair_given some]
    rfl
  rw [filter_column _ (by rw [single]; rfl) rfl fun _ => by nofun, legal, ← compareOperand_given some]
  rfl

/-- Asking for an identity binds it under a free name and adds its test. -/
theorem filter_identity (plain : b.query.standIns = [])
    (target : b.query.placeholder? = .ok (some node)) {v : Value} {n : Int}
    (read : identity v = .ok n) :
    (filter (.value (.text "id")) (some equality) (some (.value v)) Call.andName).outcome b =
      (.ok (), { b with
        query := b.query.narrowed node (b.table.uniqueName ("id" ++ node) [])
        table := (b.table.bind ("id" ++ node) (.int n) .filter).2 }) := by
  have operator : normalizeOperator equality.toValue = .ok "=" := rfl
  have joined : joint Call.andName = .ok .all := rfl
  have resolved : (resolveOperand (.value (.text "id"))).outcome b =
      (.ok ⟨"id", some node, true⟩, b) := by
    show (b.query.resolve (.text "id"), b) = _
    rw [resolve_id target]
  rw [filter_value "id" (isNull_of_identity read)]
  unfold compare needList
  let bound : Builder := { b with table := (b.table.bind ("id" ++ node) (.int n) .filter).2 }
  have plain' : bound.query.standIns = [] := plain
  rw [outcome_bind_ok resolved,
    outcome_bind_ok (bindColumn_identity plain (placeholder?_isPlainText target).2 read),
    outcome_bind_ok (ask_outcome plain' ..), operator, outcome_bind_ok (outcome_ofResult ..), joined]
  exact addChecked_outcome plain' _

end Build

/-! ### What the connection runs -/

namespace LiveQuery

variable {α β : Type}

/-- The connection has run one statement, which is `good` together with its bindings. -/
def Runs (run : (statement bindings : Value) → Exec Channel α) (good : String → Row → Prop)
    (before after : Option Channel) : Prop :=
  ∃ c text row, before = some c ∧ good text row ∧
    after = some ((run (.text text) (.ofPairs row)).outcome c).2

/-- A step that succeeds has run one statement, which is good. A step that fails has done that too,
or the connection is what it was. -/
def RunsOne (step : Exec LiveQuery β) (run : (statement bindings : Value) → Exec Channel α)
    (good : String → Row → Prop) (l : LiveQuery) : Prop :=
  step.Ends l (fun _ l' => Runs run good l.channel l'.channel)
    fun l' => l'.channel = l.channel ∨ Runs run good l.channel l'.channel

variable {run : (statement bindings : Value) → Exec Channel α} {good : String → Row → Prop}
  {l : LiveQuery}

theorem needChannel_ends {ok : Unit → LiveQuery → Prop} {bad : LiveQuery → Prop}
    (h : ok () l) (h' : bad l) : needChannel.Ends l ok bad := by
  unfold needChannel build
  refine .bind (.of_outcome (outcome_within ..) (fun _ _ => ?_) fun _ _ => h')
  refine .bind (.of_get ?_)
  split
  · exact .fail h'
  · exact .of_pure h

theorem onChannel_runsOne {text : String} {row : Row} (h : good text row) :
    RunsOne (onChannel (run (.text text) (.ofPairs row))) run good l := by
  unfold RunsOne onChannel
  refine .bind (needChannel_ends ?_ (Or.inl rfl))
  cases found : l.channel with
  | none =>
      refine .of_outcome (?_ : _ = ((.error (.builder .noConnection), l) : Result α × LiveQuery))
        (fun _ c => by cases c) fun _ _ => Or.inl found
      rw [outcome_ofOutcome, found]
  | some c =>
      have runs : Runs run good (some c) (some ((run (.text text) (.ofPairs row)).outcome c).2) :=
        ⟨c, text, row, rfl, h, rfl⟩
      refine .of_outcome (?_ : _ = (((run (.text text) (.ofPairs row)).outcome c).1,
        { l with channel := some ((run (.text text) (.ofPairs row)).outcome c).2 }))
        (fun _ _ => runs) fun _ _ => Or.inr runs
      rw [outcome_ofOutcome, found]

theorem send_runsOne {text : String} {written : Properties}
    (h : ∀ table, l.parameters = .ok table →
      good text (ofEntries (table ++ written.map fun p => (.text p.1, p.2)))) :
    RunsOne (send run text written) run good l := by
  unfold send
  refine .bind (needChannel_ends (.bind (.of_get ?_)) (Or.inl rfl))
  refine .bind (.ofResult (fun bindings e => ?_) (Or.inl rfl))
  obtain ⟨table, flat, built⟩ := Result.bind_eq_ok e
  obtain rfl := Except.ok.inj built
  exact onChannel_runsOne (h table flat)

theorem select_runsOne
    (h : ∀ text table, l.statement = .ok text → l.parameters = .ok table → good text table) :
    RunsOne select Channel.select good l := by
  unfold select
  refine .bind (needChannel_ends (.bind (.of_get ?_)) (Or.inl rfl))
  refine .bind (.ofResult (fun text he => ?_) (Or.inl rfl))
  refine .bind (.ofResult (fun table hp => ?_) (Or.inl rfl))
  exact onChannel_runsOne (h text table he hp)

/-! ### One identity -/

/-- The name that the identity of a node gets when it is asked for. -/
def identityBinding (l : LiveQuery) (node : String) : String :=
  l.builder.table.uniqueName ("id" ++ node) []

/-- The live query that asks for one identity besides. -/
def narrowed (l : LiveQuery) (node : String) (n : Int) : LiveQuery :=
  { l with builder := { l.builder with
      query := l.query.narrowed node (l.identityBinding node)
      table := (l.builder.table.bind ("id" ++ node) (.int n) .filter).2 } }

variable {node : String}

theorem requireIdentity_outcome (plain : l.query.standIns = [])
    (target : l.query.placeholder? = .ok (some node)) {v : Value} {n : Int}
    (read : Build.identity v = .ok n) :
    (requireIdentity (.value v)).outcome l = (.ok (), l.narrowed node n) := by
  have step := Build.filter_identity (b := l.builder) plain target read
  unfold requireIdentity build
  rw [outcome_within, show builderPart.get l = l.builder from rfl, step]
  rfl

/-- What has to hold of a statement that asks for one identity besides: the identity is bound, and the
stage of the statement is narrowed by its test. -/
structure Narrows (l : LiveQuery) (node : String) (n : Int) (text : String) (row : Row) : Prop where
  bound : entryAt? (.text (l.identityBinding node)) row = some (.int n)
  stage : ∃ head stage tail, text = head ++ stage ++ tail ∧
    HasNarrowStage l.query (identityTest node (l.identityBinding node)) stage

/-- A live query that asks for one identity besides, whatever it selects. -/
structure Asks (l : LiveQuery) (node : String) (n : Int) (l' : LiveQuery) : Prop where
  channel : l'.channel = l.channel
  table : l'.builder.table = (l.narrowed node n).builder.table
  query : ∃ q : Query, l'.query = q.narrowed node (l.identityBinding node) ∧
    q.labels = l.query.labels ∧ q.patterns = l.query.patterns ∧ q.wheres = l.query.wheres ∧
    q.standIns = []

theorem asks_narrowed (plain : l.query.standIns = []) (n : Int) :
    Asks l node n (l.narrowed node n) := ⟨rfl, rfl, l.query, rfl, rfl, rfl, rfl, plain⟩

theorem identityBinding_isIdentifier (target : l.query.placeholder? = .ok (some node)) :
    IsIdentifier (l.identityBinding node) :=
  firstFree_isIdentifier (placeholder?_isPlainText target).2 _

theorem bound_narrowed (n : Int) : entryAt? (.text (l.identityBinding node))
    (l.narrowed node n).builder.table.flatten = some (.int n) :=
  bound_add_self (uniqueName_not_mem l.builder.table ("id" ++ node)) (.int n) .filter

theorem bound_ofEntries_narrowed (n : Int) : entryAt? (.text (l.identityBinding node))
    (ofEntries (l.narrowed node n).builder.table.flatten) = some (.int n) := by
  obtain ⟨before, after, narrow, wide, new⟩ :=
    flatten_add (uniqueName_not_mem l.builder.table ("id" ++ node)) (.int n) .filter
  rw [narrow] at new
  rw [show (l.narrowed node n).builder.table.flatten = _ from wide]
  exact (ofEntries_insert new).entryAt?_self

theorem parameters_eq {l : LiveQuery} {table : Row} (h : l.parameters = .ok table) :
    table = l.builder.table.flatten := by
  obtain ⟨-, -, e⟩ := Result.bind_eq_ok h
  exact (Except.ok.inj e).symm

theorem Asks.select {l' : LiveQuery} {n : Int} (h : Asks l node n l')
    (target : l.query.placeholder? = .ok (some node)) (plain : l.query.standIns = []) :
    RunsOne select Channel.select (Narrows l node n) l' := by
  obtain ⟨q, query, labels, patterns, wheres, standIns⟩ := h.query
  have narrow := placeholder?_isPlainText target
  refine select_runsOne fun text table compiled flat => ⟨?_, ?_⟩
  · rw [parameters_eq flat, h.table]
    exact bound_narrowed n
  · -- a branch that is the query itself is brought up to date, and no branch is narrowed
    let whole := q.narrowed node (l.identityBinding node)
    let settled : Query := { q with branches := q.branches.map (Query.settleBranch l'.number whole) }
    have same : Query.settle l'.number l'.query = settled.narrowed node (l.identityBinding node) := by
      unfold Query.settle
      rw [query]
      rfl
    have target' : settled.placeholder? = .ok (some node) := by
      rw [← target]
      unfold Query.placeholder? QueryOver.ask QueryOver.standIn?
      rw [show settled.labels = l.query.labels from labels,
        show settled.standIns = l.query.standIns from standIns.trans plain.symm]
    have agree := statementText_narrowed (q := settled) standIns target' narrow.1 narrow.2
      (identityBinding_isIdentifier (l := l) target)
    rw [← same, show statementText (Query.settle l'.number l'.query) = .ok text from compiled] at agree
    cases other : statementText settled with
    | error e => rw [other] at agree; exact agree.elim
    | ok text' =>
        rw [other] at agree
        obtain ⟨names, head, stage, middle, branches, last, found, -, rfl⟩ := agree
        exact ⟨head, stage, middle ++ branches ++ last, by simp only [String.append_assoc],
          HasNarrowStage.of_parts found labels patterns wheres⟩

theorem delete_outcome (plain : l.query.standIns = [])
    (target : l.query.placeholder? = .ok (some node)) {v : Value} {n : Int}
    (read : Build.identity v = .ok n) :
    (delete (.value v)).outcome l =
      (Exec.ofResult (deleteText (l.narrowed node n).query) >>= fun text =>
        send Channel.affecting text []).outcome (l.narrowed node n) := by
  have grammar : needGrammar.outcome (l.narrowed node n) = (.ok (), l.narrowed node n) := by
    unfold needGrammar build
    rw [outcome_within, show builderPart.get (l.narrowed node n) = (l.narrowed node n).builder from rfl,
      Build.ask_outcome (b := (l.narrowed node n).builder) plain]
    rfl
  have given : (!(Operand.value v).isNull) = true := by
    rw [show (Operand.value v).isNull = false from Build.isNull_of_identity read]
    rfl
  unfold delete
  rw [if_pos given]
  show (requireIdentity (.value v) >>= fun _ => _ : Exec LiveQuery Int).outcome l = _
  rw [outcome_bind_ok (requireIdentity_outcome plain target read), outcome_bind_ok grammar]
  rfl

theorem delete_narrowed_runsOne (plain : l.query.standIns = [])
    (target : l.query.placeholder? = .ok (some node)) {v : Value} {n : Int}
    (read : Build.identity v = .ok n)
    (h : ∀ text, deleteText (l.narrowed node n).query = .ok text →
      good text (ofEntries (l.narrowed node n).builder.table.flatten)) :
    RunsOne (delete (.value v)) Channel.affecting good l := by
  have ends : RunsOne (Exec.ofResult (deleteText (l.narrowed node n).query) >>= fun text =>
      send Channel.affecting text []) Channel.affecting good (l.narrowed node n) := by
    refine .bind (.ofResult (fun text compiled => send_runsOne fun table flat => ?_) (Or.inl rfl))
    rw [parameters_eq flat, List.map_nil, List.append_nil]
    exact h text compiled
  refine ⟨fun a s' e => ends.1 a s' ?_, fun f s' e => ends.2 f s' ?_⟩
  · rw [← delete_outcome plain target read, e]
  · rw [← delete_outcome plain target read, e]

/-- Deleting one identity fails as deleting from the query does; where it does not, the text is
narrowed. -/
theorem deleteText_asks {n : Int} (target : l.query.placeholder? = .ok (some node)) :
    Result.Agree (fun text _ => ∀ row,
        row = ofEntries ((l.narrowed node n).builder.table.flatten) → Narrows l node n text row)
      (deleteText (l.narrowed node n).query) (deleteText l.query) := by
  have narrow := placeholder?_isPlainText target
  refine (deleteText_narrowed target narrow.1 narrow.2 (identityBinding_isIdentifier target)).imp ?_
  rintro text _ ⟨stage, tail, rfl, found⟩ row rfl
  exact ⟨bound_ofEntries_narrowed n, "", stage, tail, by simp, found⟩

theorem delete_runsOne (plain : l.query.standIns = [])
    (target : l.query.placeholder? = .ok (some node)) (n : Int) :
    RunsOne (delete (.value (.int n))) Channel.affecting (Narrows l node n) l := by
  refine delete_narrowed_runsOne (v := .int n) plain target rfl fun text compiled => ?_
  have agree := deleteText_asks (n := n) target
  rw [compiled] at agree
  cases other : deleteText l.query with
  | error e => rw [other] at agree; exact agree.elim
  | ok text' =>
      rw [other] at agree
      exact agree _ rfl

/-- Other columns, another limit, and streams that have been gone through do not matter. -/
theorem Asks.other {l' : LiveQuery} {n : Int} (h : Asks l node n l') (columns limit : Value)
    (used : Remains) : Asks l node n
      { l' with builder := ⟨{ l'.query with columns, limit }, l'.builder.table, l'.builder.tableNumber,
        used⟩ } := by
  obtain ⟨q, query, labels, patterns, wheres, standIns⟩ := h.query
  refine ⟨h.channel, h.table, { q with columns, limit }, ?_, labels, patterns, wheres, standIns⟩
  show { l'.query with columns, limit } = _
  rw [query]
  rfl

/-- The columns of a fetch: those of the query, or else the ones that are asked for. -/
def FetchedColumns (l : LiveQuery) (columns v : Value) : Prop :=
  v = l.query.columns ∨
    ∃ vs, Result.ofFailure (l.builder.used.useUp columns).1.members = .ok vs ∧ v = .ofList vs

/-- The live query with other columns. -/
def withColumns (l : LiveQuery) (columns : Value) : LiveQuery :=
  { l with builder := { l.builder with query := { l.query with columns } } }

theorem change_ends {f : Query → Query} {ok : Unit → LiveQuery → Prop} {bad : LiveQuery → Prop}
    (h : ok () { l with builder := { l.builder with query := f l.query } }) :
    (change f).Ends l ok bad :=
  .of_outcome (r := .ok ()) rfl (fun _ _ => h) fun _ e => by cases e

/-- What is fetched is asked for with other columns, and the columns that were there come back. -/
theorem fetch_ends {columns : Value} {ok bad : LiveQuery → Prop} (weaken : ∀ l', ok l' → bad l')
    (h : ∀ used, used = l.builder.used ∨ used = (l.builder.used.useUp columns).2 →
      let given : LiveQuery := { l with builder := { l.builder with used } }
      bad given ∧ ∀ v, l.FetchedColumns columns v → select.Ends (given.withColumns v)
        (fun _ l' => ok (l'.withColumns l.query.columns))
        fun l' => bad (l'.withColumns l.query.columns)) :
    (fetch columns).Ends l (fun _ => ok) bad := by
  have chosen : (fetchColumns l.query.columns columns).Ends l
      (fun v l' => l.FetchedColumns columns v ∧ ∃ used,
        (used = l.builder.used ∨ used = (l.builder.used.useUp columns).2) ∧
          l' = { l with builder := { l.builder with used } }) bad := by
    unfold fetchColumns useUp build
    split
    · refine .bind (.within (Build.useUp_ends (.bind (.ofResult (fun vs read => ?_) ?_))))
      · exact .of_pure ⟨Or.inr ⟨vs, read, rfl⟩, _, Or.inr rfl, rfl⟩
      · exact (h _ (Or.inr rfl)).1
    · exact .of_pure ⟨Or.inl rfl, _, Or.inl rfl, rfl⟩
  unfold LiveQuery.fetch
  refine .bind (.of_get (.bind (chosen.imp ?_ fun _ => id)))
  rintro v _ ⟨fetched, used, left, rfl⟩
  refine .bind (change_ends (.bind (.ensuring ?_)))
  refine ((h used left).2 v fetched).imp (fun rows l' done => ?_) fun l' done => ?_
  · exact change_ends (.bind (.of_get (.ofResult (fun _ _ => done) (weaken _ done))))
  · exact change_ends done

theorem fetch_runsOne {columns : Value} (h : ∀ v used, l.FetchedColumns columns v →
    RunsOne select Channel.select good
      { l with builder := { l.builder with query := { l.query with columns := v }, used } }) :
    RunsOne (fetch columns) Channel.select good l :=
  fetch_ends (fun _ => Or.inr) fun used _ => ⟨Or.inl rfl, fun v fetched => h v used fetched⟩

theorem Asks.fetch {l' : LiveQuery} {n : Int} (h : Asks l node n l')
    (target : l.query.placeholder? = .ok (some node)) (plain : l.query.standIns = [])
    (columns : Value) : RunsOne (fetch columns) Channel.select (Narrows l node n) l' :=
  fetch_runsOne fun v used _ => (h.other v l'.query.limit used).select target plain

theorem fetchById_runsOne (plain : l.query.standIns = [])
    (target : l.query.placeholder? = .ok (some node)) (n : Int) (columns : Value) :
    RunsOne (fetchById (.value (.int n)) columns) Channel.select (Narrows l node n) l := by
  have limited : (build (Build.limit (.int 1))).outcome (l.narrowed node n) =
      (.ok (), { l.narrowed node n with builder := ⟨{ (l.narrowed node n).query with limit := .int 1 },
        (l.narrowed node n).builder.table, (l.narrowed node n).builder.tableNumber,
        (l.narrowed node n).builder.used⟩ }) := rfl
  have fetched := ((asks_narrowed plain n).other (l.narrowed node n).query.columns (.int 1)
    (l.narrowed node n).builder.used).fetch target plain columns
  unfold fetchById fetchFirst
  refine .bind (.of_outcome (requireIdentity_outcome (v := .int n) plain target rfl) (fun _ _ => ?_)
    fun _ c => by cases c)
  refine .bind (.of_outcome limited (fun _ _ => ?_) fun _ c => by cases c)
  exact .bind (fetched.imp (fun _ _ runs => .of_pure runs) fun _ => id)

/-- Deleting one identity and fetching one run a statement that binds it under a new name and tests for
it beside all other conditions; the test is a conjunct exactly if these are conjunctions. -/
theorem identity_narrows (plain : l.query.standIns = [])
    (target : l.query.placeholder? = .ok (some node)) (n : Int) (columns : Value) :
    .text (l.identityBinding node) ∉ l.builder.table.names ∧
      RunsOne (delete (.value (.int n))) Channel.affecting (Narrows l node n) l ∧
      RunsOne (fetchById (.value (.int n)) columns) Channel.select (Narrows l node n) l :=
  ⟨uniqueName_not_mem l.builder.table ("id" ++ node), delete_runsOne plain target n,
    fetchById_runsOne plain target n columns⟩

/-- A live query that some calls have built, on a connection that has not run anything. -/
def afterCalls (calls : List Call) : LiveQuery :=
  ⟨((runAll calls).outcome ⟨.empty, .empty, 1, []⟩).2, 1,
    some ⟨.new .standard, .ofConfig .standard, .idle, some standardPattern⟩, .empty,
    some standardPattern⟩

/-- With one predicate. -/
theorem identity_narrows_compared :
    let l := afterCalls [.target (.text "User"), .equals (.text "age") (.int 30)]
    l.query.standIns = [] ∧ l.query.placeholder? = .ok (some "user") ∧
      .text (l.identityBinding "user") ∉ l.builder.table.names ∧
      RunsOne (delete (.value (.int 5))) Channel.affecting (Narrows l "user" 5) l ∧
      RunsOne (fetchById (.value (.int 5)) (.tuple [star])) Channel.select (Narrows l "user" 5) l :=
  ⟨rfl, rfl, identity_narrows rfl rfl 5 (.tuple [star])⟩

/-- The texts of the statements that have reached the server. -/
def sentTexts (l : LiveQuery) : List String :=
  (l.channel.elim [] (·.server.events)).filterMap fun e => match e with
    | .statementRun _ text _ => text.text?
    | _ => none

/-- With two predicates that `OR` joins, the test is not a conjunct, and other nodes are deleted. -/
theorem delete_beside_or : ∃ condition,
    sentTexts ((delete (.value (.int 5))).outcome (afterCalls [.target (.text "User"),
      .equals (.text "age") (.int 30),
      .orFilter (.value (.text "name")) (some (.value (.text "Ann"))) none])).2 =
      ["MATCH (user:User) WHERE " ++ condition ++
        " DETACH DELETE user RETURN count(user) AS affected"] ∧
    ¬ HasConjunct "id(user) = $iduser" condition := by
  have read : readCondition "user.age = $age OR user.name = $name AND id(user) = $iduser" =
      some (.node .disjunction (.leaf "user.age = $age")
        (.node .conjunction (.leaf "user.name = $name") (.leaf "id(user) = $iduser"))) := by
    decide +kernel
  refine ⟨"user.age = $age OR user.name = $name AND id(user) = $iduser", by decide +kernel, ?_⟩
  rintro ⟨t, found, conjunct⟩
  obtain rfl := Option.some.inj (read.symm.trans found)
  cases conjunct

end LiveQuery

end GraphQuery
