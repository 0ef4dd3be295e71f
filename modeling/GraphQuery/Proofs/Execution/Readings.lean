import GraphQuery.Proofs.Execution.Closure

/-! # What reading leaves behind

Reading sets something for the time of one statement: a fetch the columns that are asked for, an
aggregate itself and the binding of its percentile.

* `Reading.Sends` : the statement of a reading and its bindings, with a percentile under a name that
  was free;
* `LiveQuery.Stays` : the same live query, on a connection that may have run something;
* `Reading.builder_restored` : however the statement ends, the builder is what it was. -/

namespace GraphQuery

open GraphQuery.Binding GraphQuery.Cypher GraphQuery.Schema GraphQuery.Text Exec

namespace LiveQuery

/-- The same live query, on a connection that may have run something. -/
def Stays (l l' : LiveQuery) : Prop := ∃ channel, l' = { l with channel }

variable {l : LiveQuery} {α : Type}

theorem Stays.refl (l : LiveQuery) : l.Stays l := ⟨l.channel, rfl⟩

theorem needChannel_stays : needChannel.Maintains l.Stays := fun _ same =>
  (needChannel_ends same same).after

theorem onChannel_stays {step : Exec Channel α} : (onChannel step).Maintains l.Stays := by
  refine needChannel_stays.bind fun _ => ?_
  rintro _ ⟨channel, rfl⟩
  cases channel with
  | none => exact ⟨none, rfl⟩
  | some c => exact ⟨some (step.outcome c).2, rfl⟩

theorem select_stays : select.Maintains l.Stays :=
  needChannel_stays.bind fun _ => .bind .of_get fun _ => .bind (.ofResult _) fun _ =>
    .bind (.ofResult _) fun _ => onChannel_stays

end LiveQuery

/-- What reads with the query of a builder, with its arguments: records, a column of them, and the
aggregates. The function of an aggregate is any text. -/
inductive Reading where
  | fetch (columns : Value)
  | fetchColumn (column : Value)
  | hasRows
  | aggregate (function : String) (columns percentile : Value)
  | count (columns : Value)
  | countDistinct (columns : Value)
  | sum (column : Value)
  | average (column : Value)
  | minimum (column : Value)
  | maximum (column : Value)
  | deviation (column : Value)
  | populationDeviation (column : Value)
  | discretePercentile (column percentile : Value)
  | continuousPercentile (column percentile : Value)
  | collect (column : Value)

namespace Reading

/-- What a reading is answered with. -/
abbrev Answer : Reading → Type
  | fetch _ | fetchColumn _ => List Value
  | hasRows => Bool
  | _ => Value

/-- Runs the statement. -/
def run : (r : Reading) → Exec LiveQuery r.Answer
  | fetch columns => LiveQuery.fetch columns
  | fetchColumn column => LiveQuery.fetchColumn column
  | hasRows => LiveQuery.hasRows
  | aggregate function columns percentile => LiveQuery.aggregate (.text function) columns percentile
  | count columns => LiveQuery.count columns
  | countDistinct columns => LiveQuery.countDistinct columns
  | sum column => LiveQuery.sum column
  | average column => LiveQuery.average column
  | minimum column => LiveQuery.minimum column
  | maximum column => LiveQuery.maximum column
  | deviation column => LiveQuery.deviation column
  | populationDeviation column => LiveQuery.populationDeviation column
  | discretePercentile column percentile => LiveQuery.discretePercentile column percentile
  | continuousPercentile column percentile => LiveQuery.continuousPercentile column percentile
  | collect column => LiveQuery.collect column

/-- The columns that a reading is about. -/
def columns : Reading → Value
  | fetch columns | aggregate _ columns _ | count columns | countDistinct columns => columns
  | hasRows => .tuple [star]
  | fetchColumn column | sum column | average column | minimum column | maximum column
  | deviation column | populationDeviation column | discretePercentile column _
  | continuousPercentile column _ | collect column => .ofList [column]

/-- The function of an aggregate; a fetch has none. -/
def function? : Reading → Option String
  | fetch _ | fetchColumn _ => none
  | hasRows | count _ => some "count"
  | aggregate function _ _ => some function
  | countDistinct _ => some "count_distinct"
  | sum _ => some "sum"
  | average _ => some "avg"
  | minimum _ => some "min"
  | maximum _ => some "max"
  | deviation _ => some "stdev"
  | populationDeviation _ => some "stdevp"
  | discretePercentile _ _ => some "percentile_disc"
  | continuousPercentile _ _ => some "percentile_cont"
  | collect _ => some "collect"

/-- The percentile of an aggregate, null without one. -/
def percentile : Reading → Value
  | aggregate _ _ percentile | discretePercentile _ percentile
  | continuousPercentile _ percentile => percentile
  | _ => .null

/-- What a reading hands to the connection: the statement of the query with the columns or with the
aggregate that is asked for, and the bindings of the builder. A percentile is bound besides, as a
double and under a name that was free. -/
def Sends (r : Reading) (l : LiveQuery) (text : String) (row : Row) : Prop :=
  match r.function? with
  | none => row = l.builder.table.flatten ∧
      ∃ columns, (l.withColumns columns).statement = .ok text
  | some f => ∃ columns binding,
      (l.withAggregate (some ⟨f, columns, "aggregate", binding⟩)).statement = .ok text ∧
        (r.percentile = .null ∧ binding = none ∧ row = l.builder.table.flatten ∨
          ∃ x name, r.percentile.toDouble = .ok x ∧ binding = some name ∧
            .text name ∉ l.builder.table.names ∧
              row = (l.builder.table.add (.text name) (.double x) .projection).flatten)

variable {l : LiveQuery} {ok bad : LiveQuery → Prop}

theorem run_ends (r : Reading) (weaken : ∀ l', ok l' → bad l')
    (fetched : r.function? = none → (LiveQuery.fetch r.columns).Ends l (fun _ => ok) bad)
    (counted : ∀ f, r.function? = some f →
      (LiveQuery.aggregate (.text f) r.columns r.percentile).Ends l (fun _ => ok) bad) :
    r.run.Ends l (fun _ => ok) bad := by
  have followed {α β : Type} {step : Exec LiveQuery α} {next : α → Exec LiveQuery β}
      (h : step.Ends l (fun _ => ok) bad) (keeps : ∀ a, (next a).Maintains ok) :
      (step >>= next).Ends l (fun _ => ok) bad :=
    .bind (h.imp (fun a _ done => ((keeps a).ends done).imp (fun _ _ => id) weaken) fun _ => id)
  have countBy {function : String} {columns : Value}
      (h : (LiveQuery.aggregate (.text function) columns .null).Ends l (fun _ => ok) bad) :
      (LiveQuery.countBy function columns).Ends l (fun _ => ok) bad :=
    followed h fun _ => .bind .of_get fun _ => .ite (fun _ => .of_pure _) fun _ =>
      .bind (.ofResult _) fun _ => .of_pure _
  cases r with
  | fetch columns => exact fetched rfl
  | fetchColumn column => exact followed (fetched rfl) fun _ => .of_pure _
  | hasRows =>
    exact followed (countBy (counted _ rfl)) fun v => .ofResult (LiveQuery.isPositiveCount v)
  | count columns | countDistinct columns => exact countBy (counted _ rfl)
  | sum column | collect column => exact followed (counted _ rfl) fun _ => .of_pure _
  | aggregate _ _ _ | average _ | minimum _ | maximum _ | deviation _ | populationDeviation _
  | discretePercentile _ _ | continuousPercentile _ _ => exact counted _ rfl

/-! ### What is sent -/

theorem sends_fetch {r : Reading} (isFetch : r.function? = none) :
    LiveQuery.RunsOne (LiveQuery.fetch r.columns) Channel.select (r.Sends l) l := by
  refine LiveQuery.fetch_runsOne fun v used _ => LiveQuery.select_runsOne fun text row compiled flat => ?_
  have sent : row = l.builder.table.flatten ∧
      ∃ columns, (l.withColumns columns).statement = .ok text :=
    ⟨LiveQuery.parameters_eq flat, v, compiled⟩
  unfold Sends
  rw [isFetch]
  exact sent

theorem sends_aggregate {r : Reading} {f : String} (isAggregate : r.function? = some f) :
    LiveQuery.RunsOne (LiveQuery.aggregate (.text f) r.columns r.percentile) Channel.select
      (r.Sends l) l := by
  refine LiveQuery.aggregate_ends (fun _ => Or.inr) (Or.inl rfl) fun binding t' bound given =>
    ⟨fun _ => Or.inl rfl, fun vs name _ read => ?_⟩
  obtain rfl : f = name := Except.ok.inj read
  refine LiveQuery.select_runsOne fun text row compiled flat => ?_
  obtain rfl := LiveQuery.parameters_eq flat
  unfold Sends
  rw [isAggregate]
  refine ⟨aggregateColumns vs, binding, compiled, ?_⟩
  rcases bound with ⟨rfl, rfl⟩ | ⟨x, double, rfl, rfl⟩
  · exact Or.inl ⟨given rfl, rfl, rfl⟩
  · cases read : r.percentile.toDouble with
    | error e =>
      rw [read] at double
      cases double
    | ok y =>
      rw [read] at double
      obtain rfl := Except.ok.inj double
      exact Or.inr ⟨y, _, rfl, rfl, l.builder.table.uniqueName_not_mem "percentile", rfl⟩

/-! ### What is left -/

/-- The same live query, but for what its connection has run and for a stream of columns that has been
gone through. -/
def Leaves (r : Reading) (l l' : LiveQuery) : Prop :=
  ∃ channel used, l' = { l with channel, builder := { l.builder with used } } ∧
    (used = l.builder.used ∨ used = (l.builder.used.useUp r.columns).2)

theorem leaves_fetch (r : Reading) :
    (LiveQuery.fetch r.columns).Ends l (fun _ => r.Leaves l) (r.Leaves l) := by
  refine LiveQuery.fetch_ends (fun _ => id) fun used left => ⟨⟨l.channel, used, rfl, left⟩, fun v _ => ?_⟩
  have back (l' : LiveQuery) (same : LiveQuery.Stays
      (LiveQuery.withColumns { l with builder := { l.builder with used } } v) l') :
      r.Leaves l (l'.withColumns l.query.columns) := by
    obtain ⟨channel, rfl⟩ := same
    exact ⟨channel, used, rfl, left⟩
  exact (LiveQuery.select_stays.ends (.refl _)).imp (fun _ => back) back

/-- The bindings of the projection are those before the percentile again, and the others have been so
all the time. -/
theorem replace_bound {t t' : BindingTable} {percentile : Value} {binding : Option String}
    (bound : LiveQuery.BindsPercentile t percentile binding t') :
    t'.replace .projection t.projections = t := by
  rcases bound with ⟨-, rfl⟩ | ⟨x, -, -, rfl⟩
  · rfl
  · rfl

/-- Columns can be gone through or not, whatever part of them is used up. -/
theorem members_useUp_iff (used : Remains) (columns : Value) :
    (∃ vs, Result.ofFailure (used.useUp columns).1.members = .ok vs) ↔ columns.members?.isSome := by
  have plain (v : Value) : (∃ vs, Result.ofFailure v.members = .ok vs) ↔ v.members?.isSome := by
    unfold Value.members
    cases v.members? with
    | none => exact ⟨fun ⟨_, c⟩ => (by cases c), nofun⟩
    | some vs => exact ⟨fun _ => rfl, fun _ => ⟨vs, rfl⟩⟩
  cases columns with
  | stream xs mark => exact ⟨fun _ => rfl, fun _ => ⟨_, rfl⟩⟩
  | _ => exact plain _

/-- An aggregate that is stopped before its statement leaves the percentile bound, so its columns have
to be some that can be gone through. -/
theorem leaves_aggregate {r : Reading} (f : String) (free : l.query.aggregate = none)
    (listed : r.percentile = .null ∨ r.columns.members?.isSome) :
    (LiveQuery.aggregate (.text f) r.columns r.percentile).Ends l (fun _ => r.Leaves l)
      (r.Leaves l) := by
  refine LiveQuery.aggregate_ends (fun _ => id) ⟨l.channel, _, rfl, Or.inl rfl⟩
    fun binding t' bound given => ⟨fun stopped => ?_, fun vs name _ _ => ?_⟩
  · rcases listed with absent | listed
    · rw [absent] at bound
      obtain rfl : t' = l.builder.table := by
        rcases bound with ⟨-, same⟩ | ⟨x, read, -⟩
        · exact same
        · cases read
      exact ⟨l.channel, _, rfl, Or.inr rfl⟩
    · obtain ⟨vs, read⟩ := (members_useUp_iff l.builder.used r.columns).mpr listed
      rw [read] at stopped
      rcases stopped with none | none <;> cases none
  · have back (l' : LiveQuery) (same : LiveQuery.Stays (LiveQuery.withAggregate { l with
        builder := { l.builder with table := t', used := (l.builder.used.useUp r.columns).2 } }
          (some ⟨name, aggregateColumns vs, "aggregate", binding⟩)) l') :
        r.Leaves l ((l'.withAggregate none).withProjections l.builder.table.projections) := by
      obtain ⟨channel, rfl⟩ := same
      have query : { l.query with aggregate := none } = l.query := by rw [← free]
      refine ⟨channel, _, ?_, Or.inr rfl⟩
      show ({ l with
        builder := ⟨{ l.query with aggregate := none },
          t'.replace .projection l.builder.table.projections, l.builder.tableNumber,
          (l.builder.used.useUp r.columns).2⟩
        channel } : LiveQuery) = _
      rw [query, replace_bound bound]
      rfl
    exact (LiveQuery.select_stays.ends (.refl _)).imp (fun _ => back) back

open LiveQuery in
/-- However a reading ends, and whatever the server answers: the query and the table of bindings are
what they were, and only a stream of columns is used up.  Up to then one statement has been run at
most, with the percentile under a name that was free. -/
theorem builder_restored (r : Reading) (free : l.query.aggregate = none)
    (listed : r.percentile = .null ∨ r.columns.members?.isSome) :
    RunsOne r.run Channel.select (r.Sends l) l ∧ r.Leaves l (r.run.outcome l).2 :=
  ⟨r.run_ends (fun _ => Or.inr) sends_fetch fun _ => sends_aggregate,
    (r.run_ends (fun _ => id) (fun _ => r.leaves_fetch) fun f _ => leaves_aggregate f free listed).after⟩

open LiveQuery in
/-- A percentile beside a binding of that name, where the server refuses the statement. -/
theorem builder_restored_refused :
    let refusing : Server := Server.idle.extend "run" [.failure (.value "refused")]
    let l : LiveQuery := { afterCalls [.target (.text "User"), .limit (.int 5),
        .addBindings (.ofPairs [(.text "percentile", .int 1)]) (.text "select")] with
      channel := some ⟨.new .standard, .ofConfig .standard, refusing, some standardPattern⟩ }
    let r := Reading.continuousPercentile (.text "score") (.int 1)
    l.query.aggregate = none ∧ (r.percentile = .null ∨ r.columns.members?.isSome) ∧
      (RunsOne r.run Channel.select (r.Sends l) l ∧ r.Leaves l (r.run.outcome l).2) ∧
      (r.run.outcome l).1.toOption.isNone ∧ sentTexts (r.run.outcome l).2 =
        ["MATCH (user:User) RETURN percentileCont(user.score, $percentile_2) AS aggregate LIMIT 5"] :=
  ⟨rfl, Or.inr rfl, builder_restored _ rfl (Or.inr rfl), by decide +kernel, by decide +kernel⟩

end Reading

end GraphQuery
