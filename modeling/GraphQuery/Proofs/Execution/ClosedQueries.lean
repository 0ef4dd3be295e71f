import GraphQuery.Proofs.Builder.Reached
import GraphQuery.Proofs.Builder.SilentCalls
import GraphQuery.Proofs.Cypher.QuietSelect
import GraphQuery.Proofs.Execution.Identity
import GraphQuery.Proofs.Session.Prepared

/-! # Closed queries

A query is *closed* in a table if the table binds all of its parameters and its texts mention nothing
else.  What clause calls have built from columns given by name is closed in their table
(`Builder.BuiltByName.closed`), and it stays so when a use goes on with it: with other columns, another
limit, an aggregate, further bindings, or one identity.

A row supplies a statement if it has a value for every parameter that the statement mentions
(`BindingTable.Supplies`); a table supplies what a query that is closed in it is written as
(`Query.Closed.supplies`).  What is supplied stays closed when it is sent, since preparing the parameters
leaves their names alone (`BindingTable.Supplies.closes`). -/

namespace GraphQuery

open GraphQuery.Binding GraphQuery.Cypher GraphQuery.Text

/-! ### Queries -/

/-- A query whose parameters are bound in a table, under names that mean nothing else, and whose texts
mention no other parameters. -/
structure Query.Closed (q : Query) (t : BindingTable) : Prop where
  named : t.WellNamed
  spelled : t.HasBindingNames
  bound : ∀ n ∈ Query.parameters q, .text n ∈ t.names
  silent : q.IsSilent
  clean : AllCutCleanly q.branchQueries

theorem branchQueriesOfAll_append {ps qs : List Predicate} :
    branchQueriesOfAll (ps ++ qs) = branchQueriesOfAll ps ++ branchQueriesOfAll qs := by
  induction ps with
  | nil => rfl
  | cons p rest ih => rw [List.cons_append, branchQueriesOfAll, branchQueriesOfAll, ih, List.append_assoc]

namespace BindingTable

variable {t u : BindingTable} {given : Value → Prop} {text : String} {row : Row}

/-- A later table, to which nothing has been added but what is given. -/
structure Gains (t u : BindingTable) (given : Value → Prop) : Prop where
  named : t.WellNamed
  grows : t.Grows u
  others : ∀ n v, .text n ∉ t.names → u.bound n = some v → given v

theorem Gains.refl (named : t.WellNamed) : t.Gains t given :=
  ⟨named, .refl t, fun _ _ new bound =>
    absurd (named.bound_isSome_iff.mp (Option.isSome_of_eq_some bound)) new⟩

/-- A value that is bound under a free name is the only new one. -/
theorem Gains.bind (named : t.WellNamed) {base : String} (filled : base ≠ "") {v : Value} (b : Bucket)
    (holds : given v) : t.Gains (t.bind base v b).2 given := by
  have free := uniqueName_not_mem t base
  refine ⟨named, grows_add free v b, fun n w new bound => ?_⟩
  have later : (t.bind base v b).2.WellNamed := named.add free (uniqueName_ne_empty t filled) v b
  have inside := later.bound_isSome_iff.mp (Option.isSome_of_eq_some bound)
  rcases (mem_names_add (text_isIn_eq_false free) v b (.text n)).mp inside with same | old
  · obtain rfl := Value.text.inj same
    exact Option.some.inj (bound.symm.trans (bound_add_self free v b)) ▸ holds
  · exact absurd old new

end BindingTable

/-! ### Builders -/

namespace Builder

/-- A builder that clause calls have filled, from columns given by name and texts that mention nothing. -/
structure BuiltByName (b : Builder) : Prop where
  reached : ∃ ledger, Reached b.tableNumber b.table ledger b.query
  named : BoundByName b.table
  silent : b.query.IsSilent

namespace BuiltByName

theorem empty (number : Nat) (used : Remains) : BuiltByName ⟨.empty, .empty, number, used⟩ :=
  ⟨⟨[], .fresh number⟩, .empty, Query.empty_isSilent⟩

open Classical in
theorem afterCalls {b : Builder} (h : b.BuiltByName) {calls : List Call}
    (clauses : areClauses calls = true) (textual : areTextual calls = true)
    (silent : areSilentCalls calls) (queries : ∀ q ∈ queriesOfAll calls,
      q.tableNumber ≠ b.tableNumber ∧ BuiltByName ⟨q.query, q.table, q.tableNumber, []⟩) :
    ((runAll calls).outcome b).2.BuiltByName := by
  obtain ⟨ledger, reached⟩ := h.reached
  let known (q : Incoming) : Ledger :=
    if found : ∃ ledger, Reached q.tableNumber q.table ledger q.query then found.choose else []
  obtain ⟨same, ledger', later⟩ := Reached.afterCalls known rfl reached clauses fun q hq => by
    obtain ⟨apart, own⟩ := queries q hq
    refine ⟨apart, ?_⟩
    rw [show known q = own.reached.choose from dif_pos own.reached]
    exact own.reached.choose_spec
  refine ⟨⟨ledger', same ▸ later⟩, h.named.afterCalls textual fun q hq => (queries q hq).2.named, ?_⟩
  exact (calls_keepSilent calls silent fun q hq => (queries q hq).2.silent) b h.silent

theorem closed {b : Builder} (h : b.BuiltByName) (clean : AllCutCleanly b.query.branchQueries) :
    b.query.Closed b.table := by
  obtain ⟨ledger, reached⟩ := h.reached
  have accounted := reached.accounted
  refine ⟨accounted.named, h.named.hasBindingNames, fun n hn => ?_, h.silent, clean⟩
  obtain ⟨v, inside⟩ := accounted.covered n hn
  exact accounted.named.bound_isSome_iff.mp (Option.isSome_of_eq_some (accounted.bound _ inside))

end BuiltByName

end Builder

namespace Query.Closed

variable {q : Query} {t : BindingTable} {node : String}

theorem mentioned (h : q.Closed t) : ∀ n ∈ Query.parameters q, .text (spoken n) ∈ t.names := by
  intro n hn
  obtain ⟨m, same, name⟩ := h.spelled _ (h.bound n hn)
  obtain rfl := Value.text.inj same
  rw [spoken_eq fun lineBreak => name.2 _ lineBreak (by decide)]
  exact h.bound n hn

theorem quiet (h : q.Closed t) : areQuiet q.wheres :=
  areSilent.areQuiet h.silent.wheres (allCutCleanly_append.mp h.clean).1

theorem statementText_namesOnly (h : q.Closed t) {number : Nat} {text : String}
    (written : statementText (Query.settle number q) = .ok text) :
    NamesOnly (fun n => .text n ∈ t.names) text :=
  Cypher.statementText_namesOnly (fun n hn => h.mentioned n (Query.mem_parameters_of_settle hn))
    (h.silent.settle h.clean) written

/-! ### What a use goes on with -/

/-- Other columns that are given by name, and another limit. -/
theorem columns (h : q.Closed t) {v : Value} (given : ∀ columns,
    chosenColumns { q with columns := v } = .ok columns → ∀ c ∈ columns, c.IsQuietColumn) :
    Query.Closed { q with columns := v } t := by
  have parts := h.silent.parts
  exact ⟨h.named, h.spelled, h.bound, ⟨⟨parts.patterns, parts.stages, given, parts.groups, parts.havings,
    parts.sortKeys, parts.aggregate⟩, h.silent.wheres, h.silent.branches⟩, h.clean⟩

theorem limit (h : q.Closed t) (v : Value) : Query.Closed { q with limit := v } t :=
  ⟨h.named, h.spelled, h.bound, h.silent.other q.labels q.entity v q.offset q.isDistinct q.standIns,
    h.clean⟩

theorem aggregate (h : q.Closed t) {a : Aggregate} (label : Silent a.label)
    (columns : ∀ v ∈ a.columns, v.IsQuietColumn) (percentile : ∀ n ∈ a.percentile, .text n ∈ t.names) :
    Query.Closed { q with aggregate := some (.clause a) } t := by
  have parts := h.silent.parts
  refine ⟨h.named, h.spelled, fun n hn => ?_, ⟨⟨parts.patterns, parts.stages, parts.columns, parts.groups,
    parts.havings, parts.sortKeys, fun b found => ?_⟩, h.silent.wheres, h.silent.branches⟩, h.clean⟩
  · rw [Query.mem_parameters] at hn
    rcases hn with own | own | own | own | own
    · exact h.bound n (Query.mem_parameters.mpr (Or.inl own))
    · exact h.bound n (Query.mem_parameters.mpr (Or.inr (Or.inl own)))
    · exact h.bound n (Query.mem_parameters.mpr (Or.inr (Or.inr (Or.inl own))))
    · exact h.bound n (Query.mem_parameters.mpr (Or.inr (Or.inr (Or.inr (Or.inl own)))))
    · exact percentile n (by simpa [aggregateParameters, Member.clause?] using own)
  · obtain rfl := Member.clause.inj (Option.some.inj found)
    exact ⟨label, columns⟩

theorem bind (h : q.Closed t) {base : String} (name : IsBindingName base) (v : Value) (b : Bucket) :
    q.Closed (t.bind base v b).2 := by
  have free := BindingTable.uniqueName_not_mem t base
  refine ⟨h.named.add free (BindingTable.uniqueName_ne_empty t name.ne_empty) v b,
    h.spelled.bind name v b, fun n hn => ?_, h.silent, h.clean⟩
  exact (BindingTable.mem_names_add (text_isIn_eq_false free) v b _).mpr (Or.inr (h.bound n hn))

theorem isBindingName_id (plain : IsPlainText node) : IsBindingName ("id" ++ node) := by
  rw [← identityName_eq plain]
  exact identityName_isBindingName (Query.not_point_of_isPlainText plain)

theorem narrowed (h : q.Closed t) (target : q.placeholder? = .ok (some node)) (v : Value) :
    (q.narrowed node (t.uniqueName ("id" ++ node) [])).Closed (t.bind ("id" ++ node) v .filter).2 := by
  have plain := (placeholder?_isPlainText target).2
  have wider := h.bind (isBindingName_id plain) v .filter
  have column : ColumnRef.IsQuiet ⟨"id", some node, true⟩ := isQuiet_of_placeholder fun owner found =>
    Option.some.inj found ▸ plain.silent
  have sign : IsQuietOperator "=" := by
    show Silent "= "
    decide
  have parts := h.silent.parts
  refine ⟨wider.named, wider.spelled, fun n hn => ?_, ⟨⟨parts.patterns, parts.stages, parts.columns,
    parts.groups, parts.havings, parts.sortKeys, parts.aggregate⟩,
    areSilent_append h.silent.wheres ⟨⟨column, sign⟩, trivial⟩, h.silent.branches⟩, ?_⟩
  · have both := (Builder.mem_parameters_withWhere (b := ⟨q, t, 0, []⟩)
      (p := identityPredicate node (t.uniqueName ("id" ++ node) []))).mp hn
    rcases both with old | new
    · exact wider.bound n old
    · rw [List.mem_singleton.mp new]
      exact (BindingTable.mem_names_add
        (text_isIn_eq_false (BindingTable.uniqueName_not_mem t _)) v .filter _).mpr (Or.inl rfl)
  · obtain ⟨wheres, branches⟩ := allCutCleanly_append.mp h.clean
    unfold Query.branchQueries
    refine allCutCleanly_append.mpr ⟨?_, branches⟩
    show AllCutCleanly (branchQueriesOfAll (q.wheres ++ [_]))
    rw [branchQueriesOfAll_append]
    exact allCutCleanly_append.mpr ⟨wheres, fun _ none => absurd none List.not_mem_nil⟩

end Query.Closed

/-! ### Statements with what is bound -/

/-- A row that has a value for every parameter of a statement, and every binding of a table. Its other
values are given. -/
structure BindingTable.Supplies (t : BindingTable) (given : Value → Prop) (text : String) (row : Row) :
    Prop where
  named : t.WellNamed
  covered : ∃ names, parametersIn text = some names ∧ ∀ n ∈ names, .text n ∈ row.map Prod.fst
  keys : ∀ k ∈ row.map Prod.fst, k.IsBindingKey
  distinct : (row.map Prod.fst).Nodup
  kept : ∀ n v, t.bound n = some v → (.text n, v) ∈ row
  others : ∀ e ∈ row, e.1 ∉ t.names → given e.2

/-- A statement with the parameters that are sent with it, closed over a table and what is given. -/
structure BindingTable.Closes (t : BindingTable) (pattern : String) (given : Value → Prop)
    (text : String) (parameters : Properties) : Prop where
  /-- every parameter that the statement mentions is sent: with the value that is bound under its name,
  as it is prepared, or else with one that is given -/
  covered : ∃ names, parametersIn text = some names ∧ ∀ n ∈ names, ∃ v,
    (t.bound n = some v ∨ .text n ∉ t.names ∧ given v) ∧ (n, prepareValue pattern v) ∈ parameters
  /-- everything that is bound is sent under its name -/
  kept : ∀ n v, t.bound n = some v → (n, prepareValue pattern v) ∈ parameters
  /-- no two values are sent under one name -/
  distinct : (parameters.map Prod.fst).Nodup

namespace BindingTable

variable {t u : BindingTable} {given : Value → Prop} {text : String} {row : Row}

/-- Preparing the parameters leaves a statement closed. -/
theorem Supplies.closes (h : t.Supplies given text row) {dates : Option String} {parameters : Properties}
    (sent : parametersUnder dates (.ofPairs row) = .ok parameters) :
    t.Closes (dates.getD standardPattern) given text parameters := by
  have entry {n : String} {v : Value} (inside : (.text n, v) ∈ row) :
      (n, prepareValue (dates.getD standardPattern) v) ∈ parameters :=
    mem_parametersUnder h.keys h.distinct sent inside
  refine ⟨?_, fun n v bound => entry (h.kept n v bound),
    parametersUnder_distinct h.keys h.distinct sent⟩
  obtain ⟨names, read, bound⟩ := h.covered
  refine ⟨names, read, fun n hn => ?_⟩
  obtain ⟨⟨_, v⟩, inside, rfl⟩ := List.mem_map.mp (bound n hn)
  refine ⟨v, ?_, entry inside⟩
  by_cases old : .text n ∈ t.names
  · obtain ⟨w, found⟩ := Option.isSome_iff_exists.mp (h.named.bound_isSome_iff.mpr old)
    have same := entryAt?_text_of_mem h.distinct (h.kept n w found)
    obtain rfl := Option.some.inj (same.symm.trans (entryAt?_text_of_mem h.distinct inside))
    exact Or.inl found
  · exact Or.inr ⟨old, h.others _ inside old⟩

theorem Supplies.mono (h : t.Supplies given text row) {given' : Value → Prop}
    (weaken : ∀ v, given v → given' v) : t.Supplies given' text row :=
  { h with others := fun e inside new => weaken e.2 (h.others e inside new) }

end BindingTable

/-- What a table supplies in which a query is closed, if it is a later one of the table at the beginning. -/
theorem Query.Closed.supplies {q : Query} {t u : BindingTable} {given : Value → Prop} {text : String}
    (closed : q.Closed u) (gains : t.Gains u given)
    (mentions : NamesOnly (fun n => .text n ∈ u.names) text) : t.Supplies given text u.flatten := by
  have keys : u.flatten.map Prod.fst = u.names := congrArg (List.map Prod.fst) closed.named.flatten_eq
  obtain ⟨names, read, allowed⟩ := mentions.parametersIn
  refine ⟨gains.named, ⟨names, read, fun n hn => keys ▸ allowed n hn⟩,
    fun k hk => closed.spelled k (keys ▸ hk), keys ▸ closed.named.distinct, fun n v bound => ?_,
    fun e inside new => ?_⟩
  · rw [closed.named.flatten_eq]
    exact closed.named.bound_eq_some_iff.mp (gains.grows.bound gains.named bound)
  · rw [closed.named.flatten_eq] at inside
    obtain ⟨n, name, -⟩ := closed.spelled e.1 (List.mem_map_of_mem inside)
    obtain ⟨k, v⟩ := e
    obtain rfl : k = .text n := name
    exact gains.others n v new (closed.named.bound_eq_some_iff.mpr inside)

end GraphQuery
