import GraphQuery.Proofs.Cypher.CountedSelect
import GraphQuery.Proofs.Execution.Readings
import GraphQuery.Proofs.Execution.WrittenAlike

/-! # What counting for pages leaves behind

A count for pages takes order, paging and projection out of the builder, with the bindings that belong to
them, and puts them back when its statement has run.

* `LiveQuery.total_ends` : a count is the select of the bare query with the aggregate in it;
* `Builder.Same` : all fields of the builder and all bindings are the same;
* `LiveQuery.total_leaves` : what is left after a count, whatever its columns are and however it ends;
* `LiveQuery.total_restores` : when that is the builder as it was.

What the statement of a count mentions has to be bound in the buckets that it does not empty.

* `LiveQuery.text_mem_bared_iff` : a count sends what is bound elsewhere than for order and projection;
* `LiveQuery.total_mentions` : what the statement of a count mentions, and which of it is sent;
* `LiveQuery.total_unbound` : a sub-query that keeps its percentile where a count empties. -/

namespace GraphQuery

open GraphQuery.Binding GraphQuery.Cypher GraphQuery.Schema GraphQuery.Text Exec

namespace LiveQuery

variable {l : LiveQuery} {columns : Value}

/-- The live query without order, paging and projection, and without their bindings. -/
def bared (l : LiveQuery) (columns : Value) : LiveQuery :=
  { l with builder := ⟨bareQuery l.query, shapeBuckets.foldl (·.clear ·) l.builder.table,
    l.builder.tableNumber, (l.builder.used.useUp columns).2⟩ }

/-- The live query with the order, the paging and the projection of another one, and with the bindings
that belong to them there. -/
def shapedLike (l before : LiveQuery) : LiveQuery :=
  { l with builder := { l.builder with
      query := reshape before.query l.query
      table := l.builder.table.restore (shapeBuckets.map fun b => (b, before.builder.table.bucket b)) } }

theorem ask_unreplaced {q : Query} {part : QueryPart} (free : q.standIn? part = none) (name : String) :
    q.ask part name = .ok () := by
  unfold QueryOver.ask
  rw [free]

theorem ask_replaced {q : Query} {part : QueryPart} {v : Value} (found : q.standIn? part = some v)
    (name : String) : q.ask part name = .error (.noAttribute v name) := by
  unfold QueryOver.ask
  rw [found]

/-- The bindings are taken out unless something stands for the table. -/
theorem takeShape_ends {ok : Snapshot → LiveQuery → Prop} {bad : LiveQuery → Prop}
    (refused : (l.query.standIn? .bindings).isSome → bad l)
    (taken : l.query.standIn? .bindings = none →
      ok (shapeBuckets.map fun b => (b, l.builder.table.bucket b))
        { l with builder := { l.builder with
          table := shapeBuckets.foldl (·.clear ·) l.builder.table } }) :
    takeShape.Ends l ok bad := by
  unfold takeShape
  have asks : (Build.ask .bindings "backup").outcome l.builder =
      (l.query.ask .bindings "backup", l.builder) := outcome_ofOutcome _ _
  refine .bind (.within (.of_outcome asks (fun _ asked => ?_) fun e asked => refused ?_))
  · have free : l.query.standIn? .bindings = none := by
      cases found : l.query.standIn? .bindings with
      | none => rfl
      | some v => cases (ask_replaced found _).symm.trans asked
    exact .bind (.of_get (.bind (.within (.of_modify (.of_pure (taken free))))))
  · cases found : l.query.standIn? .bindings with
    | some v => rfl
    | none => cases (ask_unreplaced found _).symm.trans asked

/-- A count runs the select of the bare query with the aggregate in it, and then puts back what it has
taken out. Columns that cannot be gone through stop it in between. -/
theorem total_ends {ok bad : LiveQuery → Prop} (weaken : ∀ l', ok l' → bad l')
    (refused : (l.query.standIn? .bindings).isSome → bad l)
    (h : l.query.standIn? .bindings = none → (columns.members? = none → bad (l.bared columns)) ∧
      ∀ vs, Result.ofFailure (l.builder.used.useUp columns).1.members = .ok vs →
        select.Ends ((l.bared columns).withAggregate (some ⟨"count", flatColumns vs, "aggregate", none⟩))
          (fun _ l' => ok ((l'.withAggregate none).shapedLike l))
          fun l' => bad ((l'.withAggregate none).shapedLike l)) :
    (total columns).Ends l (fun _ => ok) bad := by
  unfold total
  refine .bind (.of_get (.bind (takeShape_ends refused fun free => ?_)))
  obtain ⟨stopped, ran⟩ := h free
  refine .bind (change_ends (.bind (.within (Build.useUp_ends (.bind (.of_outcome (outcome_ofResult _ _)
    (fun vs read => ?_) fun e unread => stopped ?_))))))
  · refine .bind (selectAggregate_ends ((ran vs read).imp (fun rows l' done => ?_) fun l' done => ?_))
    · refine .bind (change_ends (.within (.of_modify ?_)))
      exact .ofResult (fun _ _ => done) (weaken _ done)
    · exact .bind (change_ends (.within (.of_modify done)))
  · cases listed : columns.members? with
    | none => rfl
    | some vs =>
      obtain ⟨ws, read⟩ := (Reading.members_useUp_iff l.builder.used columns).mpr (by rw [listed]; rfl)
      cases read.symm.trans unread

end LiveQuery

/-! ### What is the same afterwards -/

namespace QueryOver

variable {P S : Type}

theorem standIn?_congr {q q' : QueryOver P S} (h : q'.standIns = q.standIns) (part : QueryPart) :
    q'.standIn? part = q.standIn? part := by
  unfold standIn?
  rw [h]

theorem find?_others (part other : QueryPart) (ss : List (QueryPart × Value)) :
    (ss.filter fun s => s.1 ≠ part).find? (fun s => s.1 = other) =
      if other = part then none else ss.find? fun s => s.1 = other := by
  split
  · refine List.find?_eq_none.mpr fun s inside here => ?_
    have apart := of_decide_eq_true (List.mem_filter.mp inside).2
    exact apart ((of_decide_eq_true here).trans ‹other = part›)
  · rw [List.find?_filter]
    refine congrArg (List.find? · ss) (funext fun s => ?_)
    by_cases here : s.1 = other
    · simp [here, ‹¬ other = part›]
    · simp [here]

theorem standIn?_withStandIn (q : QueryOver P S) (part : QueryPart) (v : Option Value)
    (other : QueryPart) :
    (q.withStandIn part v).standIn? other = if other = part then v else q.standIn? other := by
  unfold withStandIn standIn?
  dsimp only
  rw [List.find?_append, find?_others]
  by_cases same : other = part
  · rw [if_pos same, if_pos same, same]
    cases v <;> simp
  · have first : (v.toList.map fun v => (part, v)).find? (fun s => s.1 = other) = none := by
      refine List.find?_eq_none.mpr fun s inside here => ?_
      obtain ⟨v, -, rfl⟩ := List.mem_map.mp inside
      exact same (of_decide_eq_true here).symm
    rw [first, if_neg same, if_neg same, Option.none_or]

end QueryOver

/-- All fields of the builder, and all bindings in their order. -/
structure Builder.Same (b b' : Builder) : Prop where
  query : b'.query = { b.query with standIns := b'.query.standIns }
  standIns : ∀ part, b'.query.standIn? part = b.query.standIn? part
  table : b'.table = b.table
  number : b'.tableNumber = b.tableNumber

namespace LiveQuery

variable {l : LiveQuery} {columns : Value}

theorem restore_shape (t : BindingTable) :
    (shapeBuckets.foldl (·.clear ·) t).restore (shapeBuckets.map fun b => (b, t.bucket b)) = t := rfl

/-- The live query when the statement of a count has run and everything is put back. -/
def putBack (l : LiveQuery) (columns : Value) (a : Aggregate) (channel : Option Channel) : LiveQuery :=
  shapedLike (withAggregate { (l.bared columns).withAggregate (some a) with channel } none) l

theorem standIns_putBack (a : Aggregate) (channel : Option Channel) :
    (l.putBack columns a channel).builder.query.standIns =
      ((l.query.withStandIn .sortKeys none).withStandIn .sortKeys
        (l.query.standIn? .sortKeys)).standIns := rfl

theorem same_putBack (a : Aggregate) (channel : Option Channel) :
    (l.withAggregate none).builder.Same (l.putBack columns a channel).builder where
  query := by
    obtain ⟨⟨q, t, number, used⟩, _, _, _, _⟩ := l
    cases q
    rfl
  standIns := fun part => by
    have before : (l.withAggregate none).builder.query.standIn? part = l.query.standIn? part :=
      QueryOver.standIn?_congr rfl part
    rw [before, QueryOver.standIn?_congr (standIns_putBack a channel), QueryOver.standIn?_withStandIn,
      QueryOver.standIn?_withStandIn]
    split
    · rw [‹part = .sortKeys›]
    · rfl
  table := restore_shape l.builder.table
  number := rfl

/-- What is left after a count: the builder as it was if something stands for the table of bindings; the
builder without its aggregate if the columns can be gone through; and else the bare builder. -/
def LeavesOf (l : LiveQuery) (columns : Value) (after : Builder) : Prop :=
  match l.query.standIn? .bindings, columns.members? with
  | some _, _ => after = l.builder
  | none, some _ => (l.withAggregate none).builder.Same after
  | none, none => after = (l.bared columns).builder

/-- However the count ends. -/
theorem total_leaves (l : LiveQuery) (columns : Value) :
    l.LeavesOf columns ((total columns).outcome l).2.builder := by
  have ends : (total columns).Ends l (fun _ l' => l.LeavesOf columns l'.builder)
      fun l' => l.LeavesOf columns l'.builder := by
    refine total_ends (fun _ => id) (fun refused => ?_) fun free => ⟨fun unread => ?_, fun vs read => ?_⟩
    · obtain ⟨v, found⟩ := Option.isSome_iff_exists.mp refused
      simp only [LeavesOf, found]
    · simp only [LeavesOf, free, unread]
    · obtain ⟨ws, listed⟩ := Option.isSome_iff_exists.mp
        ((Reading.members_useUp_iff l.builder.used columns).mp ⟨vs, read⟩)
      have back (l' : LiveQuery) (same : Stays ((l.bared columns).withAggregate
          (some ⟨"count", flatColumns vs, "aggregate", none⟩)) l') :
          l.LeavesOf columns ((l'.withAggregate none).shapedLike l).builder := by
        obtain ⟨channel, rfl⟩ := same
        simp only [LeavesOf, free, listed]
        exact same_putBack _ channel
      exact (select_stays.ends (.refl _)).imp (fun _ => back) back
  exact ends.after

/-- A live query without anything that a count sets aside. -/
structure IsBare (l : LiveQuery) : Prop where
  sortKeys : l.query.sortKeys = []
  unreplaced : l.query.standIn? .sortKeys = none
  limit : l.query.limit = .null
  offset : l.query.offset = .null
  columns : l.query.columns = .null
  orderings : l.builder.table.orderings = []
  projections : l.builder.table.projections = []

theorem bareQuery_eq {q : Query} (sortKeys : q.sortKeys = []) (limit : q.limit = .null)
    (offset : q.offset = .null) (columns : q.columns = .null) :
    bareQuery q = { q with standIns := (bareQuery q).standIns } := by
  obtain ⟨labels, entity, patterns, wheres, stages, chosen, groups, havings, sorted, branches, most,
    skipped, isDistinct, aggregate, standIns⟩ := q
  obtain rfl : sorted = [] := sortKeys
  obtain rfl : most = .null := limit
  obtain rfl : skipped = .null := offset
  obtain rfl : chosen = .null := columns
  rfl

theorem same_bared_iff : l.builder.Same (l.bared columns).builder ↔ l.IsBare := by
  constructor
  · intro same
    have query : bareQuery l.query =
      { l.query with standIns := (bareQuery l.query).standIns } := same.query
    have standIns := same.standIns .sortKeys
    have none : (l.bared columns).builder.query.standIn? .sortKeys = none :=
      (QueryOver.standIn?_congr rfl .sortKeys).trans
        ((QueryOver.standIn?_withStandIn l.query .sortKeys none .sortKeys).trans (if_pos rfl))
    exact ⟨(congrArg QueryOver.sortKeys query).symm, standIns.symm.trans none,
      (congrArg QueryOver.limit query).symm, (congrArg QueryOver.offset query).symm,
      (congrArg QueryOver.columns query).symm, (congrArg BindingTable.orderings same.table).symm,
      (congrArg BindingTable.projections same.table).symm⟩
  · intro bare
    refine ⟨bareQuery_eq bare.sortKeys bare.limit bare.offset bare.columns, fun part => ?_, ?_, rfl⟩
    · rw [show (l.bared columns).builder.query.standIn? part =
          (l.query.withStandIn .sortKeys none).standIn? part from QueryOver.standIn?_congr rfl part,
        QueryOver.standIn?_withStandIn]
      split
      · rw [‹part = .sortKeys›]
        exact bare.unreplaced.symm
      · rfl
    · refine BindingTable.ext_bucket fun b => ?_
      cases b with
      | projection => exact bare.projections.symm
      | ordering => exact bare.orderings.symm
      | _ => rfl

/-- Without an aggregate to begin with, the builder is the same one again. -/
theorem same_after_iff {after : Builder} (same : (l.withAggregate none).builder.Same after) :
    l.builder.Same after ↔ l.query.aggregate = none := by
  constructor
  · intro whole
    have before : after.query.aggregate = l.query.aggregate :=
      (congrArg QueryOver.aggregate whole.query).trans rfl
    have later : after.query.aggregate = none := (congrArg QueryOver.aggregate same.query).trans rfl
    exact before.symm.trans later
  · intro free
    have unset : { l.query with aggregate := none } = l.query := by rw [← free]
    have whole : (l.withAggregate none).builder = l.builder :=
      show (⟨{ l.query with aggregate := none }, l.builder.table, l.builder.tableNumber,
        l.builder.used⟩ : Builder) = l.builder by rw [unset]; rfl
    exact whole ▸ same

/-- Whatever the columns of a count are and however it ends, all fields of the builder and all bindings
are what they were: exactly if there was no aggregate, for columns that can be gone through, and exactly
if there was nothing to set aside, for others, which leave the bare builder. -/
theorem total_restores (l : LiveQuery) (columns : Value) :
    let after := ((total columns).outcome l).2.builder
    match l.query.standIn? .bindings, columns.members? with
    | some _, _ => after = l.builder
    | none, some _ => (l.withAggregate none).builder.Same after ∧
        (l.builder.Same after ↔ l.query.aggregate = none)
    | none, none => after = (l.bared columns).builder ∧ (l.builder.Same after ↔ l.IsBare) := by
  intro after
  have left : l.LeavesOf columns after := total_leaves l columns
  unfold LeavesOf at left
  split at left
  · exact left
  · exact ⟨left, same_after_iff left⟩
  · exact ⟨left, left ▸ same_bared_iff⟩

/-- Columns that cannot be gone through: order, limit, columns and a binding of the order are gone. -/
theorem total_unread :
    let l := afterCalls [.target (.text "User"), .select [.text "name"],
      .orderBy (.text "name") (.text "asc"), .limit (.int 5),
      .addBindings (.ofPairs [(.text "key", .int 1)]) (.text "order")]
    let after := ((total (.int 5)).outcome l).2.builder
    l.query.aggregate.isNone ∧ ((total (.int 5)).outcome l).1.toOption.isNone ∧
      after.query.sortKeys = [] ∧ after.query.limit = .null ∧ after.query.columns = .null ∧
      after.table.orderings = [] ∧ ¬ l.builder.Same after := by
  intro l after
  have limit : after.query.limit = .null := rfl
  refine ⟨rfl, rfl, rfl, limit, rfl, rfl, fun same => ?_⟩
  have before : after.query.limit = .int 5 := congrArg QueryOver.limit same.query
  cases limit.symm.trans before

end LiveQuery

/-! ### The names that are sent -/

namespace LiveQuery

variable {l : LiveQuery} {columns : Value}

theorem bucket_bared (b : Bucket) : (l.bared columns).builder.table.bucket b =
    if b ∈ shapeBuckets then [] else l.builder.table.bucket b := by
  cases b <;> rfl

theorem text_mem_bared_iff (columns : Value) {s : String} :
    .text s ∈ (l.bared columns).builder.table.flatten.map Prod.fst ↔
    ∃ b ∉ shapeBuckets, .text s ∈ (l.builder.table.bucket b).map Prod.fst := by
  rw [BindingTable.text_mem_flatten_iff]
  refine exists_congr fun b => ?_
  rw [bucket_bared]
  split
  · next aside => simp [aside]
  · next kept => simp [kept]

/-! ### What is mentioned -/

theorem query_counted (plain : l.query.standIns = []) (vs : List Value) :
    ((l.bared columns).withAggregate (some ⟨"count", vs, "aggregate", none⟩)).query =
      l.query.counted (some vs) := by
  have free : (l.query.withStandIn .sortKeys none).standIns = l.query.standIns := by
    unfold QueryOver.withStandIn
    rw [plain]
    rfl
  unfold Query.counted Query.projecting
  rw [← free]
  rfl

/-- A count mentions nothing but what the query mentions, and of that it sends exactly what is bound
elsewhere than for order and projection. -/
theorem total_mentions (plain : l.query.standIns = []) (legible : l.query.IsLegible l.number)
    (quiet : ∀ vs, Result.ofFailure (l.builder.used.useUp columns).1.members = .ok vs →
      ∀ v ∈ flatColumns vs, v.IsQuietColumn)
    {text : String} {names : List String} (compiled : l.statement = .ok text)
    (read : parametersIn text = some names) :
    RunsOne (total columns) Channel.select (fun count sent => ∃ names',
      parametersIn count = some names' ∧ ∀ n ∈ names', n ∈ names ∧
        (.text n ∈ sent.map Prod.fst ↔
          ∃ b ∉ shapeBuckets, .text n ∈ (l.builder.table.bucket b).map Prod.fst)) l := by
  obtain ⟨-, -, selected⟩ := Result.bind_eq_ok compiled
  have whole : Legible text := (selectText_within (fun _ => True) plain legible selected).1
  obtain rfl := Option.some.inj (whole.parametersIn_eq.symm.trans read)
  have within : NamesOnly (· ∈ namesIn text) text := whole.namesOnly fun _ => id
  -- a count that is refused, or whose columns cannot be gone through, runs nothing
  refine total_ends (fun _ => Or.inr) (fun _ => Or.inl rfl) fun _ => ⟨fun _ => Or.inl rfl, fun vs given => ?_⟩
  refine select_runsOne fun count sent written flat => ?_
  obtain ⟨-, -, counts⟩ := Result.bind_eq_ok written
  rw [query_counted plain] at counts
  obtain ⟨names', read', allowed⟩ :=
    (selectText_counted plain legible (quiet vs given) selected within counts).parametersIn
  refine ⟨names', read', fun n member => ⟨allowed n member, ?_⟩⟩
  rw [parameters_eq flat]
  exact text_mem_bared_iff columns

theorem afterCalls_isSilent {calls : List Call} (given : areSilentCalls calls)
    (silent : ∀ q ∈ queriesOfAll calls, q.query.IsSilent) : (afterCalls calls).query.IsSilent :=
  calls_keepSilent calls given silent _ Query.empty_isSilent

/-- The median score of posts. Its percentile is bound where that of an aggregate is. -/
def medianScore : Incoming :=
  let b := ((runAll [.target (.text "Post"),
    .setAggregate (some ⟨"percentile_cont", [.text "score"], "aggregate", some "p"⟩),
    .addBindings (.ofPairs [(.text "p", .double (Number.Double.ofIntRatio 1 2))]) (.text "select")]).outcome
      ⟨.empty, .empty, 2, []⟩).2
  ⟨2, b.tableNumber, b.query, b.table⟩

theorem medianScore_isSilent : medianScore.query.IsSilent := by
  have label : Silent "aggregate" := by decide
  have posts := (Query.empty_isSilent.other (.ofList [.text "Post"]) .null .null .null (.bool false) []).parts
  refine ⟨⟨posts.patterns, posts.stages, posts.columns, posts.groups, posts.havings, posts.sortKeys,
    fun a found => ?_⟩, trivial, trivial⟩
  obtain rfl := Member.clause.inj (Option.some.inj found)
  exact ⟨label, List.forall_mem_singleton.mpr trivial⟩

/-- Users who are older than the median score, and have a name: the name is sent with the count, and the
percentile is not. -/
theorem total_mentions_filtered :
    let l := afterCalls [.target (.text "User"), .equals (.text "name") (.text "Ann"),
      .filter (.value (.text "age")) (some (.value (.text ">"))) (some (.query medianScore)) (.text "and")]
    let text := "MATCH (user:User) WHERE user.name = $name AND user.age > head(COLLECT \x7b " ++
      "MATCH (post:Post) RETURN percentileCont(post.score, $p) AS aggregate \x7d) RETURN user"
    let columns := Value.tuple [star]
    l.query.standIns = [] ∧ l.query.IsLegible l.number ∧
      (∀ vs, Result.ofFailure (l.builder.used.useUp columns).1.members = .ok vs →
        ∀ v ∈ flatColumns vs, v.IsQuietColumn) ∧
      l.statement = .ok text ∧ parametersIn text = some ["name", "p"] ∧
      RunsOne (total columns) Channel.select (fun count sent => ∃ names',
        parametersIn count = some names' ∧ ∀ n ∈ names', n ∈ ["name", "p"] ∧
          (.text n ∈ sent.map Prod.fst ↔
            ∃ b ∉ shapeBuckets, .text n ∈ (l.builder.table.bucket b).map Prod.fst)) l := by
  intro l text columns
  have plain : l.query.standIns = [] := rfl
  have silent : l.query.IsSilent := afterCalls_isSilent
    ⟨trivial, ⟨rfl, trivial, trivial, trivial⟩, ⟨rfl, trivial, trivial, trivial⟩, trivial⟩
    (List.forall_mem_singleton.mpr medianScore_isSilent)
  have legible : l.query.IsLegible l.number := silent.isLegible (by
    rw [show l.query.branchQueries = [] from List.isEmpty_iff.mp (by decide +kernel)]
    exact fun _ none => absurd none List.not_mem_nil)
  have quiet : ∀ vs, Result.ofFailure (l.builder.used.useUp columns).1.members = .ok vs →
      ∀ v ∈ flatColumns vs, v.IsQuietColumn := fun vs read =>
    Except.ok.inj read ▸ List.forall_mem_singleton.mpr trivial
  have compiled : l.statement = .ok text := Result.of_toOption (by decide +kernel)
  have read : parametersIn text = some ["name", "p"] := by decide +kernel
  exact ⟨plain, legible, quiet, compiled, read, total_mentions plain legible quiet compiled read⟩

/-- Users who are older than the median score. All parameters of the query are bound, but the count is
sent without its only one. -/
theorem total_unbound :
    let l := afterCalls [.target (.text "User"),
      .filter (.value (.text "age")) (some (.value (.text ">"))) (some (.query medianScore)) (.text "and")]
    let counted := ((total (.tuple [star])).outcome l).2
    l.statement.toOption = some ("MATCH (user:User) WHERE user.age > head(COLLECT \x7b " ++
        "MATCH (post:Post) RETURN percentileCont(post.score, $p) AS aggregate \x7d) RETURN user") ∧
      l.parameters.toOption.map (·.map (·.1.text?)) = some [some "p"] ∧
      sentTexts counted = ["MATCH (user:User) WHERE user.age > head(COLLECT \x7b " ++
        "MATCH (post:Post) RETURN percentileCont(post.score, $p) AS aggregate \x7d) " ++
          "RETURN count(*) AS aggregate"] ∧
      sentTextParameters counted = [[]] := by
  intro l counted
  decide +kernel

end LiveQuery

end GraphQuery
