import GraphQuery.Proofs.Cypher.SortedGroups
import GraphQuery.Proofs.Cypher.Targets
import GraphQuery.Proofs.Execution.Readings

/-! # Counts of a query that is ordered and cut

A count puts an aggregate into the query for one select and leaves the rest of it as it is, so the order,
the offset and the limit of the query stand behind the one row of the aggregate.  They have no hold on it
only where the aggregate stands around a whole union.

* `EndsAggregate` : what the statement of an aggregate ends with (`endsAggregate_of_selectText`);
* `Query.cutAggregate` : what the offset and the limit leave of that row (`Query.cutAggregate_eq`);
* `LiveQuery.count_outcome` : the number that is answered for the rows of the server;
* `LiveQuery.count_isCut` : what that makes of counting, and of asking for rows. -/

namespace GraphQuery

open GraphQuery.Binding GraphQuery.Cypher GraphQuery.Schema GraphQuery.Text Exec

/-! ### The end of a statement -/

namespace Cypher

variable {q : Query} {text : String}

/-- How a number of rows is written behind its keyword. -/
inductive CutsBy (keyword : String) (count : Value) : String → Prop
  | absent : count.isNull = true → CutsBy keyword count ""
  | given {n : Int} : count.isNull = false → count.toInteger = .ok n →
      CutsBy keyword count (keyword ++ " " ++ toString n)

theorem cutsBy_of_countText {keyword : String} {count : Value}
    (h : countText keyword count = .ok text) : CutsBy keyword count text := by
  unfold countText at h
  split at h
  · obtain rfl := Except.ok.inj h
    exact .absent ‹_›
  · obtain ⟨n, read, h⟩ := Result.bind_eq_ok h
    obtain rfl := Except.ok.inj h
    refine .given (Bool.eq_false_iff.mpr ‹_›) ?_
    cases found : count.toInteger with
    | error f => rw [found] at read; cases read
    | ok m => rw [found] at read; exact congrArg _ (Except.ok.inj read)

/-- How the order of a select is written. -/
inductive OrdersBy (q : Query) : String → Prop
  | absent : q.hasSortKeys = false → OrdersBy q ""
  | given {names : List String} {keys : List SortKey} {items : List String} : q.hasSortKeys = true →
      carriedNames q = .ok names → q.sortKeys = keys.map .clause →
      List.Forall₂ (fun key item => SortsAs q names key.column item) keys items →
      OrdersBy q ("ORDER BY " ++ joined ", " (List.zipWith directedItem keys items))

theorem ordersBy_of_orderText (h : orderText q = .ok text) : OrdersBy q text := by
  cases ordered : q.hasSortKeys with
  | false =>
    unfold orderText at h
    rw [ordered] at h
    obtain rfl := Except.ok.inj h
    exact .absent ordered
  | true =>
    obtain ⟨names, keys, items, carried, own, sorts, rfl⟩ := orderText_eq_ok h ordered
    exact .given ordered carried own sorts

/-- What the statement of an aggregate is made of.  Behind its projection stand the order and the cut of the
query; behind an aggregate around a whole union stands nothing.  Without branches nothing follows the first
select, unless something without truth but with members stands for them. -/
inductive EndsAggregate (q : Query) : String → Prop
  | cut {stage carried projection order skip limit : String} {seen : Introduced}
      {items selects : List String} :
      q.hasBranches = false → matchStage parameter q (conditionsOf parameter q) [] = .ok (stage, seen) →
      withText parameter q = .ok carried → Projects parameter q seen none projection items →
      OrdersBy q order → CutsBy "SKIP" q.offset skip → CutsBy "LIMIT" q.limit limit →
      EndsAggregate q (unionText (spaced [stage, carried, projection, order, skip, limit])
        (q.branches.zip selects))
  | whole {a : Member Aggregate} {rows projection : String} : q.hasBranches = true →
      q.aggregate = some a → aggregateText parameter q a = .ok projection →
      EndsAggregate q ("CALL \x7b " ++ rows ++ " \x7d " ++ projection)

theorem endsAggregate_of_selectText (aggregates : q.aggregate.isSome = true)
    (h : selectText parameter q = .ok text) : EndsAggregate q text := by
  cases hasParts_of_selectText h with
  | aggregate joined own written => exact .whole joined own written
  | select lone matched carries projects ordered skipped limited =>
    have alone : q.hasBranches = false := by
      cases joined : q.hasBranches with
      | false => rfl
      | true => rw [lone joined] at aggregates; cases aggregates
    exact .cut alone matched carries projects (ordersBy_of_orderText ordered)
      (cutsBy_of_countText skipped) (cutsBy_of_countText limited)

theorem placeholder?_of_selectText {write : String → String} (h : selectText write q = .ok text) :
    ∃ node, q.placeholder? = .ok node := by
  have plain {other : Query} {conditions : Conditions} {branches : List BranchText} {text : String}
      (h : plainSelect write other conditions branches = .ok text) :
      ∃ node, other.placeholder? = .ok node := by
    obtain ⟨⟨select, names⟩, written, -⟩ := Result.bind_eq_ok h
    obtain ⟨stage, seen, texts, matched, -, -⟩ := singleSelect_eq_ok written
    obtain ⟨required, before, optional, reads, predicates, primary, -⟩ := matchStage_eq_ok matched
    obtain ⟨node, found, -⟩ := Result.bind_eq_ok primary
    exact ⟨node, found⟩
  cases assembles_of_assembleSelect h with
  | plain _ written => exact plain written
  | @aggregate _ copy _ _ _ _ _ copied written _ =>
    obtain ⟨node, found⟩ := plain written
    have same := (Query.SameTarget.of_copied copied).trans (.of_aggregate copy none)
    exact ⟨node, same.placeholder?.symm.trans found⟩

end Cypher

/-! ### Rows that are cut -/

/-- The number of rows that a value stands for, none without one. -/
def rowCount? (v : Value) : Option Nat :=
  if v.isNull then none else v.toInteger.toOption.map Int.toNat

namespace Query

variable {α : Type}

/-- How many rows are left out first. -/
def skipped (q : Query) : Nat := (rowCount? q.offset).getD 0

/-- What is left of rows when some are left out first and the others are limited. -/
def cut (q : Query) (rows : List α) : List α :=
  (rowCount? q.limit).elim (rows.drop q.skipped) (rows.drop q.skipped).take

/-- Whether the offset and the limit leave a row that is the only one. -/
def keepsOne (q : Query) : Bool := q.skipped = 0 && rowCount? q.limit != some 0

theorem cut_singleton (q : Query) (a : α) : q.cut [a] = if q.keepsOne then [a] else [] := by
  unfold cut keepsOne
  generalize q.skipped = skipped, rowCount? q.limit = limit
  match skipped, limit with
  | 0, none => simp
  | 0, some 0 => simp
  | 0, some (n + 1) => simp
  | n + 1, none => simp
  | n + 1, some m => simp

/-- What the end of the statement leaves of the one row of an aggregate. -/
def cutAggregate (q : Query) (row : α) : List α := if q.hasBranches then [row] else q.cut [row]

/-- Whether that is the row. -/
def keepsAggregate (q : Query) : Bool := q.hasBranches || q.keepsOne

theorem cutAggregate_eq (q : Query) (row : α) :
    q.cutAggregate row = if q.keepsAggregate then [row] else [] := by
  unfold cutAggregate keepsAggregate
  rw [cut_singleton]
  cases q.hasBranches <;> rfl

end Query

/-! ### What is answered -/

namespace LiveQuery

variable {l l' : LiveQuery} {rows : List Row}

/-- The aggregate of a count of all rows. -/
def countAll : Aggregate := ⟨"count", [star], "aggregate", none⟩

theorem aggregate_answers {function columns percentile : Value} :
    (aggregate function columns percentile).Ends l
      (fun v l' => l'.query.hasGroups = l.query.hasGroups ∧
        (l.query.hasGroups = true → ∃ vs, v = .ofList vs)) fun _ => True := by
  unfold aggregate
  refine .bind (.within (Build.ask_ends (.bind (.of_get (.bind ?_))) trivial))
  refine bindPercentile_ends (fun binding t' _ _ => ?_) trivial
  refine .bind (.within (Build.useUp_ends (.bind (.ofResult (fun given _ => ?_) trivial))))
  refine .bind (.ofResult (fun f _ => ?_) trivial)
  refine .bind (selectAggregate_ends ((select_stays.ends (.refl _)).imp ?_ fun l' _ => ?_))
  · rintro rows _ ⟨channel, rfl⟩
    refine .within (.of_modify (.bind (.of_get ?_)))
    split
    · exact .bind (.ofResult (fun vs _ => .of_pure ⟨rfl, fun _ => ⟨vs, rfl⟩⟩) trivial)
    · next ungrouped =>
      have never : l.query.hasGroups = true → ∀ v : Value, ∃ vs, v = .ofList vs :=
        fun grouped => absurd grouped ungrouped
      cases rows with
      | nil => exact .of_pure ⟨rfl, fun grouped => never grouped _⟩
      | cons row rest =>
        exact .bind (.ofResult (fun _ _ => .ofResult (fun v _ => ⟨rfl, fun grouped => never grouped v⟩)
          trivial) trivial)
  · exact .within (.of_modify trivial)

/-- Asking for rows is counting them; the counts of groups cannot be compared. -/
theorem hasRows_outcome (l : LiveQuery) :
    hasRows.outcome l = (((count (.tuple [star])).outcome l).1 >>= isPositiveCount,
      ((count (.tuple [star])).outcome l).2) := by
  unfold hasRows
  rw [outcome_bind]
  cases (count (.tuple [star])).outcome l with
  | mk r l' => cases r <;> rfl

/-- What a count is answered with, grouped or not. -/
theorem countBy_answers {function : String} {columns : Value} :
    (countBy function columns).Ends l
      (fun v _ => (l.query.hasGroups = true → ∃ vs, v = .ofList vs) ∧
        (l.query.hasGroups = false → ∃ n, v = .int n)) fun _ => True := by
  unfold countBy
  refine .bind (aggregate_answers.imp ?_ fun _ => id)
  rintro v l' ⟨same, listed⟩
  refine .bind (.of_get ?_)
  rw [same]
  split
  · next grouped => exact .of_pure ⟨listed, fun not => by rw [grouped] at not; cases not⟩
  · next ungrouped => exact .bind (.ofResult (fun n _ => .of_pure ⟨fun grouped => absurd grouped ungrouped,
      fun _ => ⟨n, rfl⟩⟩) trivial)

/-- A select that has rows has a text, and parameters to go with it. -/
theorem select_compiled : select.Ends l
    (fun _ l' => l.Stays l' ∧ (∃ text, l.statement = .ok text) ∧ ∃ row, l.parameters = .ok row)
    fun _ => True := by
  have stays : select.Ends l (fun _ => l.Stays) fun _ => True :=
    (select_stays.ends (.refl l)).imp (fun _ _ => id) fun _ _ => trivial
  have compiled : select.Ends l (fun _ _ => (∃ text, l.statement = .ok text) ∧
      ∃ row, l.parameters = .ok row) fun _ => True := by
    refine .bind (needChannel_ends (.bind (.of_get ?_)) trivial)
    refine .bind (.ofResult (fun text found => ?_) trivial)
    refine .bind (.ofResult (fun row bound => ?_) trivial)
    exact ⟨fun _ _ _ => ⟨⟨text, found⟩, row, bound⟩, fun _ _ _ => trivial⟩
  exact ⟨fun rows l' ran => ⟨stays.1 rows l' ran, compiled.1 rows l' ran⟩, fun _ _ _ => trivial⟩

theorem countOrZero_int (n : Int) : (Value.int n).countOrZero = .ok n := by
  unfold Value.countOrZero
  split
  · rfl
  · next absent =>
    obtain rfl : n = 0 := by simpa [Value.isTruthy] using absent
    rfl

theorem aggregateValue_int {columns : List Value} {row : Row} {node : Option String} {n : Int}
    (named : l.placeholder? = .ok node) (columned : ∃ isWhole, isWholeNode node columns = .ok isWhole)
    (cell : aggregateCell row = .int n) : l.aggregateValue columns row = .ok (.int n) := by
  obtain ⟨isWhole, whole⟩ := columned
  unfold aggregateValue
  rw [named]
  show (isWholeNode node columns >>= _) = _
  rw [whole, cell]
  rfl

/-- The number that a count of all rows is answered with: what the first row says, and zero without one. -/
theorem count_outcome (ungrouped : l.query.hasGroups = false)
    (ran : select.outcome (l.withAggregate (some countAll)) = (.ok rows, l')) {n : Int}
    (counted : ∀ row ∈ rows.head?, aggregateCell row = .int n) :
    ((count (.tuple [star])).outcome l).1 = .ok (.int (if rows.isEmpty then 0 else n)) := by
  obtain ⟨⟨channel, rfl⟩, ⟨text, compiled⟩, row, bound⟩ := select_compiled.1 rows l' ran
  obtain ⟨-, -, selected⟩ := Result.bind_eq_ok compiled
  obtain ⟨node, named⟩ := placeholder?_of_selectText selected
  have single : ¬ l.query.hasGroups = true := Bool.eq_false_iff.mp ungrouped
  have asked : l.query.ask .bindings "bucket" = .ok () := by
    obtain ⟨_, free, -⟩ := Result.bind_eq_ok bound
    unfold QueryOver.ask at free ⊢
    split at free
    · next none =>
      rw [show l.query.standIn? .bindings = .none from none]
    · cases free
  have answers : (count (.tuple [star])).Ends l
      (fun v _ => v = .int (if rows.isEmpty then 0 else n)) fun _ => False := by
    unfold count countBy aggregate
    refine .bind (.bind (.within (.of_outcome (outcome_ofOutcome _ _) (fun _ _ => ?_) fun e stopped => ?_)))
    · refine .bind (.of_get (.bind (.of_pure (.bind ?_))))
      refine Ends.of_outcome (r := .ok (.tuple [star])) rfl (fun _ same => ?_) nofun
      obtain rfl := Except.ok.inj same
      refine .bind (.of_ok (.bind (.of_ok ?_)))
      refine .bind (selectAggregate_ends (.of_outcome ran (fun _ same => ?_) nofun))
      obtain rfl := Except.ok.inj same
      refine .within (.of_modify (.bind (.of_get ?_)))
      rw [if_neg (by exact single)]
      cases rows with
      | nil =>
        refine .of_pure (.bind (.of_get ?_))
        rw [if_neg (by exact single)]
        exact .bind (.of_ok (.of_pure rfl))
      | cons row rest =>
        have cell : aggregateCell row = .int n := counted row rfl
        refine .bind (.of_ok (.of_outcome (outcome_ofResult _ _) (fun v found => ?_) fun e stopped => ?_))
        · obtain rfl := Except.ok.inj (found.symm.trans (aggregateValue_int named ⟨_, rfl⟩ cell))
          refine .bind (.of_get ?_)
          rw [if_neg (by exact single)]
          rw [countOrZero_int]
          exact .bind (.of_ok (.of_pure rfl))
        · cases (aggregateValue_int named ⟨_, rfl⟩ cell).symm.trans stopped
    · cases asked.symm.trans stopped
  cases done : (count (.tuple [star])).outcome l with
  | mk r l' =>
    cases r with
    | error e => exact (answers.2 e l' done).elim
    | ok v => exact congrArg Except.ok (answers.1 v l' done)

/-- Asking a grouped query for rows is answered with a failure wherever counting them is not, since lists
cannot be compared; asking another one is answered with whether its count is above zero.  The statement of
a count ends with the order, the offset and the limit of the query unless it is a union, so a count is zero
where these leave nothing of its one row. -/
theorem count_isCut (l : LiveQuery) :
    (l.query.hasGroups = true → ∀ r l', (count (.tuple [star])).outcome l = (r, l') →
      (∀ v, r = .ok v → ∃ vs, v = .ofList vs) ∧
      hasRows.outcome l = (r >>= fun _ => .error
        (.wrongType "'>' not supported between instances of 'list' and 'int'"), l')) ∧
    (l.query.hasGroups = false →
      (∃ (counted : Result Int) (l' : LiveQuery),
        (count (.tuple [star])).outcome l = (counted.map .int, l') ∧
        hasRows.outcome l = (counted.map fun n => decide (0 < n), l')) ∧
      ∀ row n l', aggregateCell row = .int n →
        select.outcome (l.withAggregate (some countAll)) = (.ok (l.query.cutAggregate row), l') →
        ((count (.tuple [star])).outcome l).1 =
          .ok (.int (if l.query.keepsAggregate then n else 0))) ∧
    ∀ (r : Reading) f, r.function? = some f → RunsOne r.run Channel.select (fun text _ =>
      ∃ columns binding, EndsAggregate (Query.settle l.number
        (l.withAggregate (some ⟨f, columns, "aggregate", binding⟩)).query) text) l := by
  refine ⟨fun grouped r l' ran => ?_, fun ungrouped => ⟨?_, fun row n l' cell ran => ?_⟩,
    fun r f isAggregate => ?_⟩
  · rw [hasRows_outcome, ran]
    cases r with
    | error e => exact ⟨nofun, rfl⟩
    | ok v =>
      obtain ⟨vs, rfl⟩ := (countBy_answers.1 v l' ran).1 grouped
      exact ⟨fun _ same => ⟨vs, (Except.ok.inj same).symm⟩, rfl⟩
  · rw [hasRows_outcome]
    cases ran : (count (.tuple [star])).outcome l with
    | mk r l' =>
      cases r with
      | error e => exact ⟨.error e, l', rfl, rfl⟩
      | ok v =>
        obtain ⟨n, rfl⟩ := (countBy_answers.1 v l' ran).2 ungrouped
        exact ⟨.ok n, l', rfl, rfl⟩
  · rw [Query.cutAggregate_eq] at ran
    rw [count_outcome ungrouped ran (n := n)]
    · cases l.query.keepsAggregate <;> rfl
    · intro first found
      split at found
      · obtain rfl := Option.some.inj found
        exact cell
      · cases found
  · have sends : RunsOne r.run Channel.select (r.Sends l) l :=
      r.run_ends (fun _ => Or.inr) Reading.sends_fetch fun _ => Reading.sends_aggregate
    refine sends.mono fun text row sent => ?_
    unfold Reading.Sends at sent
    rw [isAggregate] at sent
    obtain ⟨columns, binding, compiled, -⟩ := sent
    obtain ⟨-, -, selected⟩ := Result.bind_eq_ok compiled
    exact ⟨columns, binding, endsAggregate_of_selectText rfl selected⟩

/-- A live query on a server that answers its first statement with these rows. -/
def answeredWith (l : LiveQuery) (rows : List Row) : LiveQuery :=
  { l with channel := some ⟨.new .standard, .ofConfig .standard,
    Server.idle.extend "run" [.rows rows], some standardPattern⟩ }

/-- A limit leaves the row of a count. -/
theorem count_isCut_limited :
    let row : Row := [(.text "aggregate", .int 25)]
    let l := (afterCalls [.target (.text "User"), .limit (.int 5)]).answeredWith [row]
    l.query.hasGroups = false ∧ aggregateCell row = .int 25 ∧
    (select.outcome (l.withAggregate (some countAll))).1 = .ok (l.query.cutAggregate row) ∧
    ((count (.tuple [star])).outcome l).1 = .ok (.int 25) := by
  intro row l
  have ungrouped : l.query.hasGroups = false := by decide +kernel
  have ran : (select.outcome (l.withAggregate (some countAll))).1 = .ok (l.query.cutAggregate row) := by
    rfl
  exact ⟨ungrouped, rfl, ran, ((count_isCut l).2.1 ungrouped).2 row 25 _ rfl (Prod.ext ran rfl)⟩

/-- An offset stands behind the count, and leaves nothing of 25; a query that is grouped is not answered at
all. -/
theorem count_skipped :
    let row : Row := [(.text "aggregate", .int 25)]
    let l := afterCalls [.target (.text "User"), .offset (.int 10)]
    let cut := l.answeredWith (l.query.cutAggregate row)
    let grouped := (afterCalls [.target (.text "User"), .groupBy [.text "city"]]).answeredWith
      [(.text "city", .text "Rome") :: row]
    sentTexts (hasRows.outcome l).2 = ["MATCH (user:User) RETURN count(*) AS aggregate SKIP 10"] ∧
    (hasRows.outcome cut).1.toOption = some false ∧ (hasRows.outcome grouped).1.toOption = none := by
  decide +kernel

end LiveQuery

end GraphQuery
