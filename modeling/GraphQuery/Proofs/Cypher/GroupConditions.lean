import GraphQuery.Proofs.Cypher.Unions

/-! # Conditions on groups

Conditions on groups end the stage before the projection.  This stage is either made of explicit parts or
groups rows, and only in the second case there is a place for them: `singleSelect_filtered` says that a
select then has all of them, `singleSelect_explicit` that in the first case any other conditions give the
same select.  `selectText_groupConditions` says so for every select of a union.

Conditions without a group or an aggregate to look at are refused (`withText_ungrouped`), and so are
groups and conditions of an aggregate over a whole union (`selectText_groupedUnion`). -/

namespace GraphQuery

open GraphQuery.Text GraphQuery.Cypher

/-- A query with other conditions on groups. -/
def Query.withHavings (q : Query) (havings : List (Member Having)) : Query := { q with havings := havings }

namespace Cypher

variable {write : String → String} {q : Query} {conditions : Conditions} {names : Option (List String)}
  {text : String} {columns : List String}

/-! ### Selects that group rows -/

theorem withText_ungrouped (unstaged : q.hasStages = false) (filtered : q.hasHavings = true)
    (ungrouped : (q.hasGroups || hasAggregate q) = false) :
    withText write q = .error (.render .havingWithoutGroups) := by
  obtain ⟨groups, aggregate⟩ := Bool.or_eq_false_iff.mp ungrouped
  simp [withText, isStaged, unstaged, filtered, groups, aggregate]

/-- A select that groups rows has a stage with its groups, the conditions behind them, and a projection of
items. -/
theorem singleSelect_grouped (h : singleSelect write q conditions names = .ok (text, columns))
    (unstaged : q.hasStages = false) (staged : isStaged q = true) :
    ∃ stage seen groups front items carried returned rest, withText write q = .ok carried ∧
      groupTexts q groupItem = .ok groups ∧ CarriesItems write q groups front items ∧
      FiltersGroups write q (front ++ joined ", " items) carried ∧
      Projects write q seen names (itemsText q returned) returned ∧
      text = spaced (stage :: carried :: itemsText q returned :: rest) := by
  obtain ⟨stage, seen, texts, -, after, rfl⟩ := singleSelect_eq_ok h
  obtain ⟨carried, projection, returned, order, skip, limit, written, projects, -, -, -, rfl, -⟩ :=
    afterStage_eq_ok after
  have returns : projection = itemsText q returned := by
    cases projects with
    | aggregate free => rw [staged] at free; cases free
    | listed => rfl
    | aligned => rfl
  subst returns
  cases carriesOn_of_withText written with
  | explicit explicit => rw [unstaged] at explicit; cases explicit
  | nothing _ free => rw [staged] at free; cases free
  | grouped _ _ groups carries filters =>
    exact ⟨stage, seen, _, _, _, carried, returned, [order, skip, limit], written, groups, carries,
      filters, projects, rfl⟩

/-- An aggregate over a whole union is not taken by groups. -/
theorem selectText_groupedUnion {a : Member Aggregate} (branched : q.hasBranches = true)
    (own : q.aggregate = some a) (staged : isStaged q = true) :
    selectText write q = .error (.render .groupedUnionAggregate) := by
  rw [isStaged] at staged
  simp only [selectText, assembleSelect, unionAggregate, branched, own, staged, if_true]

/-- A union whose first select groups rows begins with it. -/
theorem unionStart_of_isStaged (h : selectText write q = .ok text) (staged : isStaged q = true) :
    q.unionStart = q := by
  refine Query.unionStart_eq fun branched => ?_
  cases own : q.aggregate with
  | none => rfl
  | some a =>
    rw [selectText_groupedUnion branched own staged] at h
    cases h

/-! ### All conditions -/

/-- A select filters its groups: its conditions, all of them and in their order, end a stage that groups
rows, and the projection follows. -/
def FiltersItsGroups (write : String → String) (q : Query) (select : String) : Prop :=
  ∃ stage groups front items returned rest, ∃ havings : List Having,
    q.havings = havings.map .clause ∧ CarriesItems write q groups front items ∧
      select = spaced (stage :: (front ++ joined ", " items ++ " WHERE " ++
        joinConditions (havings.map (·.condition write))) :: itemsText q returned :: rest)

theorem singleSelect_filtered (h : singleSelect write q conditions names = .ok (text, columns))
    (unstaged : q.hasStages = false) (filtered : q.hasHavings = true) :
    (q.hasGroups || hasAggregate q) = true ∧ FiltersItsGroups write q text := by
  obtain ⟨stage, seen, groups, front, items, carried, returned, rest, grouped, -, carries, filters, -,
    rfl⟩ := singleSelect_grouped h unstaged (staged_of_hasHavings filtered)
  constructor
  · by_contra ungrouped
    rw [withText_ungrouped unstaged filtered (Bool.eq_false_iff.mpr ungrouped)] at grouped
    cases grouped
  · cases filters with
    | all free => rw [filtered] at free; cases free
    | filtered _ written =>
      obtain ⟨havings, found, rfl⟩ := havingText_eq_ok written
      exact ⟨stage, groups, front, items, returned, rest, havings, found, carries, rfl⟩

/-! ### Other conditions -/

section OtherConditions

variable {havings : List (Member Having)} (present : havings.isEmpty = q.havings.isEmpty)

theorem sameNodes_withHavings (q : Query) (havings : List (Member Having)) :
    (q.withHavings havings).SameNodes q := ⟨rfl, rfl, fun _ => rfl⟩

theorem aggregateText_withHavings (a : Member Aggregate) :
    aggregateText write (q.withHavings havings) a = aggregateText write q a :=
  (sameNodes_withHavings q havings).aggregateText rfl a

include present

theorem isStaged_withHavings : isStaged (q.withHavings havings) = isStaged q :=
  congrArg (q.hasGroups || QueryOver.isPresent q .havings ·) present

theorem carriedNames_withHavings : carriedNames (q.withHavings havings) = carriedNames q :=
  (sameNodes_withHavings q havings).carriedNames (isStaged_withHavings present) rfl rfl fun _ => rfl

theorem returnItems_withHavings : returnItems (q.withHavings havings) = returnItems q :=
  (sameNodes_withHavings q havings).returnItems (isStaged_withHavings present)
    (carriedNames_withHavings present) rfl rfl

theorem orderText_withHavings : orderText (q.withHavings havings) = orderText q :=
  (sameNodes_withHavings q havings).orderText (carriedNames_withHavings present) rfl rfl rfl

/-- With explicit parts a select has no place for conditions on groups: with any others it is the same. -/
theorem singleSelect_explicit (explicit : q.hasStages = true) :
    singleSelect write (q.withHavings havings) conditions names =
      singleSelect write q conditions names := by
  have carried : withText write (q.withHavings havings) = withText write q := by
    unfold withText
    rw [if_pos (show (q.withHavings havings).hasStages = true from explicit), if_pos explicit]
    rfl
  have stage : matchStage write (q.withHavings havings) conditions [] = matchStage write q conditions [] :=
    rfl
  have distinct : distinctText (q.withHavings havings) = distinctText q := rfl
  have aggregate : (q.withHavings havings).aggregate = q.aggregate := rfl
  have skip : skipText (q.withHavings havings) = skipText q := rfl
  have limit : limitText (q.withHavings havings) = limitText q := rfl
  unfold singleSelect
  simp only [carried, stage, distinct, aggregate, skip, limit, isStaged_withHavings present,
    returnItems_withHavings present, orderText_withHavings present, aggregateText_withHavings]

end OtherConditions

/-! ### The conditions of a union -/

/-- What the select of a query shows of its conditions on groups: all of them, or with explicit parts
nothing. -/
structure ShowsConditions (write : String → String) (q : Query) (conditions : Conditions)
    (names : Option (List String)) (select : String) : Prop where
  kept : q.hasStages = false → q.hasHavings = true →
    (q.hasGroups || hasAggregate q) = true ∧ FiltersItsGroups write q select
  /-- with any other conditions the select is the same -/
  lost : q.hasStages = true → ∀ havings : List (Member Having), havings.isEmpty = q.havings.isEmpty →
    ∃ columns, singleSelect write (q.withHavings havings) conditions names = .ok (select, columns)

theorem showsConditions (h : singleSelect write q conditions names = .ok (text, columns)) :
    ShowsConditions write q conditions names text where
  kept := singleSelect_filtered h
  lost := fun explicit _ present => ⟨columns, (singleSelect_explicit present explicit).trans h⟩

/-- Every select of a union shows the conditions on groups of its query, unless it has explicit parts. -/
theorem selectText_groupConditions (h : selectText write q = .ok text) :
    ∃ first names selects, IsUnion write q text first names selects ∧
      (q.hasHavings = true → q.unionStart = q) ∧
      ShowsConditions write q.unionStart (conditionsOf write q) none first ∧
      List.Forall₂ (fun b select => ∃ other, b.query.query? = some other ∧
        ShowsConditions write other (conditionsOf write other) (some names) select) q.branches selects := by
  obtain ⟨first, names, selects, union⟩ := isUnion_of_selectText h
  refine ⟨first, names, selects, union,
    fun filtered => unionStart_of_isStaged h (staged_of_hasHavings filtered),
    showsConditions union.begins, union.goesOn.imp ?_⟩
  rintro b select ⟨other, columns, found, written⟩
  exact ⟨other, found, showsConditions written⟩

/-- Groups with one condition, and an aggregate with two of them. -/
theorem selectText_groupConditions_two :
    let q := (LiveQuery.afterCalls [.target (.text "User"), .groupBy [.text "city"],
      .having (.text "city") (some (.value (.text "<>"))) (some (.value (.text "Rome"))) Call.andName,
      .union (.body [.target (.text "Admin"),
        .setAggregate (some ⟨"count", [Cypher.star], "aggregate", none⟩),
        .having (.text "aggregate") (some (.value (.text ">"))) (some (.value (.int 3))) Call.andName,
        .having (.text "aggregate") (some (.value (.int 0))) none Call.orName]) (.bool false)]).query
    let text := "MATCH (user:User) WITH DISTINCT user.city AS city WHERE city <> $city RETURN city " ++
      "UNION MATCH (admin:Admin) WITH count(*) AS aggregate " ++
      "WHERE aggregate > $aggregate OR aggregate = $aggregate_2 RETURN aggregate AS city"
    selectText parameter q = .ok text ∧
    ∃ first names selects, IsUnion parameter q text first names selects ∧
      (q.hasHavings = true → q.unionStart = q) ∧
      ShowsConditions parameter q.unionStart (conditionsOf parameter q) none first ∧
      List.Forall₂ (fun b select => ∃ other, b.query.query? = some other ∧
        ShowsConditions parameter other (conditionsOf parameter other) (some names) select)
          q.branches selects := by
  intro q text
  have written : selectText parameter q = .ok text := Result.of_toOption (by decide +kernel)
  exact ⟨written, selectText_groupConditions written⟩

/-- Behind explicit parts a condition has no place, and is lost. -/
theorem selectText_lostCondition :
    let q := (LiveQuery.afterCalls [.target (.text "User"),
      .stage [.text "user.city AS city", .text "count(*) AS total"] [], .groupBy [.text "city"],
      .having (.text "total") (some (.value (.text ">"))) (some (.value (.int 3))) Call.andName]).query
    let text := "MATCH (user:User) WITH user.city AS city, count(*) AS total RETURN city"
    (selectText parameter q).toOption = some text ∧
    (q.havings.filterMap Member.clause?).map (·.condition parameter) = [(.all, "total > $total")] ∧
    ¬ "total > $total".toList <:+: text.toList := by
  decide +kernel

end Cypher

end GraphQuery
