import GraphQuery.Proofs.Query.Plain

/-! # Columns of a copy

A column is written as a star, as a node or as what it is resolved to (`expresses_of_expressionText`).
Queries with the same nodes call columns alike (`Query.SameNodes`), and so what is put together from
columns is the same for both: what a stage carries on, the returned items and the order of the rows.

A copy of a query under new names has the nodes and columns of the query, so what a text takes from
these alone is the same for both: placeholders, column references, group columns, returned items,
the order of the rows, and the patterns that have to match. -/

namespace GraphQuery

open GraphQuery.Cypher BindingTable

/-- Asking the members of a list is not changed by a change of the clauses among them. -/
theorem mapM_need_map {α : Type} (f : α → α) (name : String) : ∀ members : List (Member α),
    (members.map (Member.map f)).mapM (Member.need name) =
      (members.mapM (Member.need name)).map (List.map f)
  | [] => rfl
  | .foreign v :: rest => by
    rw [List.map_cons, List.mapM_cons, List.mapM_cons]
    rfl
  | .clause c :: rest => by
    have ih := mapM_need_map f name rest
    rw [List.map_cons, List.mapM_cons, List.mapM_cons]
    show (do
      let cs ← (rest.map (Member.map f)).mapM (Member.need name)
      return f c :: cs) = Except.map (List.map f) (do
        let cs ← rest.mapM (Member.need name)
        return c :: cs)
    rw [ih]
    cases rest.mapM (Member.need name) <;> rfl

namespace Cypher

/-! ### What a column is written as -/

/-- What a column is written as: a star, the name of a node, or the text of what it is resolved to. -/
inductive Expresses (q : Query) (column : Value) : String → Prop
  | star : column = star → Expresses q column "*"
  | node {s : String} : column = .text s → column ≠ star → q.knows s = .ok true → Expresses q column s
  | resolved {c : ColumnRef} {text : String} : column ≠ star →
      (∀ s, column = .text s → q.knows s = .ok false) → q.resolve column = .ok c →
      columnText c = .ok text → Expresses q column text

theorem expresses_of_expressionText {q : Query} {column : Value} {text : String}
    (h : expressionText q column = .ok text) : Expresses q column text := by
  unfold expressionText at h
  split at h
  · next s =>
    split at h
    · next starred =>
      obtain rfl := Except.ok.inj h
      subst starred
      exact .star rfl
    · next other =>
      have other : Value.text s ≠ star := fun same => other (Value.text.inj same)
      obtain ⟨known, found, h⟩ := Result.bind_eq_ok h
      cases known with
      | true =>
        obtain rfl := Except.ok.inj h
        exact .node rfl other found
      | false =>
        obtain ⟨c, reference, h⟩ := Result.bind_eq_ok h
        exact .resolved other (fun _ own => Value.text.inj own ▸ found) reference h
  · next unnamed =>
    obtain ⟨c, reference, h⟩ := Result.bind_eq_ok h
    exact .resolved (unnamed _) (fun s own => (unnamed s own).elim) reference h

/-- What a sort key is written as, behind a stage that gives some names. -/
inductive SortsAs (q : Query) (names : List String) (column : Value) : String → Prop
  | name {s : String} : column = .text s → s ∈ names → SortsAs q names column s
  | expression {item : String} : (∀ s ∈ names, column ≠ .text s) →
      expressionText q column = .ok item → SortsAs q names column item

/-- A sort key with its direction. -/
def directedItem (key : SortKey) (item : String) : String := item ++ " " ++ key.direction.keyword

theorem sortText_eq_ok {q : Query} {names : List String} {key : SortKey} {text : String}
    (h : sortText q names key = .ok text) :
    ∃ item, SortsAs q names key.column item ∧ text = directedItem key item := by
  unfold sortText at h
  dsimp only at h
  split at h
  · next s same =>
    split at h
    · next inside => exact ⟨s, .name same inside, (Except.ok.inj h).symm⟩
    · next outside =>
      obtain ⟨item, found, h⟩ := Result.bind_eq_ok h
      refine ⟨item, .expression (fun r inside own => outside ?_) found, (Except.ok.inj h).symm⟩
      exact Value.text.inj (same.symm.trans own) ▸ inside
  · next other =>
    obtain ⟨item, found, h⟩ := Result.bind_eq_ok h
    exact ⟨item, .expression (fun s _ own => other s own) found, (Except.ok.inj h).symm⟩

theorem groupTexts_congr {q q' : Query} {write : Query → Value → Result String}
    (each : ∀ column, write q column = write q' column) (groups : q.groups = q'.groups)
    (walk : q.walk .groups = q'.walk .groups) : groupTexts q write = groupTexts q' write := by
  unfold groupTexts
  rw [walk, groups, show write q = write q' from funext each]

end Cypher

/-! ### The same nodes -/

namespace Query

/-- Two queries have the same nodes, and the same grammar that names them. -/
structure SameNodes (q q' : Query) : Prop where
  primary : q.placeholder? = q'.placeholder?
  known : q.knownPlaceholders = q'.knownPlaceholders
  grammar : ∀ name, q.ask .grammar name = q'.ask .grammar name

namespace SameNodes

variable {q q' : Query} (same : q.SameNodes q')

include same

theorem knows (s : String) : q.knows s = q'.knows s := by
  unfold Query.knows
  rw [same.known]

theorem resolve (column : Value) : q.resolve column = q'.resolve column := by
  have owner (s : String) : q.ownerPlaceholder s = q'.ownerPlaceholder s := by
    unfold ownerPlaceholder
    rw [same.knows, same.grammar]
  unfold Query.resolve resolveText
  simp only [owner, same.primary]

theorem expressionText (column : Value) : expressionText q column = expressionText q' column := by
  unfold Cypher.expressionText
  simp only [same.knows, same.resolve]

theorem groupName (column : Value) : groupName q column = groupName q' column := by
  unfold Cypher.groupName
  simp only [same.knows, same.resolve]

theorem groupItem (column : Value) : groupItem q column = groupItem q' column := by
  unfold Cypher.groupItem
  simp only [same.expressionText, same.groupName]

theorem itemText (column : Value) : itemText q column = itemText q' column := by
  unfold Cypher.itemText
  rw [same.expressionText]

theorem aggregateColumn (function : String) (isDistinct : Bool) (column : Value) :
    aggregateColumn q function isDistinct column = aggregateColumn q' function isDistinct column := by
  unfold Cypher.aggregateColumn
  rw [same.expressionText, same.primary]

theorem sortText (carried : List String) (key : SortKey) :
    sortText q carried key = sortText q' carried key := by
  unfold Cypher.sortText
  simp only [same.expressionText]

theorem aggregateExpression {write : String → String} (distinct : q.isDistinct = q'.isDistinct)
    (a : Member Aggregate) : aggregateExpression write q a = aggregateExpression write q' a := by
  have counts : countsDistinct q = countsDistinct q' := by
    funext a
    unfold countsDistinct
    rw [distinct]
  have column (function : String) (isDistinct : Bool) :
      Cypher.aggregateColumn q function isDistinct = Cypher.aggregateColumn q' function isDistinct :=
    funext fun column => same.aggregateColumn function isDistinct column
  unfold Cypher.aggregateExpression
  simp only [column, counts]

theorem aggregateText {write : String → String} (distinct : q.isDistinct = q'.isDistinct)
    (a : Member Aggregate) : aggregateText write q a = aggregateText write q' a := by
  unfold Cypher.aggregateText
  rw [same.aggregateExpression distinct]

/-- What a stage carries on depends on the aggregate if there is such a stage. -/
theorem carriedNames (staged : isStaged q = isStaged q') (groups : q.groups = q'.groups)
    (walk : q.walk .groups = q'.walk .groups)
    (aggregate : isStaged q' = true → q.aggregate = q'.aggregate) :
    carriedNames q = carriedNames q' := by
  unfold Cypher.carriedNames
  rw [staged, groupTexts_congr same.groupName groups walk]
  split
  · next grouped => rw [aggregate grouped]
  · rfl

theorem returnItems (staged : isStaged q = isStaged q')
    (carried : Cypher.carriedNames q = Cypher.carriedNames q')
    (chosen : chosenColumns q = chosenColumns q') (explicit : q.hasStages = q'.hasStages) :
    returnItems q = returnItems q' := by
  funext seen
  unfold Cypher.returnItems
  rw [staged, carried, chosen, explicit, show Cypher.itemText q = Cypher.itemText q' from
    funext same.itemText]

theorem orderText (carried : Cypher.carriedNames q = Cypher.carriedNames q')
    (present : q.hasSortKeys = q'.hasSortKeys) (walk : q.walk .sortKeys = q'.walk .sortKeys)
    (keys : q.sortKeys = q'.sortKeys) : orderText q = orderText q' := by
  unfold Cypher.orderText
  simp only [present, carried, walk, keys, same.sortText]

end SameNodes

/-- Without new names, only predicates and branches are other ones. -/
theorem under_nil (q : Query) (wheres : List Predicate) (branches : List Branch) :
    q.under [] wheres branches = { q with wheres, branches } := by
  have patterns : ∀ m : Member Pattern, m.map (Pattern.rename []) = m := by
    rintro (⟨_, _, _, _, _, _ | _⟩ | _) <;> rfl
  have havings : ∀ m : Member Having, m.map (Having.rename []) = m := by
    rintro (_ | _) <;> rfl
  have aggregates : ∀ m : Member Aggregate, m.map (Aggregate.rename []) = m := by
    rintro (⟨_, _, _, _ | _⟩ | _) <;> rfl
  unfold Query.under
  rw [List.map_congr_left (g := id) fun m _ => patterns m,
    List.map_congr_left (g := id) fun m _ => havings m, List.map_id, List.map_id,
    show (fun m : Member Aggregate => m.map (Aggregate.rename [])) = id from funext aggregates,
    Option.map_id]
  rfl

variable {renames : Renames} {q : Query} {wheres : List Predicate} {branches : List Branch}

@[simp] theorem placeholder?_under : (q.under renames wheres branches).placeholder? = q.placeholder? :=
  rfl

@[simp] theorem walk_under (part : QueryPart) :
    (q.under renames wheres branches).walk part = q.walk part := rfl

@[simp] theorem knownPlaceholders_under :
    (q.under renames wheres branches).knownPlaceholders = q.knownPlaceholders := by
  unfold knownPlaceholders
  rw [placeholder?_under, walk_under]
  show (do
    let primary ← q.placeholder?
    q.walk .patterns
    let patterns ← (q.patterns.map (Member.map (Pattern.rename renames))).mapM (Member.need "kind")
    return patterns.foldl _ primary.toList) = _
  rw [mapM_need_map]
  congr 1
  funext primary
  congr 1
  funext _
  cases q.patterns.mapM (Member.need "kind") with
  | error e => rfl
  | ok patterns =>
      show Except.ok ((patterns.map (Pattern.rename renames)).foldl _ _) = Except.ok _
      rw [List.foldl_map]
      rfl

theorem sameNodes_under : (q.under renames wheres branches).SameNodes q :=
  ⟨rfl, knownPlaceholders_under, fun _ => rfl⟩

end Query

namespace Cypher

variable {renames : Renames} {q : Query} {wheres : List Predicate} {branches : List Branch}

@[simp] theorem groupName_under (column : Value) :
    groupName (q.under renames wheres branches) column = groupName q column :=
  Query.sameNodes_under.groupName column

@[simp] theorem groupItem_under (column : Value) :
    groupItem (q.under renames wheres branches) column = groupItem q column :=
  Query.sameNodes_under.groupItem column

@[simp] theorem aggregateColumn_under (function : String) (isDistinct : Bool) (column : Value) :
    aggregateColumn (q.under renames wheres branches) function isDistinct column =
      aggregateColumn q function isDistinct column :=
  Query.sameNodes_under.aggregateColumn function isDistinct column

@[simp] theorem hasHavings_under : (q.under renames wheres branches).hasHavings = q.hasHavings := by
  show QueryOver.isPresent q .havings (q.havings.map _).isEmpty = _
  rw [List.isEmpty_map]
  rfl

@[simp] theorem hasStages_under : (q.under renames wheres branches).hasStages = q.hasStages := rfl

@[simp] theorem hasGroups_under : (q.under renames wheres branches).hasGroups = q.hasGroups := rfl

@[simp] theorem isStaged_under : isStaged (q.under renames wheres branches) = isStaged q := by
  unfold isStaged
  rw [hasGroups_under, hasHavings_under]

theorem groupTexts_under {write : Query → Value → Result String}
    (same : ∀ column, write (q.under renames wheres branches) column = write q column) :
    groupTexts (q.under renames wheres branches) write = groupTexts q write :=
  groupTexts_congr same rfl rfl

@[simp] theorem carriedNames_under :
    carriedNames (q.under renames wheres branches) = carriedNames q := by
  unfold carriedNames
  rw [isStaged_under, groupTexts_under groupName_under]
  rw [show (q.under renames wheres branches).aggregate =
    q.aggregate.map (Member.map (Aggregate.rename renames)) from rfl]
  cases q.aggregate with
  | none => rfl
  | some m => cases m <;> rfl

@[simp] theorem returnItems_under (seen : Introduced) :
    returnItems (q.under renames wheres branches) seen = returnItems q seen :=
  congrFun (Query.sameNodes_under.returnItems isStaged_under carriedNames_under rfl rfl) seen

@[simp] theorem orderText_under : orderText (q.under renames wheres branches) = orderText q :=
  Query.sameNodes_under.orderText carriedNames_under rfl rfl rfl

/-! ### Patterns -/

theorem patternText_rename (p : Pattern) (seen : Introduced) :
    patternText (p.rename renames) seen = patternText p seen := rfl

theorem requiredClauses_rename : ∀ (patterns : List (Member Pattern)) (seen : Introduced),
    requiredClauses (patterns.map (·.map (Pattern.rename renames))) seen =
      requiredClauses patterns seen
  | [], _ => rfl
  | .foreign _ :: _, _ => rfl
  | .clause p :: rest, seen => by
    show requiredClauses (.clause (p.rename renames) :: _) seen = _
    unfold requiredClauses
    rw [show (p.rename renames).isOptional = p.isOptional from rfl, patternText_rename,
      requiredClauses_rename rest seen]
    simp only [requiredClauses_rename rest]

@[simp] theorem requiredText_under (seen : Introduced) :
    requiredText (q.under renames wheres branches) seen = requiredText q seen := by
  unfold requiredText
  rw [Query.placeholder?_under]
  simp only [show (q.under renames wheres branches).patterns =
    q.patterns.map (·.map (Pattern.rename renames)) from rfl, requiredClauses_rename,
    Query.walk_under]
  rfl

end Cypher

end GraphQuery
