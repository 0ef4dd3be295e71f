import GraphQuery.Cypher.Write
import GraphQuery.Proofs.Outcome

/-! # The stage of a query and what follows it

A select begins with the stage of its query, the patterns with the condition on their rows
(`matchStage_eq_ok`).  What follows it depends on the nodes that the stage introduces, but not on its
text: `afterStage` writes that, and `singleSelect_eq` puts both together.  `afterStage_eq_ok` tells what it
is made of, with one case for each kind of projection (`Projects`); `carriesOn_of_withText` tells it of the
stage before the projection, and `returnsItems_of_returnItems` of the items that are listed.  The branches
of a union stand behind the first select (`appendBranches_eq`). -/

namespace GraphQuery

/-! ### Conditions on groups -/

/-- A condition on groups with its connective. -/
def Having.condition (write : String → String) (h : Having) : Connective × String :=
  (h.joint, h.column ++ " " ++ h.operator ++ " " ++ write h.binding)

theorem Member.eq_clause_of_need {α : Type} {name : String} : ∀ {m : Member α} {c : α},
    m.need name = .ok c → m = .clause c
  | .clause _, _, h => congrArg Member.clause (Except.ok.inj h)
  | .foreign _, _, h => nomatch h

theorem Member.eq_map_clause_of_need {α : Type} {name : String} : ∀ {members : List (Member α)}
    {clauses : List α}, members.mapM (·.need name) = .ok clauses → members = clauses.map .clause
  | [], _, h => by
    obtain rfl := Except.ok.inj h
    rfl
  | m :: rest, clauses, h => by
    rw [List.mapM_cons] at h
    obtain ⟨c, first, h⟩ := Result.bind_eq_ok h
    obtain ⟨others, found, h⟩ := Result.bind_eq_ok h
    obtain rfl := Except.ok.inj h
    rw [eq_clause_of_need first, eq_map_clause_of_need found, List.map_cons]

end GraphQuery

namespace GraphQuery.Cypher

open GraphQuery GraphQuery.Text

theorem havingText_eq_ok {write : String → String} {q : Query} {text : String}
    (h : havingText write q = .ok text) : ∃ havings : List Having, q.havings = havings.map .clause ∧
      text = joinConditions (havings.map (·.condition write)) := by
  obtain ⟨-, -, h⟩ := Result.bind_eq_ok h
  obtain ⟨havings, found, h⟩ := Result.bind_eq_ok h
  exact ⟨havings, Member.eq_map_clause_of_need found, (Except.ok.inj h).symm⟩

/-! ### The stage before the projection -/

/-- The items of a stage that groups rows, behind its keyword: the groups, and the aggregate if there is
one. -/
inductive CarriesItems (write : String → String) (q : Query) (groups : List String) :
    String → List String → Prop
  | distinct : q.aggregate = none → CarriesItems write q groups "WITH DISTINCT " groups
  | aggregated {a : Member Aggregate} {expression : String} {b : Aggregate} : q.aggregate = some a →
      aggregateExpression write q a = .ok expression → a.need "alias" = .ok b →
      CarriesItems write q groups "WITH " (groups ++ [renamed expression b.label])

/-- The conditions on groups behind such a stage. -/
inductive FiltersGroups (write : String → String) (q : Query) (stage : String) : String → Prop
  | all : q.hasHavings = false → FiltersGroups write q stage stage
  | filtered {condition : String} : q.hasHavings = true → havingText write q = .ok condition →
      FiltersGroups write q stage (stage ++ " WHERE " ++ condition)

/-- The stage before the projection: explicit parts, nothing, or grouping. -/
inductive CarriesOn (write : String → String) (q : Query) : String → Prop
  | explicit {parts : List String} : q.hasStages = true → q.stages.mapM textOf = .ok parts →
      CarriesOn write q ("WITH " ++ joined ", " parts)
  | nothing : q.hasStages = false → isStaged q = false → CarriesOn write q ""
  | grouped {groups items : List String} {front text : String} : q.hasStages = false →
      isStaged q = true → groupTexts q groupItem = .ok groups → CarriesItems write q groups front items →
      FiltersGroups write q (front ++ joined ", " items) text → CarriesOn write q text

theorem carriesOn_of_withText {write : String → String} {q : Query} {text : String}
    (h : withText write q = .ok text) : CarriesOn write q text := by
  unfold withText at h
  split at h
  · obtain ⟨-, -, h⟩ := Result.bind_eq_ok h
    obtain ⟨parts, written, h⟩ := Result.bind_eq_ok h
    obtain rfl := Except.ok.inj h
    exact .explicit ‹_› written
  · have unstaged : q.hasStages = false := Bool.eq_false_iff.mpr ‹_›
    split at h
    · obtain rfl := Except.ok.inj h
      exact .nothing unstaged (by simpa using ‹(!isStaged q) = true›)
    · have staged : isStaged q = true := by simpa using ‹¬ (!isStaged q) = true›
      split at h
      · cases h
      · obtain ⟨groups, written, h⟩ := Result.bind_eq_ok h
        have filters : ∀ stage : String, (if q.hasHavings then do
            return stage ++ " WHERE " ++ (← havingText write q) else return stage) = .ok text →
            FiltersGroups write q stage text := by
          intro stage h
          split at h
          · obtain ⟨condition, found, h⟩ := Result.bind_eq_ok h
            obtain rfl := Except.ok.inj h
            exact .filtered ‹_› found
          · obtain rfl := Except.ok.inj h
            exact .all (Bool.eq_false_iff.mpr ‹_›)
        dsimp only at h
        split at h
        · next a own =>
          obtain ⟨expression, first, h⟩ := Result.bind_eq_ok h
          obtain ⟨b, second, h⟩ := Result.bind_eq_ok h
          exact .grouped unstaged staged written (.aggregated own first second) (filters _ h)
        · next own => exact .grouped unstaged staged written (.distinct own) (filters _ h)

theorem staged_of_hasHavings {q : Query} (has : q.hasHavings = true) : isStaged q = true := by
  rw [isStaged, has, Bool.or_true]

/-! ### Returned items -/

/-- What a stage that groups rows carries on: the groups, and the aggregate if there is one. -/
inductive CarriesNames (q : Query) (groups : List String) : List String → Prop
  | distinct : q.aggregate = none → CarriesNames q groups groups
  | aggregated {a : Aggregate} : q.aggregate = some (.clause a) →
      CarriesNames q groups (groups ++ [a.label])

theorem carriesNames_of_carriedNames {q : Query} {names : List String} (h : carriedNames q = .ok names)
    (staged : isStaged q = true) :
    ∃ groups, groupTexts q groupName = .ok groups ∧ CarriesNames q groups names := by
  unfold carriedNames at h
  rw [if_pos staged] at h
  obtain ⟨groups, written, h⟩ := Result.bind_eq_ok h
  split at h
  · next a own =>
    obtain ⟨b, needed, h⟩ := Result.bind_eq_ok h
    obtain rfl := Except.ok.inj h
    exact ⟨groups, written, .aggregated (Member.eq_clause_of_need needed ▸ own)⟩
  · next own =>
    obtain rfl := Except.ok.inj h
    exact ⟨groups, written, .distinct own⟩

theorem eq_star_of_isStar {columns : List Value} (h : isStar columns = true) : columns = [star] := by
  unfold isStar at h
  split at h
  · rw [beq_iff_eq.mp h]
    rfl
  · cases h

/-- The items of a select that lists some: what its stage carries on, everything, or the columns that are
chosen.  Everything is a star behind explicit parts, and else the nodes that are there, at least one. -/
inductive ReturnsItems (q : Query) (seen : Introduced) : List String → Prop
  | carried {names : List String} : isStaged q = true → carriedNames q = .ok names →
      ReturnsItems q seen names
  | everything : isStaged q = false → chosenColumns q = .ok [star] → q.hasStages = true →
      ReturnsItems q seen ["*"]
  | nodes : isStaged q = false → chosenColumns q = .ok [star] → q.hasStages = false → seen ≠ [] →
      ReturnsItems q seen (seen.map (·.1))
  | listed {columns : List Value} {items : List String} : isStaged q = false →
      chosenColumns q = .ok columns → isStar columns = false → columns.mapM (itemText q) = .ok items →
      ReturnsItems q seen items

theorem returnsItems_of_returnItems {q : Query} {seen : Introduced} {items : List String}
    (h : returnItems q seen = .ok items) : ReturnsItems q seen items := by
  unfold returnItems at h
  split at h
  · exact .carried ‹_› h
  · have unstaged : isStaged q = false := Bool.eq_false_iff.mpr ‹_›
    obtain ⟨columns, chosen, h⟩ := Result.bind_eq_ok h
    split at h
    · next all =>
      rw [eq_star_of_isStar all] at chosen
      split at h
      · obtain rfl := Except.ok.inj h
        exact .everything unstaged chosen ‹_›
      · split at h
        · cases h
        · next some =>
          obtain rfl := Except.ok.inj h
          exact .nodes unstaged chosen (Bool.eq_false_iff.mpr ‹_›) fun none => some (by rw [none]; rfl)
    · exact .listed unstaged chosen (Bool.eq_false_iff.mpr ‹_›) h

/-- Something holds of every returned item if it holds of what a stage carries on, of a star, of the nodes
that are there and of every column. -/
theorem ReturnsItems.forall_mem {q : Query} {seen : Introduced} {items : List String} {P : String → Prop}
    (h : ReturnsItems q seen items)
    (carried : isStaged q = true → ∀ names, carriedNames q = .ok names → ∀ t ∈ names, P t)
    (everything : q.hasStages = true → P "*") (nodes : ∀ entry ∈ seen, P entry.1)
    (column : ∀ columns, chosenColumns q = .ok columns → isStar columns = false →
      ∀ v ∈ columns, ∀ t, itemText q v = .ok t → P t) : ∀ t ∈ items, P t := by
  cases h with
  | carried staged own => exact carried staged _ own
  | everything _ _ explicit => exact List.forall_mem_singleton.mpr (everything explicit)
  | nodes => exact List.forall_mem_map.mpr nodes
  | listed _ chosen some written => exact Result.forall_of_mapM written (column _ chosen some)

/-! ### The text of a stage -/

/-- The condition on the rows of a stage: there is none, or it consists of the constraints of patterns
and of the predicates, with parentheses around these or without. -/
theorem whereText_eq (write : String → String) (q : Query) (predicates : String) :
    whereText write q predicates = "" ∨
      ∃ texts, whereText write q predicates = "WHERE " ++ joined " AND " texts ∧
        ∀ t ∈ texts, t ∈ requiredConstraints write q ∨ t = predicates ∨ t = "(" ++ predicates ++ ")" := by
  unfold whereText
  dsimp only
  generalize same : (if predicates ≠ "" ∧ requiredConstraints write q ≠ [] ∧ 1 < q.wheres.length then
    "(" ++ predicates ++ ")" else predicates) = condition
  have shown : condition = predicates ∨ condition = "(" ++ predicates ++ ")" := by
    rw [← same]
    split
    · exact Or.inr rfl
    · exact Or.inl rfl
  have parts : ∀ t ∈ requiredConstraints write q ++ (if condition = "" then [] else [condition]),
      t ∈ requiredConstraints write q ∨ t = predicates ∨ t = "(" ++ predicates ++ ")" := by
    intro t ht
    refine (List.mem_append.mp ht).imp_right fun last => ?_
    split at last
    · cases last
    · rwa [List.mem_singleton.mp last]
  generalize requiredConstraints write q ++ (if condition = "" then [] else [condition]) = texts at parts ⊢
  split
  · exact Or.inl rfl
  · exact Or.inr ⟨texts, rfl, parts⟩

/-- What a stage that compiles is made of. The conditions stand behind the optional patterns if they are
deferred. -/
theorem matchStage_eq_ok {write : String → String} {q : Query} {conditions : Conditions}
    {introduced seen : Introduced} {stage : String}
    (h : matchStage write q conditions introduced = .ok (stage, seen)) :
    ∃ required before optional reads predicates,
      requiredText q introduced = .ok (required, before) ∧
      optionalText write q before = .ok (optional, seen) ∧ q.walk .wheres = .ok () ∧
      conditions.reads = .ok reads ∧ conditions.text = .ok predicates ∧
      stage = if isDeferred reads before seen then
          spaced [required, whereText write q "", optional, "WITH * WHERE " ++ predicates]
        else spaced [required, whereText write q predicates, optional] := by
  obtain ⟨⟨required, before⟩, first, h⟩ := Result.bind_eq_ok h
  obtain ⟨⟨optional, after⟩, second, h⟩ := Result.bind_eq_ok h
  obtain ⟨_, walked, h⟩ := Result.bind_eq_ok h
  obtain ⟨reads, read, h⟩ := Result.bind_eq_ok h
  obtain ⟨predicates, written, h⟩ := Result.bind_eq_ok h
  have parts : (if isDeferred reads before after then
        spaced [required, whereText write q "", optional, "WITH * WHERE " ++ predicates]
      else spaced [required, whereText write q predicates, optional]) = stage ∧ after = seen := by
    split at h
    · next late => rw [if_pos late]; exact Prod.mk.inj (Except.ok.inj h)
    · next early => rw [if_neg early]; exact Prod.mk.inj (Except.ok.inj h)
  obtain ⟨rfl, rfl⟩ := parts
  exact ⟨required, before, optional, reads, predicates, first, second, walked, read, written, rfl⟩

/-! ### What follows the stage -/

/-- What follows the stage of a select, with the names of its columns. -/
def afterStage (write : String → String) (q : Query) (names : Option (List String))
    (seen : Introduced) : Result (List String × List String) := do
  let carried ← withText write q
  let (projection, items) ← match isStaged q, q.aggregate with
    | false, some a => do .ok (← aggregateText write q a, [])
    | _, _ => do
      let items ← returnItems q seen
      let items ← match names with
        | some names => alignItems items names
        | none => .ok items
      .ok ("RETURN " ++ distinctText q ++ joined ", " items, items)
  let order ← orderText q
  return ([carried, projection, order, ← skipText q, ← limitText q], items.map columnName)

theorem singleSelect_eq (write : String → String) (q : Query) (conditions : Conditions)
    (names : Option (List String)) :
    singleSelect write q conditions names = (do
      let (stage, seen) ← matchStage write q conditions []
      let (texts, columns) ← afterStage write q names seen
      return (spaced (stage :: texts), columns)) := by
  unfold singleSelect afterStage
  refine congrArg (matchStage write q conditions [] >>= ·) (funext fun ⟨stage, seen⟩ => ?_)
  dsimp only
  rw [bind_assoc]
  refine congrArg (withText write q >>= ·) (funext fun carried => ?_)
  cases isStaged q <;> cases q.aggregate <;> cases names <;> simp only [bind_assoc, pure_bind]

/-- Whether a select lists items: it does unless it is an aggregate alone. -/
def ListsItems (q : Query) : Prop := isStaged q = false → q.aggregate = none

/-- The projection of a select that lists items. -/
def itemsText (q : Query) (items : List String) : String :=
  "RETURN " ++ distinctText q ++ joined ", " items

/-- What a select projects behind nodes that are there, with its items: an aggregate alone, its own
items, or those under given names. -/
inductive Projects (write : String → String) (q : Query) (seen : Introduced) :
    Option (List String) → String → List String → Prop
  | aggregate {names : Option (List String)} {a : Member Aggregate} {projection : String} :
      isStaged q = false → q.aggregate = some a → aggregateText write q a = .ok projection →
      Projects write q seen names projection []
  | listed {items : List String} : ListsItems q → returnItems q seen = .ok items →
      Projects write q seen none (itemsText q items) items
  | aligned {own items names : List String} : ListsItems q → returnItems q seen = .ok own →
      alignItems own names = .ok items →
      Projects write q seen (some names) (itemsText q items) items

theorem afterStage_eq_ok {write : String → String} {q : Query} {names : Option (List String)}
    {seen : Introduced} {texts columns : List String}
    (h : afterStage write q names seen = .ok (texts, columns)) :
    ∃ carried projection items order skip limit, withText write q = .ok carried ∧
      Projects write q seen names projection items ∧ orderText q = .ok order ∧
      skipText q = .ok skip ∧ limitText q = .ok limit ∧
      texts = [carried, projection, order, skip, limit] ∧ columns = items.map columnName := by
  obtain ⟨carried, grouped, h⟩ := Result.bind_eq_ok h
  have shown : ∃ projection items, Projects write q seen names projection items ∧ (do
      let order ← orderText q
      return ([carried, projection, order, ← skipText q, ← limitText q], items.map columnName)) =
        Except.ok (texts, columns) := by
    dsimp only at h
    split at h
    · next a unstaged own =>
      obtain ⟨projection, written, h⟩ := Result.bind_eq_ok h
      exact ⟨projection, [], .aggregate unstaged own written, h⟩
    · next other =>
      have lists : ListsItems q := by
        intro unstaged
        cases own : q.aggregate with
        | none => rfl
        | some a => exact (other a unstaged own).elim
      obtain ⟨items, returned, h⟩ := Result.bind_eq_ok h
      cases names with
      | none => exact ⟨_, items, .listed lists returned, h⟩
      | some names =>
        obtain ⟨aligned, renamed, h⟩ := Result.bind_eq_ok h
        exact ⟨_, aligned, .aligned lists returned renamed, h⟩
  obtain ⟨projection, items, projects, h⟩ := shown
  obtain ⟨order, ordered, h⟩ := Result.bind_eq_ok h
  obtain ⟨skip, skipped, h⟩ := Result.bind_eq_ok h
  obtain ⟨limit, limited, h⟩ := Result.bind_eq_ok h
  obtain ⟨rfl, rfl⟩ := Prod.mk.inj (Except.ok.inj h)
  exact ⟨carried, projection, items, order, skip, limit, grouped, projects, ordered, skipped, limited,
    rfl, rfl⟩

theorem afterStage_names {write : String → String} {q : Query} {seen : Introduced}
    {texts names : List String} (h : afterStage write q none seen = .ok (texts, names))
    (lists : ListsItems q) : ∃ items, returnItems q seen = .ok items ∧ names = items.map columnName := by
  obtain ⟨carried, projection, items, order, skip, limit, -, projects, -, -, -, -, rfl⟩ :=
    afterStage_eq_ok h
  cases projects with
  | aggregate unstaged own =>
    rw [lists unstaged] at own
    cases own
  | listed _ returned => exact ⟨items, returned, rfl⟩

/-- A select is made of its stage and what follows it. -/
theorem singleSelect_eq_ok {write : String → String} {q : Query} {conditions : Conditions}
    {names : Option (List String)} {text : String} {columns : List String}
    (h : singleSelect write q conditions names = .ok (text, columns)) :
    ∃ stage seen texts, matchStage write q conditions [] = .ok (stage, seen) ∧
      afterStage write q names seen = .ok (texts, columns) ∧ text = spaced (stage :: texts) := by
  rw [singleSelect_eq] at h
  obtain ⟨⟨stage, seen⟩, matched, h⟩ := Result.bind_eq_ok h
  obtain ⟨⟨texts, columns⟩, after, h⟩ := Result.bind_eq_ok h
  obtain ⟨rfl, rfl⟩ := Prod.mk.inj (Except.ok.inj h)
  exact ⟨stage, seen, texts, matched, after, rfl⟩

/-! ### The whole select -/

/-- What a select is made of: that of its query with the branches behind it, or an aggregate around the
select of a copy without one, which is not grouped. -/
inductive Assembles (write : String → String) (q : Query) (conditions : Conditions)
    (branches : List BranchText) : String → Prop
  | plain {text : String} : (q.hasBranches = true → q.aggregate = none) →
      plainSelect write q conditions branches = .ok text → Assembles write q conditions branches text
  | aggregate {a : Member Aggregate} {copy : Query} {rows projection : String} : q.hasBranches = true →
      q.aggregate = some a → isStaged q = false → q.copied = .ok copy →
      plainSelect write { copy with aggregate := none } conditions branches = .ok rows →
      aggregateText write q a = .ok projection →
      Assembles write q conditions branches ("CALL \x7b " ++ rows ++ " \x7d " ++ projection)

theorem assembles_of_assembleSelect {write : String → String} {q : Query} {conditions : Conditions}
    {branches : List BranchText} {text : String}
    (h : assembleSelect write q conditions branches = .ok text) :
    Assembles write q conditions branches text := by
  unfold assembleSelect at h
  split at h
  · next a joined own =>
    unfold unionAggregate at h
    split at h
    · cases h
    · next ungrouped =>
      obtain ⟨copy, copied, h⟩ := Result.bind_eq_ok h
      obtain ⟨rows, written, h⟩ := Result.bind_eq_ok h
      obtain ⟨projection, aggregated, h⟩ := Result.bind_eq_ok h
      obtain rfl := Except.ok.inj h
      exact .aggregate joined own (Bool.eq_false_iff.mpr ungrouped) copied written aggregated
  · next other =>
    refine .plain (fun joined => ?_) h
    cases own : q.aggregate with
    | none => rfl
    | some a => exact (other a joined own).elim

theorem spaced_cons (text : String) (rest : List String) :
    ∃ tail, spaced (text :: rest) = text ++ tail := by
  by_cases none : text = ""
  · exact ⟨spaced rest, by simp [spaced, none]⟩
  · have whole : (text :: rest).filter (· ≠ "") = text :: rest.filter (· ≠ "") := by
      simp [none]
    unfold spaced
    rw [whole]
    cases rest.filter (· ≠ "") with
    | nil => exact ⟨"", by simp [joined]⟩
    | cons second more =>
      refine ⟨" " ++ joined " " (second :: more), String.toList_injective ?_⟩
      simp [joined, String.toList_append]

theorem appendBranches_eq (write : String → String) (names : List String) :
    ∀ (branches : List BranchText) (text : String),
      appendBranches write names text branches = (do
        return text ++ (← appendBranches write names "" branches))
  | [], text => by simp [appendBranches, bind, Except.bind, pure, Except.pure]
  | b :: rest, text => by
    simp only [appendBranches]
    cases b.content with
    | error e => rfl
    | ok content =>
      cases h : singleSelect write content.1 content.2 (some names) with
      | error e => simp [h, bind, Except.bind]
      | ok branch =>
        have first := appendBranches_eq write names rest (text ++ " " ++ b.keyword ++ " " ++ branch.1)
        have second := appendBranches_eq write names rest ("" ++ " " ++ b.keyword ++ " " ++ branch.1)
        simp only [h, bind, Except.bind] at first second ⊢
        rw [first, second]
        cases appendBranches write names "" rest with
        | error e => rfl
        | ok texts => simp [pure, Except.pure, String.append_assoc]

end GraphQuery.Cypher
