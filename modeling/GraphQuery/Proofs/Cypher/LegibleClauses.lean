import GraphQuery.Proofs.Cypher.Legible
import GraphQuery.Proofs.Cypher.QuietSelect

/-! # Legible clauses

The clauses of a query are *legible* if they are written as legible texts, so that a select that is put
together from them is read clause by clause.

* `Query.KeptWithin` : the patterns, predicates, stages and groups of a query, and the conditions on
  groups, mention nothing but what is allowed;
* `Query.HasLegibleClauses`, `Query.IsLegible` : the clauses of a query, and those of its branches, are
  legible texts;
* `Query.HasQuietParts.legibleClauses` : those of a quiet query are;
* `Query.projecting` : another projection, order and paging leave the other clauses as they are. -/

namespace GraphQuery

open GraphQuery.Text GraphQuery.Cypher

/-! ### Clauses -/

namespace Query

/-- The clauses that a count keeps mention nothing but what is allowed, as far as they are written. -/
structure KeptWithin (q : Query) (allowed : String → Prop) : Prop where
  stage : ∀ stage seen, matchStage parameter q (conditionsOf parameter q) [] = .ok (stage, seen) →
    NamesOnly allowed stage
  parts : q.hasStages = true → ∀ parts, q.stages.mapM textOf = .ok parts →
    ∀ t ∈ parts, NamesOnly allowed t
  groups : q.hasStages = false → isStaged q = true → ∀ groups, groupTexts q groupItem = .ok groups →
    ∀ t ∈ groups, NamesOnly allowed t
  havings : q.hasStages = false → q.hasHavings = true → ∀ text, havingText parameter q = .ok text →
    NamesOnly allowed text
  names : isStaged q = true → ∀ names, groupTexts q groupName = .ok names → ∀ t ∈ names,
    NamesOnly allowed t

/-- The clauses of a query are legible texts. What a query calls its nodes and its columns mentions
nothing. -/
structure HasLegibleClauses (q : Query) : Prop where
  kept : q.KeptWithin fun _ => True
  nodes : ∀ p, Member.clause p ∈ q.patterns → ∀ node, p.Binds node → Silent node
  items : ∀ stage seen items, matchStage parameter q (conditionsOf parameter q) [] = .ok (stage, seen) →
    returnItems q seen = .ok items → ∀ t ∈ items, NamesOnly (fun _ => False) t
  order : ∀ text, orderText q = .ok text → Legible text
  aggregate : ∀ a expression b, q.aggregate = some a →
    aggregateExpression parameter q a = .ok expression → a.need "alias" = .ok b →
      Legible (renamed expression b.label)

/-- The clauses of a query and of its branches are legible texts, and no quotation is cut apart when a
branch gets other names for its columns. A branch that is the query itself has no clauses of its own. -/
structure IsLegible (q : Query) (number : Nat) : Prop where
  clauses : q.HasLegibleClauses
  branches : ∀ b ∈ q.branches, (∃ seen, b.query = .shared number (some seen)) ∨
    ∀ other, b.query.query? = some other → other.HasLegibleClauses ∧ other.CutsCleanly

/-- The query with another projection, order and paging, and with other branches. -/
def projecting (q : Query) (columns : Value) (aggregate : Option (Member Aggregate))
    (sortKeys : List (Member SortKey)) (limit offset : Value) (branches : List Branch) : Query :=
  { q with columns, aggregate, sortKeys, limit, offset, branches }

/-- The nodes of a query alone. -/
def onlyNodes (q : Query) : Query :=
  { Query.empty with labels := q.labels, patterns := q.patterns, standIns := q.standIns }

end Query

/-! ### Other projections -/

section projecting

variable {q : Query} {columns : Value} {aggregate : Option (Member Aggregate)}
  {sortKeys : List (Member SortKey)} {limit offset : Value} {branches : List Branch}

/-! Columns are resolved by the nodes of a query alone. -/

namespace Query

theorem sameNodes_onlyNodes : q.onlyNodes.SameNodes q := ⟨rfl, rfl, fun _ => rfl⟩

theorem sameNodes_projecting :
    (q.projecting columns aggregate sortKeys limit offset branches).SameNodes q :=
  ⟨rfl, rfl, fun _ => rfl⟩

end Query

namespace Cypher

open Query (sameNodes_projecting)

/-- The stage of a query does not depend on what follows it. -/
theorem matchStage_projecting :
    matchStage parameter (q.projecting columns aggregate sortKeys limit offset branches)
      (conditionsOf parameter (q.projecting columns aggregate sortKeys limit offset branches)) [] =
        matchStage parameter q (conditionsOf parameter q) [] := by
  have required (seen : Introduced) :
      requiredText (q.projecting columns aggregate sortKeys limit offset branches) seen =
        requiredText q seen := rfl
  have optional (seen : Introduced) :
      optionalText parameter (q.projecting columns aggregate sortKeys limit offset branches) seen =
        optionalText parameter q seen := rfl
  have condition (text : String) :
      whereText parameter (q.projecting columns aggregate sortKeys limit offset branches) text =
        whereText parameter q text := rfl
  have conditions : conditionsOf parameter
      (q.projecting columns aggregate sortKeys limit offset branches) = conditionsOf parameter q := rfl
  have walks : (q.projecting columns aggregate sortKeys limit offset branches).walk .wheres =
      q.walk .wheres := rfl
  unfold matchStage
  simp only [required, optional, condition, conditions, walks]

variable (same : isStaged q = true → aggregate = q.aggregate)

include same

theorem carriedNames_projecting :
    carriedNames (q.projecting columns aggregate sortKeys limit offset branches) = carriedNames q :=
  sameNodes_projecting.carriedNames rfl rfl rfl same

theorem returnItems_projecting :
    returnItems (q.projecting q.columns aggregate sortKeys limit offset branches) = returnItems q :=
  sameNodes_projecting.returnItems rfl (carriedNames_projecting same) rfl rfl

theorem orderText_projecting :
    orderText (q.projecting columns aggregate q.sortKeys limit offset branches) = orderText q :=
  sameNodes_projecting.orderText (carriedNames_projecting same) rfl rfl rfl

end Cypher

namespace Query

theorem KeptWithin.projecting {allowed : String → Prop} (h : q.KeptWithin allowed) :
    (q.projecting columns aggregate sortKeys limit offset branches).KeptWithin allowed where
  stage := by
    rw [matchStage_projecting]
    exact h.stage
  parts := h.parts
  groups := by
    rw [groupTexts_congr sameNodes_projecting.groupItem rfl rfl]
    exact h.groups
  havings := h.havings
  names := by
    rw [groupTexts_congr sameNodes_projecting.groupName rfl rfl]
    exact h.names

theorem KeptWithin.replacing {allowed : String → Prop} (h : q.KeptWithin allowed)
    (aggregate : Option (Member Aggregate)) (branches : List Branch) :
    Query.KeptWithin { q with aggregate, branches } allowed := h.projecting

theorem aggregate_of_staged (same : aggregate = q.aggregate ∨ isStaged q = false ∧ aggregate = none)
    (staged : isStaged q = true) : aggregate = q.aggregate :=
  same.resolve_right fun other => by cases staged.symm.trans other.1

/-- A query with other branches is legible, and one without an aggregate if nothing is grouped. -/
theorem HasLegibleClauses.projecting (h : q.HasLegibleClauses)
    (same : aggregate = q.aggregate ∨ isStaged q = false ∧ aggregate = none) :
    (q.projecting q.columns aggregate q.sortKeys limit offset branches).HasLegibleClauses where
  kept := h.kept.projecting
  nodes := h.nodes
  items := by
    rw [matchStage_projecting]
    intro stage seen items matched returned
    rw [returnItems_projecting (aggregate_of_staged same)] at returned
    exact h.items stage seen items matched returned
  order := by
    rw [orderText_projecting (aggregate_of_staged same)]
    exact h.order
  aggregate := fun a expression b own first second => by
    rw [sameNodes_projecting.aggregateExpression rfl] at first
    rcases same with rfl | ⟨-, rfl⟩
    · exact h.aggregate a expression b own first second
    · cases own

end Query

end projecting

namespace Cypher

variable {q : Query} {allowed : String → Prop} {text : String}

/-! ### The stage before the projection -/

theorem CarriesItems.mem {groups items : List String} {front : String}
    (h : CarriesItems parameter q groups front items) {t : String} (member : t ∈ groups) : t ∈ items := by
  cases h with
  | distinct => exact member
  | aggregated => exact List.mem_append_left _ member

theorem FiltersGroups.parts {stage : String} (h : FiltersGroups parameter q stage text)
    (first : Legible stage) (condition : q.hasHavings = true →
      ∀ condition, havingText parameter q = .ok condition → Legible condition)
    (within : NamesOnly allowed text) : NamesOnly allowed stage ∧ (q.hasHavings = true →
      ∀ condition, havingText parameter q = .ok condition → NamesOnly allowed condition) := by
  cases h with
  | all none => exact ⟨within, fun has => by rw [none] at has; cases has⟩
  | filtered has found =>
    obtain ⟨before, behind⟩ :=
      (namesOnly_behind_iff first (by decide) (condition has _ found)).mp within
    refine ⟨before, fun _ other found' => ?_⟩
    obtain rfl := Except.ok.inj (found.symm.trans found')
    exact behind

/-- The stage before the projection mentions what the clauses that are kept mention, and the aggregate. -/
theorem CarriesOn.namesOnly (h : CarriesOn parameter q text) (kept : q.KeptWithin allowed)
    (aggregate : ∀ a expression b, q.aggregate = some a →
      aggregateExpression parameter q a = .ok expression → a.need "alias" = .ok b →
        NamesOnly allowed (renamed expression b.label)) : NamesOnly allowed text := by
  have front : Silent "WITH " := by decide
  cases h with
  | explicit has written =>
    exact front.front (namesOnly_joined (by decide) (kept.parts has _ written))
  | nothing => exact namesOnly_empty
  | grouped unstaged staged written carries filters =>
    have items := carries.namesOnly (kept.groups unstaged staged _ written) aggregate
    exact filters.namesOnly (carries.front_silent.front (namesOnly_joined (by decide) items))
      (kept.havings unstaged)

/-- What the stage before the projection mentions bounds what the clauses in it mention. -/
theorem CarriesOn.parts (h : CarriesOn parameter q text) (legible : q.HasLegibleClauses)
    (within : NamesOnly allowed text) :
    (q.hasStages = true → ∀ parts, q.stages.mapM textOf = .ok parts → ∀ t ∈ parts, NamesOnly allowed t) ∧
      (q.hasStages = false → isStaged q = true → ∀ groups, groupTexts q groupItem = .ok groups →
        ∀ t ∈ groups, NamesOnly allowed t) ∧
      (q.hasStages = false → q.hasHavings = true → ∀ condition, havingText parameter q = .ok condition →
        NamesOnly allowed condition) := by
  have kept := legible.kept
  have front : Silent "WITH " := by decide
  cases h with
  | explicit has written =>
    have each : ∀ t ∈ _, Legible t := fun t ht => (kept.parts has _ written t ht).legible
    rw [namesOnly_front_iff front (legible_iff.mpr (namesOnly_joined (by decide) fun t ht =>
      legible_iff.mp (each t ht))), namesOnly_joined_iff (by decide) each] at within
    refine ⟨fun _ parts written' => ?_, fun none => ?_, fun none => ?_⟩
    · obtain rfl := Except.ok.inj (written.symm.trans written')
      exact within
    all_goals
      rw [has] at none
      cases none
  | nothing none unstaged =>
    refine ⟨fun has => ?_, fun _ staged => ?_, fun _ has => ?_⟩
    · rw [none] at has
      cases has
    · rw [unstaged] at staged
      cases staged
    · cases unstaged.symm.trans (staged_of_hasHavings has)
  | @grouped groups items front text none staged written carries filters =>
    have each : ∀ t ∈ items, Legible t := fun t ht => (carries.namesOnly
      (kept.groups none staged _ written)
      (fun a e b own first second => legible_iff.mp (legible.aggregate a e b own first second)) t ht).legible
    have joint := legible_iff.mpr (namesOnly_joined (by decide : IsSeam ", ") fun t ht =>
      legible_iff.mp (each t ht))
    have stage := legible_iff.mpr (carries.front_silent.front (legible_iff.mp joint))
    obtain ⟨before, condition⟩ := filters.parts stage
      (fun has c found => (kept.havings none has c found).legible) within
    rw [namesOnly_front_iff carries.front_silent joint, namesOnly_joined_iff (by decide) each] at before
    refine ⟨fun has => ?_, fun _ _ groups' written' t ht => ?_, fun _ => condition⟩
    · rw [none] at has
      cases has
    · obtain rfl := Except.ok.inj (written.symm.trans written')
      exact before t (carries.mem ht)

end Cypher

namespace Query

variable {q : Query} {allowed : String → Prop}

/-- The clauses of a quiet query mention its parameters. -/
theorem HasQuietParts.keptWithin (quiet : q.HasQuietParts) (wheres : areQuiet q.wheres)
    (bound : ∀ n ∈ q.parameters, allowed (spoken n)) : q.KeptWithin allowed where
  stage := fun _ _ matched => (matchStage_namesOnly bound quiet
    (fun _ written => predicatesText_namesOnly bound wheres written) matched).1
  parts := fun _ _ written => Result.forall_of_mapM written fun v member t e => by
    cases v <;> cases e
    exact (quiet.stages _ member).namesOnly
  groups := fun _ _ _ written =>
    groupTexts_namesOnly (fun v member _ e => groupItem_namesOnly quiet (quiet.groups v member) e) written
  havings := fun _ _ _ written => havingText_namesOnly bound quiet written
  names := fun _ _ written => groupTexts_namesOnly (fun _ _ _ e => groupName_namesOnly quiet e) written

theorem HasQuietParts.legibleClauses (quiet : q.HasQuietParts) (wheres : areQuiet q.wheres) :
    q.HasLegibleClauses where
  kept := quiet.keptWithin wheres fun _ _ => trivial
  nodes := quiet.patterns
  items := fun stage seen _ matched returned => by
    have stage : NamesOnly (fun _ => True) stage ∧ ∀ node, (lookup? node seen).isSome → Silent node :=
      matchStage_namesOnly (fun _ _ => trivial) quiet
        (fun _ written => predicatesText_namesOnly (fun _ _ => trivial) wheres written) matched
    exact returnItems_namesOnly quiet stage.2 returned
  order := fun _ written => legible_iff.mpr (orderText_namesOnly quiet written)
  aggregate := fun _ _ _ own first second =>
    legible_iff.mpr (renamed_aggregate_namesOnly (fun _ _ => trivial) quiet own first second)

end Query

end GraphQuery
