import GraphQuery.Proofs.Cypher.Quiet
import GraphQuery.Proofs.Cypher.Stages
import GraphQuery.Proofs.Query.Parameters

/-! # What the clauses of a quiet query mention

The clauses of a quiet query are read apart from each other, and mention its parameters alone.

* `WritesPattern.namesOnly`, `optionalText_namesOnly`, `whereText_namesOnly` : patterns, and the
  conditions on them;
* `matchStage_namesOnly` : the stage of a query;
* `aggregateText_namesOnly`, `withText_namesOnly` : aggregates, and the stage before the
  projection. -/

namespace GraphQuery.Cypher

open GraphQuery GraphQuery.Text

variable {q : Query} {allowed : String → Prop}

/-! ### Patterns -/

theorem labelText_silent (labels : List String) : Silent (labelText labels) := by
  have colon : Silent ":" := by decide
  have all : ∀ texts : List String, Silent (String.join (texts.map fun l => ":" ++ quote l)) := by
    intro texts
    induction texts with
    | nil => exact silent_empty
    | cons t ts ih =>
      rw [List.map_cons, String.join_cons]
      exact (colon.append (silent_quote t)).append ih
  exact all _

theorem labelsText_silent {v : Value} {text : String} (h : labelsText v = .ok text) : Silent text := by
  obtain ⟨labels, -, h⟩ := Result.bind_eq_ok h
  obtain ⟨texts, -, h⟩ := Result.bind_eq_ok h
  obtain rfl := Except.ok.inj h
  exact labelText_silent texts

theorem WritesNode.namesOnly {n : NodePattern} {seen later : Introduced} {text : String}
    (h : WritesNode n seen text later) (quiet : Silent n.placeholder) : NamesOnly allowed text := by
  cases h with
  | again => exact quiet.namesOnly.parentheses
  | first =>
    exact (quiet.append (labelText_silent n.labels)).namesOnly.brackets silent_empty '(' ')' (by decide)
      (by decide) (by simp [String.toList_append])

theorem relationshipVariable_silent (relationship : String) {placeholder : String}
    (quiet : Silent placeholder) : Silent (relationshipVariable relationship placeholder) := by
  have front : Silent "rel_" := by decide
  have line : Silent "_" := by decide
  refine ((front.append (IsPlainText.silent fun c hc => ?_)).append line).append quiet
  rw [String.toList_ofList] at hc
  obtain ⟨d, -, rfl⟩ := List.mem_map.mp hc
  exact isNamePart_placeholderChar d

theorem typeText_silent (relationship : Option String) : Silent (typeText relationship) := by
  have colon : Silent ":" := by decide
  unfold typeText
  split
  · exact silent_empty
  · split
    · exact silent_empty
    · exact colon.append (silent_quote _)

theorem WritesFar.namesOnly {far : FarEnd} {seen later : Introduced} {relationship text : String}
    (h : WritesFar seen far relationship text later) (quiet : Silent far.placeholder) :
    NamesOnly allowed relationship ∧ NamesOnly allowed text := by
  cases h with
  | @node _ relationship _ _ written =>
    have colon : Silent ":" := by decide
    exact ⟨(((relationshipVariable_silent relationship quiet).append colon).append
      (silent_quote _)).namesOnly, written.namesOnly quiet⟩
  | anyNode =>
    have front : Silent "rel_" := by decide
    exact ⟨((front.append quiet).append (typeText_silent _)).namesOnly,
      Silent.namesOnly quiet |>.parentheses⟩

/-- A relationship stands between two nodes, with seams around its brackets. -/
theorem relationText_eq (parent relationship far : String) (direction : Direction) :
    ∃ before after, IsSeam before ∧ IsSeam after ∧ relationText parent relationship far direction =
      parent ++ before ++ ("[" ++ relationship ++ "]") ++ after ++ far := by
  have shape (before after : String) :
      parent ++ (before ++ "[") ++ relationship ++ ("]" ++ after) ++ far =
        parent ++ before ++ ("[" ++ relationship ++ "]") ++ after ++ far := by
    simp [← String.toList_inj, String.toList_append]
  cases direction with
  | outgoing => exact ⟨"-", "->", by decide, by decide, shape "-" "->"⟩
  | incoming => exact ⟨"<-", "-", by decide, by decide, shape "<-" "-"⟩
  | either => exact ⟨"-", "-", by decide, by decide, shape "-" "-"⟩

theorem relationText_namesOnly {parent relationship far : String} (direction : Direction)
    (hparent : NamesOnly allowed parent) (hrelationship : NamesOnly allowed relationship)
    (hfar : NamesOnly allowed far) :
    NamesOnly allowed (relationText parent relationship far direction) := by
  have inside : NamesOnly allowed ("[" ++ relationship ++ "]") :=
    hrelationship.brackets silent_empty '[' ']' (by decide) (by decide)
      (by simp [String.toList_append])
  obtain ⟨before, after, hbefore, hafter, shape⟩ :=
    relationText_eq parent relationship far direction
  rw [shape]
  exact (hparent.behind hbefore inside).behind hafter hfar

theorem WritesPattern.namesOnly {p : Pattern} {seen later : Introduced} {text : String}
    (h : WritesPattern p seen text later) (quiet : ∀ node, p.Binds node → Silent node) :
    NamesOnly allowed text := by
  obtain ⟨-, first, second⟩ := h
  have ends : NamesOnly allowed _ ∧ NamesOnly allowed _ := second.namesOnly (quiet _ (Or.inr rfl))
  exact relationText_namesOnly _ (first.namesOnly (quiet _ (Or.inl rfl))) ends.1 ends.2

theorem constraintText_namesOnly {p : Pattern} (quiet : ∀ node, p.Binds node → Silent node)
    (bound : ∀ n ∈ p.binding, allowed (spoken n)) : NamesOnly allowed (constraintText parameter p) := by
  have parent := quiet _ (Or.inl rfl)
  unfold constraintText
  split
  · next binding property found _ =>
    split
    · exact namesOnly_empty
    · refine NamesOnly.behind ?_ (by decide)
        (namesOnly_parameter (bound binding (Option.mem_def.mpr found)))
      split
      · exact parent.namesOnly.identity
      · exact parent.namesOnly.behind (by decide) (silent_quote _).namesOnly
  · exact namesOnly_empty

/-! ### The stage before the projection -/

theorem CarriesItems.front_silent {groups items : List String} {front : String}
    (h : CarriesItems parameter q groups front items) : Silent front := by
  cases h <;> decide

theorem CarriesItems.namesOnly {groups items : List String} {front : String}
    (h : CarriesItems parameter q groups front items) (own : ∀ t ∈ groups, NamesOnly allowed t)
    (aggregate : ∀ a expression b, q.aggregate = some a →
      aggregateExpression parameter q a = .ok expression → a.need "alias" = .ok b →
        NamesOnly allowed (renamed expression b.label)) : ∀ t ∈ items, NamesOnly allowed t := by
  cases h with
  | distinct => exact own
  | aggregated found first second =>
    intro t ht
    rcases List.mem_append.mp ht with ht | ht
    · exact own t ht
    · rw [List.mem_singleton.mp ht]
      exact aggregate _ _ _ found first second

theorem FiltersGroups.namesOnly {stage text : String} (h : FiltersGroups parameter q stage text)
    (first : NamesOnly allowed stage) (condition : q.hasHavings = true →
      ∀ condition, havingText parameter q = .ok condition → NamesOnly allowed condition) :
    NamesOnly allowed text := by
  cases h with
  | all => exact first
  | filtered has found => exact first.behind (by decide) (condition has _ found)

/-! ### The stage of a query -/

theorem namesOnly_spaced {texts : List String} (h : ∀ t ∈ texts, NamesOnly allowed t) :
    NamesOnly allowed (spaced texts) :=
  namesOnly_joined isSeam_blank fun t ht => h t (List.mem_of_mem_filter ht)

theorem WritesMatches.namesOnly (quiet : q.HasQuietParts) {seen later : Introduced} {texts : List String}
    (h : WritesMatches q.patterns seen texts later) : ∀ t ∈ texts, NamesOnly allowed t := by
  have front : Silent "MATCH " := by decide
  refine h.forall_mem fun p member _ _ _ _ written => ?_
  rw [String.append_empty]
  exact front.front (written.namesOnly (quiet.patterns p member))

theorem requiredText_namesOnly (quiet : q.HasQuietParts) {seen later : Introduced} {text : String}
    (h : requiredText q seen = .ok (text, later)) : NamesOnly allowed text := by
  cases requiredText_eq_ok_iff.mp h with
  | bare _ _ clauses => exact namesOnly_joined isSeam_blank (WritesMatches.namesOnly quiet clauses)
  | @primary node labels _ _ target _ written clauses =>
    have inside : Silent (node ++ labels) :=
      (placeholder?_isPlainText target).2.silent.append (labelsText_silent written)
    have front : Silent "MATCH " := by decide
    refine namesOnly_joined isSeam_blank (List.forall_mem_cons.mpr ⟨?_, WritesMatches.namesOnly quiet clauses⟩)
    exact inside.namesOnly.brackets front '(' ')' (by decide) (by decide)
      (by simp [String.toList_append])

variable (bound : ∀ n ∈ q.parameters, allowed (spoken n))

include bound

theorem constraintText_namesOnly_of_mem (quiet : q.HasQuietParts) {p : Pattern}
    (member : .clause p ∈ q.patterns) : NamesOnly allowed (constraintText parameter p) :=
  constraintText_namesOnly (quiet.patterns p member) fun n own =>
    bound n (Query.mem_parameters_of_pattern member own)

theorem optionalText_namesOnly (quiet : q.HasQuietParts) {seen later : Introduced} {text : String}
    (h : optionalText parameter q seen = .ok (text, later)) : NamesOnly allowed text := by
  have front : Silent "OPTIONAL MATCH " := by decide
  obtain ⟨-, texts, clauses, rfl⟩ := optionalText_eq_ok_iff.mp h
  refine namesOnly_joined isSeam_blank (clauses.forall_mem fun p member _ _ _ _ written => ?_)
  have pattern : NamesOnly allowed _ := written.namesOnly (quiet.patterns p member)
  have clause := front.front pattern
  unfold constraintClause
  split
  · rwa [String.append_empty]
  · rw [← String.append_assoc]
    exact clause.behind (by decide) (constraintText_namesOnly_of_mem bound quiet member)

theorem requiredConstraints_namesOnly (quiet : q.HasQuietParts) :
    ∀ t ∈ requiredConstraints parameter q, NamesOnly allowed t := by
  intro t ht
  obtain ⟨⟨p, member, -, rfl⟩, -⟩ := mem_requiredConstraints.mp ht
  exact constraintText_namesOnly_of_mem bound quiet member

theorem whereText_namesOnly (quiet : q.HasQuietParts) {predicates : String}
    (h : NamesOnly allowed predicates) : NamesOnly allowed (whereText parameter q predicates) := by
  have front : Silent "WHERE " := by decide
  obtain none | ⟨texts, shape, parts⟩ := whereText_eq parameter q predicates
  · rw [none]
    exact namesOnly_empty
  · rw [shape]
    refine front.front (namesOnly_joined (by decide) fun t ht => ?_)
    rcases parts t ht with constraint | rfl | rfl
    · exact requiredConstraints_namesOnly bound quiet t constraint
    · exact h
    · exact h.parentheses

/-- The stage of a query mentions its parameters, and the nodes behind it are silent. -/
theorem matchStage_namesOnly (quiet : q.HasQuietParts) {conditions : Conditions}
    (predicates : ∀ text, conditions.text = .ok text → NamesOnly allowed text)
    {seen : Introduced} {stage : String}
    (h : matchStage parameter q conditions [] = .ok (stage, seen)) :
    NamesOnly allowed stage ∧ ∀ node, (lookup? node seen).isSome → Silent node := by
  obtain ⟨required, _, optional, _, text, first, second, -, -, written, rfl⟩ := matchStage_eq_ok h
  have front : Silent "WITH * WHERE " := by decide
  have texts : NamesOnly allowed required ∧ NamesOnly allowed optional :=
    ⟨requiredText_namesOnly quiet first, optionalText_namesOnly bound quiet second⟩
  have condition := predicates text written
  have nodes : ∀ node, (lookup? node seen).isSome → Silent node := fun node known =>
    silent_of_hasNode quiet ((hasNode_of_introduced first second known).resolve_left (by simp [lookup?]))
  split
  · refine ⟨namesOnly_spaced ?_, nodes⟩
    simp only [List.forall_mem_cons]
    exact ⟨texts.1, whereText_namesOnly bound quiet namesOnly_empty, texts.2, front.front condition,
      by simp⟩
  · refine ⟨namesOnly_spaced ?_, nodes⟩
    simp only [List.forall_mem_cons]
    exact ⟨texts.1, whereText_namesOnly bound quiet condition, texts.2, by simp⟩

/-! ### Aggregates and grouping -/

theorem aggregateExpression_namesOnly (quiet : q.HasQuietParts) {a : Aggregate}
    (own : q.aggregate = some (.clause a)) {text : String}
    (h : aggregateExpression parameter q (.clause a) = .ok text) : NamesOnly allowed text := by
  have functions : ∀ f ∈ aggregateFunctions, Silent f.2 := by decide
  obtain ⟨-, columns⟩ := quiet.aggregate a own
  unfold aggregateExpression at h
  obtain ⟨_, needed, h⟩ := Result.bind_eq_ok h
  obtain rfl := Except.ok.inj needed
  dsimp only at h
  split at h
  · cases h
  · next function found =>
    obtain ⟨texts, written, h⟩ := Result.bind_eq_ok h
    obtain rfl := Except.ok.inj h
    have all : NamesOnly allowed (joined ", " texts) :=
      namesOnly_joined (by decide) (Result.forall_of_mapM written fun v hv t e =>
        aggregateColumn_namesOnly quiet (columns v hv) e)
    have front : NamesOnly allowed ((if countsDistinct q a then "DISTINCT " else "") ++
        joined ", " texts) := by
      split
      · exact (show Silent "DISTINCT " by decide).front all
      · exact silent_empty.front all
    have function := functions _ (mem_of_lookup? found)
    cases percentile : a.percentile.filter (· ≠ "") with
    | none =>
      exact front.brackets function '(' ')' (by decide) (by decide)
        (by simp [String.toList_append])
    | some binding =>
      have given := (Option.filter_eq_some_iff.mp percentile).1
      have named : binding ∈ aggregateParameters q.aggregate := by
        simp [aggregateParameters, own, Member.clause?, given]
      have mentioned : NamesOnly allowed (parameter binding) := namesOnly_parameter
        (bound binding (Query.mem_parameters.mpr (Or.inr (Or.inr (Or.inr (Or.inr named))))))
      exact (front.behind (by decide : IsSeam ", ") mentioned).brackets function '(' ')'
        (by decide) (by decide) (by simp [String.toList_append])

theorem renamed_aggregate_namesOnly (quiet : q.HasQuietParts) {a : Member Aggregate}
    (own : q.aggregate = some a) {expression : String}
    (first : aggregateExpression parameter q a = .ok expression) {b : Aggregate} {field : String}
    (second : a.need field = .ok b) : NamesOnly allowed (renamed expression b.label) := by
  obtain rfl := Member.eq_clause_of_need second
  exact (aggregateExpression_namesOnly bound quiet own first).behind isSeam_as
    (quiet.aggregate b own).1.namesOnly

theorem aggregateText_namesOnly (quiet : q.HasQuietParts) {a : Member Aggregate}
    (own : q.aggregate = some a) {text : String}
    (h : aggregateText parameter q a = .ok text) : NamesOnly allowed text := by
  have front : Silent "RETURN " := by decide
  obtain ⟨expression, first, h⟩ := Result.bind_eq_ok h
  obtain ⟨b, second, h⟩ := Result.bind_eq_ok h
  obtain rfl := Except.ok.inj h
  exact front.front (renamed_aggregate_namesOnly bound quiet own first second)

theorem havingText_namesOnly (quiet : q.HasQuietParts) {text : String}
    (h : havingText parameter q = .ok text) : NamesOnly allowed text := by
  obtain ⟨havings, clauses, rfl⟩ := havingText_eq_ok h
  have all : ∀ c ∈ havings, Member.clause c ∈ q.havings := fun c member =>
    clauses ▸ List.mem_map_of_mem member
  refine joinConditions_namesOnly fun e he => ?_
  obtain ⟨c, member, rfl⟩ := List.mem_map.mp he
  refine (quiet.havings c (all c member)).front (namesOnly_parameter (bound c.binding ?_))
  refine Query.mem_parameters.mpr (Or.inr (Or.inr (Or.inl ?_)))
  exact List.mem_filterMap.mpr ⟨_, all c member, rfl⟩

theorem withText_namesOnly (quiet : q.HasQuietParts) {text : String}
    (h : withText parameter q = .ok text) : NamesOnly allowed text := by
  have front : Silent "WITH " := by decide
  have comma : IsSeam ", " := by decide
  cases carriesOn_of_withText h with
  | explicit _ written =>
    refine front.front (namesOnly_joined comma (Result.forall_of_mapM written fun v hv t e => ?_))
    cases v <;> cases e
    exact (quiet.stages _ hv).namesOnly
  | nothing => exact namesOnly_empty
  | grouped _ _ written carries filters =>
    have groups : ∀ t ∈ _, NamesOnly allowed t := groupTexts_namesOnly
      (fun v hv t e => groupItem_namesOnly quiet (quiet.groups v hv) e) written
    have items := carries.namesOnly groups fun a expression b own first second =>
      renamed_aggregate_namesOnly bound quiet own first second
    exact filters.namesOnly (carries.front_silent.front (namesOnly_joined comma items))
      fun _ condition found => havingText_namesOnly bound quiet found

end GraphQuery.Cypher
