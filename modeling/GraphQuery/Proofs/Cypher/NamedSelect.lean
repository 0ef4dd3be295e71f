import GraphQuery.Proofs.Cypher.Columns
import GraphQuery.Proofs.Cypher.Quiet
import GraphQuery.Proofs.Cypher.Stages
import GraphQuery.Proofs.Cypher.Tokens
import GraphQuery.Proofs.Query.Parameters

/-! # Selects that are made of names

A query that only asks for nodes, relationships and properties by their names is written as a text in
which each of the names is one token, whatever it holds.  What stands between the names are the writer's
own words and signs, parameters, and placeholders, which are plain names.

* `Query.IsNamed` : such a query, whose columns are given as texts and whose nodes have plain names for
  placeholders;
* `Query.names` : the labels, types and properties that it asks for;
* `WritesPattern.spells`, `matchStage_spells`, `predicateText_spells`, `returnItems_spells` : the clauses;
* `statementText_spells` : the whole text. -/

namespace GraphQuery

open GraphQuery.Text GraphQuery.Cypher

/-! ### Names -/

/-- The labels and types of a far end. -/
def FarEnd.names : FarEnd → List String
  | .node pattern relationship => relationship :: pattern.labels
  | .anyNode _ relationship => relationship.toList
  | .foreign _ _ => []

/-- The labels, types and properties of a pattern. -/
def Pattern.names (p : Pattern) : List String := p.parent.labels ++ p.far.names ++ p.property.toList

mutual
/-- The properties that a predicate compares. -/
def Predicate.names : Predicate → List String
  | .compared _ c _ _ | .among _ c _ _ | .isNull _ c _ => [c.name]
  | .nested _ wheres => namesOfAll wheres
  | _ => []
/-- The properties that predicates compare. -/
def namesOfAll : List Predicate → List String
  | [] => []
  | p :: rest => p.names ++ namesOfAll rest
end

namespace Query

/-- The labels of the primary node. -/
def labelNames (q : Query) : List String :=
  ((presentLabels q.labels).toOption.getD []).filterMap (·.text?)

/-- The names of some columns. -/
def columnNames (q : Query) (columns : List Value) : List String :=
  columns.filterMap fun v => (q.resolve v).toOption.map (·.name)

/-- The labels, types and properties that a query asks for. -/
def names (q : Query) : List String :=
  q.labelNames ++ (q.patterns.filterMap (·.clause?)).flatMap Pattern.names ++ namesOfAll q.wheres ++
    q.columnNames ((chosenColumns q).toOption.getD [])

variable {q : Query} {n : String}

theorem mem_names_of_label (h : n ∈ q.labelNames) : n ∈ q.names := by
  simp [names, h]

theorem mem_names_of_pattern {p : Pattern} (member : .clause p ∈ q.patterns) (h : n ∈ p.names) :
    n ∈ q.names := by
  have inside : n ∈ (q.patterns.filterMap (·.clause?)).flatMap Pattern.names :=
    List.mem_flatMap.mpr ⟨p, List.mem_filterMap.mpr ⟨_, member, rfl⟩, h⟩
  simp [names, inside]

theorem mem_names_of_wheres (h : n ∈ namesOfAll q.wheres) : n ∈ q.names := by
  simp [names, h]

theorem mem_names_of_column {columns : List Value} (chosen : chosenColumns q = .ok columns) {v : Value}
    (member : v ∈ columns) {c : ColumnRef} (h : q.resolve v = .ok c) : c.name ∈ q.names := by
  have inside : c.name ∈ q.columnNames columns :=
    List.mem_filterMap.mpr ⟨v, member, by rw [h]; rfl⟩
  have all : (chosenColumns q).toOption.getD [] = columns := by rw [chosen]; rfl
  simp [names, all, inside]

end Query

/-! ### Queries -/

/-- A reference to a node whose placeholder is a plain name. -/
def ColumnRef.IsNamed (c : ColumnRef) : Prop := ∀ owner ∈ c.owner?, IsIdentifier owner

mutual
/-- A comparison of a column by one of the known operators, or several of them in parentheses. -/
def Predicate.IsNamed : Predicate → Prop
  | .compared _ c operator _ => c.IsNamed ∧ " " ++ operator ++ " " ∈ gaps
  | .among _ c _ _ | .isNull _ c _ => c.IsNamed
  | .nested _ wheres => areNamed wheres
  | _ => False
/-- The same of predicates. -/
def areNamed : List Predicate → Prop
  | [] => True
  | p :: rest => p.IsNamed ∧ areNamed rest
end

/-- A query that asks for patterns, comparisons and columns alone. -/
structure Query.IsPlainSelect (q : Query) : Prop where
  stages : q.stages = []
  groups : q.groups = []
  havings : q.havings = []
  sortKeys : q.sortKeys = []
  branches : q.branches = []
  limit : q.limit = .null
  offset : q.offset = .null
  isDistinct : q.isDistinct = .bool false
  aggregate : q.aggregate = none
  standIns : q.standIns = []

/-- A query that only asks for things by their names. -/
structure Query.IsNamed (q : Query) : Prop where
  plain : q.IsPlainSelect
  nodes : ∀ p, Member.clause p ∈ q.patterns → ∀ node, p.Binds node → IsIdentifier node
  wheres : areNamed q.wheres
  columns : ∀ columns, chosenColumns q = .ok columns → ∀ v ∈ columns, ∃ s, v = .text s

namespace Query

variable {q : Query}

theorem IsPlainSelect.isStaged (h : q.IsPlainSelect) : isStaged q = false := by
  simp [Cypher.isStaged, QueryOver.hasGroups, QueryOver.hasHavings, QueryOver.isPresent, QueryOver.standIn?,
    h.groups, h.havings, h.standIns]

theorem IsPlainSelect.hasStages (h : q.IsPlainSelect) : q.hasStages = false := by
  simp [QueryOver.hasStages, QueryOver.isPresent, QueryOver.standIn?, h.stages, h.standIns]

theorem IsPlainSelect.hasBranches (h : q.IsPlainSelect) : q.hasBranches = false := by
  simp [QueryOver.hasBranches, QueryOver.isPresent, QueryOver.standIn?, h.branches, h.standIns]

theorem IsPlainSelect.hasSortKeys (h : q.IsPlainSelect) : q.hasSortKeys = false := by
  simp [QueryOver.hasSortKeys, QueryOver.isPresent, QueryOver.standIn?, h.sortKeys, h.standIns]

theorem IsPlainSelect.withText (h : q.IsPlainSelect) : withText parameter q = .ok "" := by
  rw [Cypher.withText, h.hasStages, h.isStaged]
  rfl

theorem IsPlainSelect.ends (h : q.IsPlainSelect) :
    orderText q = .ok "" ∧ skipText q = .ok "" ∧ limitText q = .ok "" := by
  rw [orderText, h.hasSortKeys, skipText, h.offset, limitText, h.limit]
  exact ⟨rfl, rfl, rfl⟩

theorem IsNamed.isIdentifier_of_hasNode (named : q.IsNamed) {node : String} (h : q.HasNode node) :
    IsIdentifier node := by
  rcases h with target | ⟨p, member, ends⟩
  · exact placeholder?_isIdentifier target
  · exact named.nodes p member node ends

/-- A column that is given as a text belongs to a node with a plain name. -/
theorem IsNamed.resolveText (named : q.IsNamed) {text : String} {c : ColumnRef}
    (h : q.resolveText text = .ok c) : c.IsNamed := fun owner found =>
  (hasNode_resolveText h owner (Option.mem_filter_iff.mp found).1).elim named.isIdentifier_of_hasNode id

end Query

namespace Cypher

variable {q : Query} {names parameters : String → Prop}

theorem isIdentifier_edge {name : String} (plain : IsPlainText name) : IsIdentifier ("rel_" ++ name) :=
  (isIdentifier_of_all 'r' ['e', 'l', '_'] rfl (by decide) (by decide)).append plain

theorem relationshipVariable_isIdentifier (relationship : String) {placeholder : String}
    (plain : IsIdentifier placeholder) : IsIdentifier (relationshipVariable relationship placeholder) := by
  refine ((isIdentifier_edge fun c hc => ?_).append (b := "_") (by decide)).append plain.isPlainText
  rw [String.toList_ofList] at hc
  obtain ⟨d, -, rfl⟩ := List.mem_map.mp hc
  exact isNamePart_placeholderChar d

theorem spells_spaced {texts : List String} (h : ∀ t ∈ texts, Spells names parameters t) :
    Spells names parameters (spaced texts) :=
  spells_joined (by decide) fun t ht => h t (List.mem_of_mem_filter ht)

theorem spells_identity {node : String} (plain : IsIdentifier node) :
    Spells names parameters ("id(" ++ node ++ ")") :=
  ((spells_placeholder plain).front (by decide)).close (by decide)

section named

variable (whole : ∀ n, names n → IsWhole n) (known : ∀ n, parameters n → IsWhole n)

/-! ### Patterns -/

section whole

include whole

theorem spells_property {node property : String} (plain : IsIdentifier node) (given : names property) :
    Spells names parameters (node ++ "." ++ quote property) :=
  (spells_placeholder plain).behind (by decide) (spells_name given (whole _ given))

theorem Spells.labelled {text name : String} (h : Spells names parameters text) (given : names name) :
    Spells names parameters (text ++ ":" ++ quote name) :=
  h.behind (by decide) (spells_name given (whole _ given))

theorem Spells.labels {labels : List String} (given : ∀ l ∈ labels, names l) {text : String}
    (h : Spells names parameters text) : Spells names parameters (text ++ labelText labels) := by
  have all : ∀ (texts : List String) {text : String}, (∀ t ∈ texts, names t) →
      Spells names parameters text →
      Spells names parameters (text ++ String.join (texts.map fun l => ":" ++ quote l)) := by
    intro texts
    induction texts with
    | nil => exact fun _ h => by rwa [List.map_nil, String.join_nil, String.append_empty]
    | cons t ts ih =>
      intro text given h
      obtain ⟨first, others⟩ := List.forall_mem_cons.mp given
      rw [List.map_cons, String.join_cons, ← String.append_assoc, ← String.append_assoc]
      exact ih others (h.labelled whole first)
  exact all _ (fun t ht => given t (List.mem_of_mem_filter ht)) h

theorem WritesNode.spells {n : NodePattern} {seen later : Introduced} {text : String}
    (h : WritesNode n seen text later) (plain : IsIdentifier n.placeholder)
    (given : ∀ l ∈ n.labels, names l) : Spells names parameters text := by
  have node : Spells names parameters n.placeholder := spells_placeholder plain
  cases h with
  | again => exact node.parentheses
  | first =>
    have shape : "(" ++ n.placeholder ++ labelText n.labels ++ ")" =
        "(" ++ (n.placeholder ++ labelText n.labels) ++ ")" := by simp only [String.append_assoc]
    rw [shape]
    exact (node.labels whole given).parentheses

theorem Spells.typed {relationship : Option String} (given : ∀ r ∈ relationship, names r) {text : String}
    (h : Spells names parameters text) : Spells names parameters (text ++ typeText relationship) := by
  unfold typeText
  split
  · rwa [String.append_empty]
  · split
    · rwa [String.append_empty]
    · rw [← String.append_assoc]
      exact h.labelled whole (given _ rfl)

theorem WritesFar.spells {far : FarEnd} {seen later : Introduced} {relationship text : String}
    (h : WritesFar seen far relationship text later) (plain : IsIdentifier far.placeholder)
    (given : ∀ n ∈ far.names, names n) :
    Spells names parameters relationship ∧ Spells names parameters text := by
  cases h with
  | @node n relationship _ _ written =>
    obtain ⟨type, labels⟩ := List.forall_mem_cons.mp given
    have edge : Spells names parameters (relationshipVariable relationship n.placeholder) :=
      spells_placeholder (relationshipVariable_isIdentifier relationship plain)
    exact ⟨edge.labelled whole type, written.spells whole plain labels⟩
  | @anyNode placeholder =>
    have edge : Spells names parameters ("rel_" ++ placeholder) :=
      spells_placeholder (isIdentifier_edge plain.isPlainText)
    exact ⟨edge.typed whole fun r hr => given r (Option.mem_toList.mpr hr),
      (spells_placeholder plain).parentheses⟩

omit whole in
theorem relationText_spells {parent relationship far : String} (direction : Direction)
    (first : Spells names parameters parent) (between : Spells names parameters relationship)
    (last : Spells names parameters far) :
    Spells names parameters (relationText parent relationship far direction) := by
  cases direction <;>
    exact (first.behind (by decide) between).behind (by decide) last

theorem WritesPattern.spells {p : Pattern} {seen later : Introduced} {text : String}
    (h : WritesPattern p seen text later) (plain : ∀ node, p.Binds node → IsIdentifier node)
    (given : ∀ n ∈ p.names, names n) : Spells names parameters text := by
  have labels := fun l hl => given l (List.mem_append_left _ (List.mem_append_left _ hl))
  have ends := fun n hn => given n (List.mem_append_left _ (List.mem_append_right _ hn))
  obtain ⟨-, first, second⟩ := h
  have far : Spells names parameters _ ∧ Spells names parameters _ :=
    second.spells whole (plain _ (Or.inr rfl)) ends
  exact relationText_spells _ (first.spells whole (plain _ (Or.inl rfl)) labels) far.1 far.2

include known in
theorem constraintText_spells {p : Pattern} (plain : ∀ node, p.Binds node → IsIdentifier node)
    (given : ∀ n ∈ p.names, names n) (bound : ∀ n ∈ p.binding, parameters n) :
    Spells names parameters (constraintText parameter p) := by
  have parent := plain _ (Or.inl rfl)
  unfold constraintText
  split
  · next binding property found own =>
    split
    · exact spells_empty
    · have named : property ∈ p.names := List.mem_append_right _ (Option.mem_toList.mpr own)
      have value := bound binding (Option.mem_def.mpr found)
      refine Spells.behind ?_ (by decide) (spells_parameter value (known _ value))
      split
      · exact spells_identity parent
      · exact spells_property whole parent (given property named)
  · exact spells_empty

/-! ### The stage of a query -/

theorem Spells.labelsText (given : ∀ n ∈ q.labelNames, names n) {text labels : String}
    (h : Spells names parameters text) (written : labelsText q.labels = .ok labels) :
    Spells names parameters (text ++ labels) := by
  obtain ⟨present, found, written⟩ := Result.bind_eq_ok written
  obtain ⟨texts, read, written⟩ := Result.bind_eq_ok written
  obtain rfl := Except.ok.inj written
  refine h.labels whole (Result.forall_of_mapM read fun v member t e => given t ?_)
  have own : v.text? = some t := by
    cases v <;> cases e
    rfl
  rw [Query.labelNames, found]
  exact List.mem_filterMap.mpr ⟨v, member, own⟩

variable (named : q.IsNamed) (given : ∀ n ∈ q.names, names n) (bound : ∀ n ∈ q.parameters, parameters n)

include named given

theorem WritesMatches.spells {seen later : Introduced} {texts : List String}
    (h : WritesMatches q.patterns seen texts later) : ∀ t ∈ texts, Spells names parameters t := by
  refine h.forall_mem fun p member _ _ _ _ written => ?_
  have own : Spells names parameters _ := written.spells whole (named.nodes p member) fun n hn =>
    given n (Query.mem_names_of_pattern member hn)
  rw [String.append_empty]
  exact own.front (by decide)

theorem requiredText_spells {seen later : Introduced} {text : String}
    (h : requiredText q seen = .ok (text, later)) : Spells names parameters text := by
  cases requiredText_eq_ok_iff.mp h with
  | bare _ _ clauses => exact spells_joined (by decide) (WritesMatches.spells whole named given clauses)
  | @primary node labels _ _ target _ written clauses =>
    have inside : Spells names parameters (node ++ labels) :=
      Spells.labelsText whole (fun n hn => given n (Query.mem_names_of_label hn))
        (spells_placeholder (placeholder?_isIdentifier target)) written
    have shape : "MATCH (" ++ node ++ labels ++ ")" = "MATCH " ++ ("(" ++ (node ++ labels) ++ ")") := by
      simp [← String.toList_inj, String.toList_append]
    refine spells_joined (by decide)
      (List.forall_mem_cons.mpr ⟨?_, WritesMatches.spells whole named given clauses⟩)
    rw [shape]
    exact inside.parentheses.front (by decide)

include known bound

theorem constraintText_spells_of_mem {p : Pattern} (member : .clause p ∈ q.patterns) :
    Spells names parameters (constraintText parameter p) :=
  constraintText_spells whole known (named.nodes p member)
    (fun n hn => given n (Query.mem_names_of_pattern member hn))
    fun n own => bound n (Query.mem_parameters_of_pattern member own)

theorem optionalText_spells {seen later : Introduced} {text : String}
    (h : optionalText parameter q seen = .ok (text, later)) : Spells names parameters text := by
  obtain ⟨-, texts, clauses, rfl⟩ := optionalText_eq_ok_iff.mp h
  refine spells_joined (by decide) (clauses.forall_mem fun p member _ _ _ _ written => ?_)
  have own : Spells names parameters _ := written.spells whole (named.nodes p member) fun n hn =>
    given n (Query.mem_names_of_pattern member hn)
  have clause := own.front (by decide : "OPTIONAL MATCH " ∈ openers ++ gaps)
  unfold constraintClause
  split
  · rwa [String.append_empty]
  · rw [← String.append_assoc]
    exact clause.behind (by decide) (constraintText_spells_of_mem whole known named given bound member)

theorem requiredConstraints_spells : ∀ t ∈ requiredConstraints parameter q, Spells names parameters t := by
  intro t ht
  obtain ⟨⟨p, member, -, rfl⟩, -⟩ := mem_requiredConstraints.mp ht
  exact constraintText_spells_of_mem whole known named given bound member

theorem whereText_spells {predicates : String} (h : Spells names parameters predicates) :
    Spells names parameters (whereText parameter q predicates) := by
  obtain none | ⟨texts, shape, parts⟩ := whereText_eq parameter q predicates
  · rw [none]
    exact spells_empty
  · rw [shape]
    refine (spells_joined (by decide) fun t ht => ?_).front (by decide)
    rcases parts t ht with constraint | rfl | rfl
    · exact requiredConstraints_spells whole known named given bound t constraint
    · exact h
    · exact h.parentheses

/-- The stage of a query, and the nodes behind it. -/
theorem matchStage_spells {conditions : Conditions}
    (predicates : ∀ text, conditions.text = .ok text → Spells names parameters text)
    {seen : Introduced} {stage : String} (h : matchStage parameter q conditions [] = .ok (stage, seen)) :
    Spells names parameters stage ∧ ∀ node, (lookup? node seen).isSome → IsIdentifier node := by
  obtain ⟨required, _, optional, _, text, first, second, -, -, written, rfl⟩ := matchStage_eq_ok h
  have texts : Spells names parameters required ∧ Spells names parameters optional :=
    ⟨requiredText_spells whole named given first, optionalText_spells whole known named given bound second⟩
  have condition := predicates text written
  have conditions := fun {text : String} (h : Spells names parameters text) =>
    whereText_spells whole known named given bound h
  have nodes : ∀ node, (lookup? node seen).isSome → IsIdentifier node := fun node seen =>
    named.isIdentifier_of_hasNode
      ((hasNode_of_introduced first second seen).resolve_left (by simp [lookup?]))
  split
  · refine ⟨spells_spaced ?_, nodes⟩
    simp only [List.forall_mem_cons]
    exact ⟨texts.1, conditions spells_empty, texts.2, condition.front (by decide), by simp⟩
  · refine ⟨spells_spaced ?_, nodes⟩
    simp only [List.forall_mem_cons]
    exact ⟨texts.1, conditions condition, texts.2, by simp⟩

end whole

/-! ### Conditions -/

section predicates

include whole

theorem columnText_spells {c : ColumnRef} (plain : c.IsNamed) (given : names c.name) {text : String}
    (h : columnText c = .ok text) : Spells names parameters text := by
  cases columnText_eq_ok_iff.mp h with
  | identity _ found => exact spells_identity (plain _ found)
  | property _ found => exact spells_property whole (plain _ found) given
  | bare => exact spells_name given (whole _ given)

omit whole in
theorem negate_spells {negated : Bool} {text : String} (h : Spells names parameters text) :
    Spells names parameters (negate negated text) := by
  unfold negate
  split
  · exact h.front (by decide)
  · exact h

omit whole in
theorem joinConditions_spells : ∀ {entries : List (Connective × String)},
    (∀ e ∈ entries, Spells names parameters e.2) → Spells names parameters (joinConditions entries)
  | [], _ => spells_empty
  | (_, text) :: rest, h => by
    refine spells_joined (by decide) (List.forall_mem_cons.mpr ⟨h _ (List.mem_cons_self ..), ?_⟩)
    intro t ht
    obtain ⟨e, member, inside⟩ := List.mem_flatMap.mp ht
    have keyword : e.1.keyword ∈ keywords := by cases e.1 <;> decide
    rcases List.mem_cons.mp inside with rfl | inside
    · exact spells_keyword keyword
    · rw [List.mem_singleton.mp inside]
      exact h e (List.mem_cons_of_mem _ member)

end predicates

mutual
theorem predicateText_spells (whole : ∀ n, names n → IsWhole n) (known : ∀ n, parameters n → IsWhole n) :
    ∀ {p : Predicate} {text : String}, p.IsNamed → (∀ n ∈ p.names, names n) →
      (∀ n ∈ p.parameters, parameters n) → predicateText parameter p = .ok text →
      Spells names parameters text
  | .compared _ c operator binding, _, named, given, bound, h => by
    obtain ⟨column, found, h⟩ := Result.bind_eq_ok h
    obtain rfl := Except.ok.inj h
    have value := bound binding (List.mem_singleton_self _)
    have shape : column ++ " " ++ operator ++ " " ++ parameter binding =
        column ++ (" " ++ operator ++ " ") ++ parameter binding := by simp only [String.append_assoc]
    rw [shape]
    exact (columnText_spells whole named.1 (given _ (List.mem_singleton_self _)) found).behind named.2
      (spells_parameter value (known _ value))
  | .among _ c binding negated, _, named, given, bound, h => by
    obtain ⟨column, found, h⟩ := Result.bind_eq_ok h
    obtain rfl := Except.ok.inj h
    have value := bound binding (List.mem_singleton_self _)
    exact negate_spells ((columnText_spells whole named (given _ (List.mem_singleton_self _)) found).behind
      (by decide) (spells_parameter value (known _ value)))
  | .isNull _ c negated, _, named, given, _, h => by
    obtain ⟨column, found, h⟩ := Result.bind_eq_ok h
    obtain rfl := Except.ok.inj h
    have null : Spells names parameters "NULL" := spells_keyword (by decide)
    have tail : Spells names parameters ((if negated then "NOT " else "") ++ "NULL") := by
      cases negated
      · exact null
      · exact null.front (by decide)
    rw [String.append_assoc]
    exact (columnText_spells whole named (given _ (List.mem_singleton_self _)) found).behind
      (by decide) tail
  | .nested _ wheres, _, named, given, bound, h => by
    obtain ⟨entries, found, h⟩ := Result.bind_eq_ok h
    obtain rfl := Except.ok.inj h
    split
    · exact spells_empty
    · exact (joinConditions_spells (conditionTexts_spells whole known named given bound found)).parentheses
  | .between _ _ _ _, _, named, _, _, _ | .carried _ _ _ _, _, named, _, _, _
  | .comparedRow _ _ _ _, _, named, _, _, _ | .amongRows _ _ _ _, _, named, _, _, _
  | .present _ _ _, _, named, _, _, _ | .foreign _, _, named, _, _, _ => named.elim
termination_by structural p => p
theorem conditionTexts_spells (whole : ∀ n, names n → IsWhole n) (known : ∀ n, parameters n → IsWhole n) :
    ∀ {wheres : List Predicate} {entries : List (Connective × String)}, areNamed wheres →
      (∀ n ∈ namesOfAll wheres, names n) → (∀ n ∈ parametersOfAll wheres, parameters n) →
      conditionTexts parameter wheres = .ok entries → ∀ e ∈ entries, Spells names parameters e.2
  | [], _, _, _, _, h => by
    cases h
    simp
  | _ :: _, _, named, given, bound, h => by
    refine forall_conditionTexts_cons h (fun text written _ => ?_) fun others found => ?_
    · exact predicateText_spells whole known named.1 (fun n hn => given n (List.mem_append_left _ hn))
        (fun n hn => bound n (List.mem_append_left _ hn)) written
    · exact conditionTexts_spells whole known named.2 (fun n hn => given n (List.mem_append_right _ hn))
        (fun n hn => bound n (List.mem_append_right _ hn)) found
termination_by structural wheres => wheres
end

/-! ### The projection -/

include whole

section columns

variable (named : q.IsNamed)

include named

theorem expressionText_spells {s : String} (given : ∀ c, q.resolve (.text s) = .ok c → names c.name)
    {text : String} (h : expressionText q (.text s) = .ok text) : Spells names parameters text := by
  cases expresses_of_expressionText h with
  | star => exact spells_keyword (by decide)
  | node own _ known =>
    obtain rfl := Value.text.inj own
    exact spells_placeholder (named.isIdentifier_of_hasNode (hasNode_of_knows known))
  | @resolved c _ _ _ found written =>
    have name := given c found
    rw [Query.resolve] at found
    exact columnText_spells whole (named.resolveText found) name written

theorem itemText_spells {s : String} (given : ∀ c, q.resolve (.text s) = .ok c → names c.name)
    {text : String} (h : itemText q (.text s) = .ok text) : Spells names parameters text := by
  obtain ⟨expression, first, h⟩ := Result.bind_eq_ok h
  obtain rfl := Except.ok.inj h
  have written : Spells names parameters expression := expressionText_spells whole named given first
  split
  · exact written.behind (by decide) (spells_keyword (by decide))
  · exact written

variable (given : ∀ n ∈ q.names, names n)

include given

theorem returnItems_spells {seen : Introduced}
    (nodes : ∀ node, (lookup? node seen).isSome → IsIdentifier node) {items : List String}
    (h : returnItems q seen = .ok items) : ∀ t ∈ items, Spells names parameters t := by
  refine (returnsItems_of_returnItems h).forall_mem (fun staged => ?_) (fun _ => spells_keyword (by decide))
    (fun entry member => spells_placeholder (nodes entry.1 (isSome_lookup?_of_mem member)))
    fun columns chosen _ v hv t e => ?_
  · cases staged.symm.trans named.plain.isStaged
  · obtain ⟨s, rfl⟩ := named.columns columns chosen v hv
    exact itemText_spells whole named
      (fun c found => given c.name (Query.mem_names_of_column chosen hv found)) e

end columns

end named

/-! ### Whole texts -/

section whole

variable (named : q.IsNamed) (whole : ∀ n ∈ q.names, IsWhole n) (known : ∀ n ∈ q.parameters, IsWhole n)

include named whole known

theorem conditions_spell {text : String} (h : (conditionsOf parameter q).text = .ok text) :
    Spells (· ∈ q.names) (· ∈ q.parameters) text := by
  obtain ⟨entries, found, h⟩ := Result.bind_eq_ok h
  obtain rfl := Except.ok.inj h
  exact joinConditions_spells (conditionTexts_spells whole known named.wheres
    (fun n hn => Query.mem_names_of_wheres hn)
    (fun n hn => Query.mem_parameters.mpr (Or.inr (Or.inl hn))) found)

theorem singleSelect_spells {text : String} {columns : List String}
    (h : singleSelect parameter q (conditionsOf parameter q) none = .ok (text, columns)) :
    Spells (· ∈ q.names) (· ∈ q.parameters) text := by
  obtain ⟨stage, seen, texts, matched, after, rfl⟩ := singleSelect_eq_ok h
  obtain ⟨carried, projection, items, order, skip, limit, grouped, projects, ordered, skipped, limited,
    rfl, rfl⟩ := afterStage_eq_ok after
  obtain ⟨ordered', skipped', limited'⟩ := named.plain.ends
  obtain rfl := Except.ok.inj (grouped.symm.trans named.plain.withText)
  obtain rfl := Except.ok.inj (ordered.symm.trans ordered')
  obtain rfl := Except.ok.inj (skipped.symm.trans skipped')
  obtain rfl := Except.ok.inj (limited.symm.trans limited')
  obtain ⟨first, nodes⟩ := matchStage_spells whole known named (fun _ => id) (fun _ => id)
    (fun _ => conditions_spell named whole known) matched
  have shown : Spells (· ∈ q.names) (· ∈ q.parameters) projection := by
    cases projects with
    | aggregate _ own => cases named.plain.aggregate.symm.trans own
    | listed _ returned =>
      have all : ∀ t ∈ items, Spells (· ∈ q.names) (· ∈ q.parameters) t :=
        returnItems_spells whole named (fun _ => id) nodes returned
      have front : distinctText q = "" := by rw [distinctText, named.plain.isDistinct]; rfl
      rw [itemsText, front, String.append_empty]
      exact (spells_joined (by decide) all).front (by decide)
  refine spells_spaced ?_
  simp only [List.forall_mem_cons]
  exact ⟨first, spells_empty, shown, spells_empty, spells_empty, spells_empty, by simp⟩

/-- The text of a query that only asks for things by their names. -/
theorem statementText_spells {text : String} (h : statementText q = .ok text) :
    Spells (· ∈ q.names) (· ∈ q.parameters) text := by
  obtain ⟨-, -, h⟩ := Result.bind_eq_ok h
  rw [selectText, assembleSelect, named.plain.hasBranches, named.plain.branches] at h
  obtain ⟨⟨first, columns⟩, written, h⟩ := Result.bind_eq_ok h
  obtain ⟨-, -, h⟩ := Result.bind_eq_ok h
  obtain rfl := Except.ok.inj h
  exact singleSelect_spells named whole known written

end whole

end Cypher

end GraphQuery
