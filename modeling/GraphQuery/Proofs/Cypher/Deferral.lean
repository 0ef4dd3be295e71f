import GraphQuery.Proofs.Execution.Identity

/-! # Conditions behind optional patterns

A condition that reads a node of an optional pattern has to come after that pattern.

* `Predicate.Reads` says of a condition that it reads a node, at any depth: in its column or its raw
  text, in a group, or in a sub-query.
* `Arranged` is the layout of the stage of a query: all conditions ahead of the optional patterns, or
  all of them behind in a stage of their own.

The layout goes by what patterns and conditions read, those of sub-queries included
(`matchStage_arranged`). What else a sub-query reads does not count: `early_exists` has a condition
ahead of the pattern that introduces the node it reads. -/

namespace GraphQuery

open GraphQuery.Text GraphQuery.Cypher

/-! ### What conditions read -/

/-- The sub-query of a condition. -/
def Predicate.query? : Predicate → Option SubQuery
  | .comparedRow _ _ _ s | .amongRows _ _ s _ | .present _ s _ => some s
  | _ => none

namespace Query

/-- The columns in the text of a query that stand neither in its patterns nor in its conditions. -/
def laterColumns (q : Query) : List Value :=
  q.columns.members?.getD [] ++ q.groups ++ (q.sortKeys.filterMap (·.clause?)).map (·.column) ++
    (q.aggregate.bind (·.clause?)).elim [] (·.columns)

/-- The raw texts behind the conditions of a query: stages, and the columns and operators of
conditions on groups. -/
def laterTexts (q : Query) : List String :=
  q.stages.filterMap (·.text?) ++
    (q.havings.filterMap (·.clause?)).map fun h => h.column ++ " " ++ h.operator

/-- Whether a column of a query is a node, or belongs to one. -/
def ColumnReads (q : Query) (column : Value) (node : String) : Prop :=
  column = .text node ∧ q.knows node = .ok true ∨
    ∃ c, q.resolve column = .ok c ∧ c.owner? = some node

end Query

mutual
/-- Whether a condition reads a node: anywhere if `whole`, and else in the columns and texts that
conditions are made of and in the patterns of sub-queries. -/
inductive Predicate.Reads (whole : Bool) (node : String) : Predicate → Prop
  | column {p : Predicate} {c : ColumnRef} : p.column? = some c → c.owner? = some node →
      Predicate.Reads whole node p
  | text {j : Connective} {column operator value : String} :
      node ∈ identifierTokens (column ++ " " ++ value) →
      Predicate.Reads whole node (.carried j column operator value)
  | operator {j : Connective} {column operator value : String} : whole →
      node ∈ identifierTokens operator →
      Predicate.Reads whole node (.carried j column operator value)
  | member {j : Connective} {wheres : List Predicate} {p : Predicate} : p ∈ wheres →
      Predicate.Reads whole node p → Predicate.Reads whole node (.nested j wheres)
  | query {p : Predicate} {s : SubQuery} : p.query? = some s → SubQuery.Reads whole node s →
      Predicate.Reads whole node p
/-- The same of a sub-query. -/
inductive SubQuery.Reads (whole : Bool) (node : String) : SubQuery → Prop
  | pattern {s : SubQuery} {q : Query} {known : List String} : s.query? = some q →
      q.knownPlaceholders = .ok known → node ∈ known → SubQuery.Reads whole node s
  | condition {s : SubQuery} {q : Query} {p : Predicate} : s.query? = some q → p ∈ q.wheres →
      Predicate.Reads whole node p → SubQuery.Reads whole node s
  | column {s : SubQuery} {q : Query} {column : Value} : whole → s.query? = some q →
      column ∈ q.laterColumns → q.ColumnReads column node → SubQuery.Reads whole node s
  | text {s : SubQuery} {q : Query} {text : String} : whole → s.query? = some q →
      text ∈ q.laterTexts → node ∈ identifierTokens text → SubQuery.Reads whole node s
  | branch {s : SubQuery} {q : Query} {b : Branch} : whole → s.query? = some q →
      b ∈ q.branches → SubQuery.Reads whole node b.query → SubQuery.Reads whole node s
end

/-- Whether a query reads a node behind its conditions, or in a branch. -/
def Query.ReadsLater (q : Query) (node : String) : Prop :=
  (∃ column ∈ q.laterColumns, q.ColumnReads column node) ∨
    (∃ text ∈ q.laterTexts, node ∈ identifierTokens text) ∨
    ∃ b ∈ q.branches, b.query.Reads true node

section reads

variable {whole : Bool} {node : String}

theorem ColumnRef.mem_owner?_toList {c : ColumnRef} :
    node ∈ c.owner?.toList ↔ c.owner? = some node := by
  simp [Option.mem_toList]

theorem Predicate.reads_column {p : Predicate} {c : ColumnRef} (column : p.column? = some c)
    (query : p.query? = none) : p.Reads whole node ↔ c.owner? = some node := by
  constructor
  · intro h
    cases h with
    | column found owner => rwa [Option.some.inj (column.symm.trans found)]
    | text _ | operator _ _ | member _ _ => cases column
    | query found _ => cases query.symm.trans found
  · exact .column column

/-- A condition on a sub-query reads the node of its column, and what the sub-query reads. -/
theorem Predicate.reads_query {p : Predicate} {s : SubQuery} (query : p.query? = some s) :
    p.Reads whole node ↔ (∃ c, p.column? = some c ∧ c.owner? = some node) ∨ s.Reads whole node := by
  constructor
  · intro h
    cases h with
    | column found owner => exact Or.inl ⟨_, found, owner⟩
    | text _ | operator _ _ | member _ _ => cases query
    | query found reads => exact Or.inr (Option.some.inj (query.symm.trans found) ▸ reads)
  · rintro (⟨c, column, owner⟩ | reads)
    · exact .column column owner
    · exact .query query reads

theorem Predicate.reads_carried {j : Connective} {column operator value : String} :
    (Predicate.carried j column operator value).Reads false node ↔
      node ∈ identifierTokens (column ++ " " ++ value) := by
  constructor
  · intro h
    cases h with
    | column found _ | query found _ => cases found
    | text member => exact member
    | operator outside _ => cases outside
  · exact .text

theorem Predicate.reads_nested {j : Connective} {wheres : List Predicate} :
    (Predicate.nested j wheres).Reads whole node ↔ ∃ p ∈ wheres, p.Reads whole node := by
  constructor
  · intro h
    cases h with
    | column found _ | query found _ => cases found
    | member member reads => exact ⟨_, member, reads⟩
  · rintro ⟨p, member, reads⟩
    exact .member member reads

/-- What a sub-query reads: the nodes of its patterns, what its conditions read, and the rest. -/
theorem SubQuery.reads_iff {s : SubQuery} {q : Query} {known : List String}
    (query : s.query? = some q) (h : q.knownPlaceholders = .ok known) :
    s.Reads whole node ↔
      node ∈ known ∨ (∃ p ∈ q.wheres, p.Reads whole node) ∨ whole ∧ q.ReadsLater node := by
  constructor
  · intro reads
    cases reads with
    | pattern found known' member =>
      obtain rfl := Option.some.inj (query.symm.trans found)
      exact Or.inl (Except.ok.inj (h.symm.trans known') ▸ member)
    | condition found member reads =>
      obtain rfl := Option.some.inj (query.symm.trans found)
      exact Or.inr (Or.inl ⟨_, member, reads⟩)
    | column outside found member reads =>
      obtain rfl := Option.some.inj (query.symm.trans found)
      exact Or.inr (Or.inr ⟨outside, Or.inl ⟨_, member, reads⟩⟩)
    | text outside found member reads =>
      obtain rfl := Option.some.inj (query.symm.trans found)
      exact Or.inr (Or.inr ⟨outside, Or.inr (Or.inl ⟨_, member, reads⟩)⟩)
    | branch outside found member reads =>
      obtain rfl := Option.some.inj (query.symm.trans found)
      obtain rfl := outside
      exact Or.inr (Or.inr ⟨rfl, Or.inr (Or.inr ⟨_, member, reads⟩)⟩)
  · rintro (member | ⟨p, member, reads⟩ |
      ⟨rfl, ⟨v, member, reads⟩ | ⟨t, member, reads⟩ | ⟨b, member, reads⟩⟩)
    · exact .pattern query h member
    · exact .condition query member reads
    · exact .column rfl query member reads
    · exact .text rfl query member reads
    · exact .branch rfl query member reads

end reads

mutual
theorem Predicate.Reads.whole {node : String} : ∀ {p : Predicate}, p.Reads false node →
    p.Reads true node
  | _, .column found owner => .column found owner
  | _, .text member => .text member
  | _, .member member reads => .member member reads.whole
  | _, .query found reads => .query found reads.whole
theorem SubQuery.Reads.whole {node : String} : ∀ {s : SubQuery}, s.Reads false node →
    s.Reads true node
  | _, .pattern found known member => .pattern found known member
  | _, .condition found member reads => .condition found member reads.whole
end

/-! ### What is collected -/

namespace Cypher

variable {node : String}

mutual
theorem mem_predicateReads : ∀ {p : Predicate} {reads : List String},
    predicateReads p = .ok reads → (node ∈ reads ↔ p.Reads false node)
  | .compared _ _ _ _, _, h | .among _ _ _ _, _, h | .between _ _ _ _, _, h
  | .isNull _ _ _, _, h => by
    cases h
    rw [Predicate.reads_column rfl rfl, ColumnRef.mem_owner?_toList]
  | .carried _ _ _ _, _, h => by
    cases h
    rw [Predicate.reads_carried]
  | .nested _ wheres, _, h => by rw [Predicate.reads_nested, mem_predicatesRead h]
  | .comparedRow _ _ _ s, _, h | .amongRows _ _ s _, _, h => by
    obtain ⟨inner, found, h⟩ := Result.bind_eq_ok h
    cases h
    rw [Predicate.reads_query rfl, List.mem_append, mem_subQueryReads found,
      ColumnRef.mem_owner?_toList]
    simp [Predicate.column?]
  | .present _ s _, _, h => by
    rw [Predicate.reads_query rfl, mem_subQueryReads h]
    simp [Predicate.column?]
  | .foreign v, _, h => by
    unfold predicateReads at h
    split at h
    · cases h
    · cases h
      refine iff_of_false (List.not_mem_nil) fun reads => ?_
      cases reads with
      | column found _ | query found _ => cases found
termination_by structural p => p
theorem mem_predicatesRead : ∀ {wheres : List Predicate} {reads : List String},
    predicatesRead wheres = .ok reads → (node ∈ reads ↔ ∃ p ∈ wheres, p.Reads false node)
  | [], _, h => by
    cases h
    simp
  | p :: rest, _, h => by
    obtain ⟨first, hp, h⟩ := Result.bind_eq_ok h
    obtain ⟨others, hrest, h⟩ := Result.bind_eq_ok h
    cases h
    rw [List.mem_append, mem_predicateReads hp, mem_predicatesRead hrest]
    simp
termination_by structural wheres => wheres
theorem mem_subQueryReads : ∀ {s : SubQuery} {reads : List String},
    subQueryReads s = .ok reads → (node ∈ reads ↔ s.Reads false node)
  | .own q, _, h | .shared _ (some q), _, h => by
    obtain ⟨known, hknown, h⟩ := Result.bind_eq_ok h
    obtain ⟨-, -, h⟩ := Result.bind_eq_ok h
    obtain ⟨inner, found, h⟩ := Result.bind_eq_ok h
    cases h
    rw [SubQuery.reads_iff rfl hknown, List.mem_append, mem_predicatesRead found]
    simp
  | .shared _ none, _, h | .foreign _, _, h => by cases h
termination_by structural s => s
end

theorem bindsLate_iff {write : String → String} {q : Query} {introduced before seen : Introduced}
    {required optional : String} (hrequired : requiredText q introduced = .ok (required, before))
    (hoptional : optionalText write q before = .ok (optional, seen)) :
    q.BindsLate introduced node ↔ (lookup? node seen).isSome ∧ (lookup? node before).isNone := by
  have first : (lookup? node before).isSome ↔ q.BindsFirst introduced node :=
    requiredText_introduces hrequired
  rw [optionalText_introduces hoptional, ← Option.not_isSome, Bool.not_eq_true', ← Bool.not_eq_true,
    first, Query.BindsLate]
  tauto

/-- Conditions are put off exactly if they read, within sight, a node that only an optional pattern
introduces. -/
theorem isDeferred_iff {write : String → String} {q : Query}
    {introduced before seen : Introduced} {required optional : String} {reads : List String}
    (hrequired : requiredText q introduced = .ok (required, before))
    (hoptional : optionalText write q before = .ok (optional, seen))
    (hreads : predicatesRead q.wheres = .ok reads) :
    isDeferred reads before seen ↔
      ∃ p ∈ q.wheres, ∃ node, p.Reads false node ∧ q.BindsLate introduced node := by
  simp only [isDeferred, List.any_eq_true, Bool.and_eq_true, mem_predicatesRead hreads,
    bindsLate_iff hrequired hoptional]
  constructor
  · rintro ⟨node, ⟨p, member, reads⟩, late⟩
    exact ⟨p, member, node, reads, late⟩
  · rintro ⟨p, member, node, reads, late⟩
    exact ⟨node, ⟨p, member, reads⟩, late⟩

/-! ### The layout of a stage -/

mutual
theorem predicateText_ne_empty {write : String → String} {whole : Bool} :
    ∀ {p : Predicate} {text : String}, p.Reads whole node → predicateText write p = .ok text →
      text ≠ ""
  | .nested _ wheres, _, reads, h => by
    obtain ⟨entries, found, h⟩ := Result.bind_eq_ok h
    cases h
    have some := joinConditions_ne_empty (Predicate.reads_nested.mp reads) found
    simp [some, String.append_eq_empty_iff]
  | .compared _ _ _ _, _, _, h | .isNull _ _ _, _, _, h => by
    obtain ⟨column, -, h⟩ := Result.bind_eq_ok h
    cases h
    simp [String.append_eq_empty_iff]
  | .among _ _ _ negated, _, _, h => by
    obtain ⟨column, -, h⟩ := Result.bind_eq_ok h
    cases h
    cases negated <;> simp [negate, String.append_eq_empty_iff]
  | .between _ _ _ negated, _, _, h => by
    obtain ⟨column, -, h⟩ := Result.bind_eq_ok h
    cases h
    cases negated <;> simp [String.append_eq_empty_iff]
  | .carried _ _ _ _, _, _, h => by
    cases h
    simp [String.append_eq_empty_iff]
  | .comparedRow _ _ _ _, _, _, h => by
    obtain ⟨column, -, h⟩ := Result.bind_eq_ok h
    obtain ⟨inner, -, h⟩ := Result.bind_eq_ok h
    cases h
    simp [String.append_eq_empty_iff]
  | .amongRows _ _ _ negated, _, _, h => by
    obtain ⟨column, -, h⟩ := Result.bind_eq_ok h
    obtain ⟨inner, -, h⟩ := Result.bind_eq_ok h
    cases h
    cases negated <;> simp [negate, String.append_eq_empty_iff]
  | .present _ _ negated, _, _, h => by
    obtain ⟨inner, -, h⟩ := Result.bind_eq_ok h
    cases h
    cases negated <;> simp [negate, braced, String.append_eq_empty_iff]
  | .foreign _, _, _, h => by cases h
termination_by structural p => p
theorem joinConditions_ne_empty {write : String → String} {whole : Bool} :
    ∀ {wheres : List Predicate} {entries : List (Connective × String)},
      (∃ p ∈ wheres, p.Reads whole node) → conditionTexts write wheres = .ok entries →
      joinConditions entries ≠ ""
  | [], _, reads, _ => by simp at reads
  | p :: rest, entries, reads, h => by
    rw [Ne, joinConditions_eq_empty (conditionTexts_ne_empty h)]
    obtain ⟨text, first, h⟩ := Result.bind_eq_ok h
    obtain ⟨others, found, h⟩ := Result.bind_eq_ok h
    cases h
    unfold prependCondition
    split
    · next none =>
      obtain ⟨p', member, reads⟩ := reads
      rcases List.mem_cons.mp member with same | member
      · exact absurd none (predicateText_ne_empty (same ▸ reads) first)
      · have some := joinConditions_ne_empty ⟨p', member, reads⟩ found
        rwa [Ne, joinConditions_eq_empty (conditionTexts_ne_empty found)] at some
    · simp
termination_by structural wheres => wheres
end

/-- The layout of the stage of a query: if its conditions have to come `late`, all of them stand behind
the optional patterns, and none before; and else the other way around. -/
inductive Arranged (write : String → String) (q : Query) (introduced : Introduced) (late : Prop) :
    (stage : String) → Prop
  | ahead {required optional predicates : String} {before seen : Introduced} : ¬ late →
      requiredText q introduced = .ok (required, before) →
      optionalText write q before = .ok (optional, seen) →
      predicatesText write q.wheres = .ok predicates →
      Arranged write q introduced late (spaced [required, whereText write q predicates, optional])
  | behind {required optional predicates : String} {before seen : Introduced} : late →
      requiredText q introduced = .ok (required, before) →
      optionalText write q before = .ok (optional, seen) →
      predicatesText write q.wheres = .ok predicates → predicates ≠ "" →
      Arranged write q introduced late
        (spaced [required, whereText write q "", optional, "WITH * WHERE " ++ predicates])

/-- The layout of a stage goes by what the conditions read within sight. -/
theorem matchStage_arranged_seen {write : String → String} {q : Query}
    {introduced seen : Introduced} {stage : String}
    (h : matchStage write q (conditionsOf write q) introduced = .ok (stage, seen)) :
    Arranged write q introduced
      (∃ p ∈ q.wheres, ∃ node, p.Reads false node ∧ q.BindsLate introduced node) stage := by
  obtain ⟨_, _, _, _, _, hrequired, hoptional, -, hreads, hpredicates, rfl⟩ := matchStage_eq_ok h
  have deferred := isDeferred_iff hrequired hoptional hreads
  split
  · next late =>
    obtain ⟨p, member, node, found, binds⟩ := deferred.mp late
    obtain ⟨entries, hentries, same⟩ := Result.bind_eq_ok hpredicates
    cases same
    exact .behind ⟨p, member, node, found, binds⟩ hrequired hoptional hpredicates
      (joinConditions_ne_empty ⟨p, member, found⟩ hentries)
  · next early =>
    exact .ahead (fun late => early (deferred.mpr late)) hrequired hoptional hpredicates

/-- The layout of a stage goes by all that the conditions read, if they read nothing out of sight that
only an optional pattern introduces. -/
theorem matchStage_arranged {write : String → String} {q : Query}
    {introduced seen : Introduced} {stage : String}
    (h : matchStage write q (conditionsOf write q) introduced = .ok (stage, seen)) :
    Arranged write q introduced
      (∃ p ∈ q.wheres, ∃ node, p.Reads false node ∧ q.BindsLate introduced node) stage ∧
    ((∀ p ∈ q.wheres, ∀ node, q.BindsLate introduced node → p.Reads true node →
      p.Reads false node) →
      Arranged write q introduced
        (∃ p ∈ q.wheres, ∃ node, p.Reads true node ∧ q.BindsLate introduced node) stage) := by
  have seen := matchStage_arranged_seen h
  refine ⟨seen, fun inSight => ?_⟩
  have same : (∃ p ∈ q.wheres, ∃ node, p.Reads false node ∧ q.BindsLate introduced node) ↔
      ∃ p ∈ q.wheres, ∃ node, p.Reads true node ∧ q.BindsLate introduced node := by
    constructor
    · rintro ⟨p, member, node, reads, late⟩
      exact ⟨p, member, node, reads.whole, late⟩
    · rintro ⟨p, member, node, reads, late⟩
      exact ⟨p, member, node, inSight p member node late reads, late⟩
  rwa [same] at seen

/-- With a sub-query whose condition reads a node of an optional pattern. -/
theorem matchStage_arranged_exists :
    let q := (LiveQuery.afterCalls [.target (.text "User"),
      .relation (.text "User") (.text "Comment") (.text "comment") (.text "WROTE") .null .null
        (.text "out") (.text "or"),
      .present (.body [.target (.text "Post"), .equals (.text "comment.text") (.text "x")])
        Call.andName (.bool false)]).query
    let stage := "MATCH (user:User) OPTIONAL MATCH (user)-[rel_wrote_comment:WROTE]->(comment:Comment) "
      ++ "WITH * WHERE EXISTS \x7b MATCH (post:Post) WHERE comment.text = $text RETURN post \x7d"
    ∃ seen, matchStage parameter q (conditionsOf parameter q) [] = .ok (stage, seen) ∧
      Arranged parameter q [] (∃ p ∈ q.wheres, ∃ node, p.Reads false node ∧ q.BindsLate [] node)
        stage := by
  intro q stage
  have h : matchStage parameter q (conditionsOf parameter q) [] =
      .ok (stage, [("user", ["User"]), ("comment", ["Comment"])]) :=
    Result.of_toOption (by decide +kernel)
  exact ⟨_, h, (matchStage_arranged h).1⟩

/-- A condition stands ahead of the optional pattern that introduces the node it reads: its sub-query
reads the node in its projection alone. -/
theorem early_exists :
    let q := (LiveQuery.afterCalls [.target (.text "User"),
      .relation (.text "User") (.text "Comment") (.text "comment") (.text "WROTE") .null .null
        (.text "out") (.text "or"),
      .present (.body [.target (.text "Post"), .select [.text "comment.text"]])
        Call.andName (.bool false)]).query
    let stage := "MATCH (user:User) WHERE EXISTS \x7b MATCH (post:Post) RETURN comment.text \x7d " ++
      "OPTIONAL MATCH (user)-[rel_wrote_comment:WROTE]->(comment:Comment)"
    (∃ seen, matchStage parameter q (conditionsOf parameter q) [] = .ok (stage, seen)) ∧
      ¬ Arranged parameter q []
        (∃ p ∈ q.wheres, ∃ node, p.Reads true node ∧ q.BindsLate [] node) stage := by
  intro q stage
  have h : matchStage parameter q (conditionsOf parameter q) [] =
      .ok (stage, [("user", ["User"]), ("comment", ["Comment"])]) :=
    Result.of_toOption (by decide +kernel)
  have required : requiredText q [] = .ok ("MATCH (user:User)", [("user", ["User"])]) :=
    Result.of_toOption (by decide +kernel)
  have optional : optionalText parameter q [("user", ["User"])] =
      .ok ("OPTIONAL MATCH (user)-[rel_wrote_comment:WROTE]->(comment:Comment)",
        [("user", ["User"]), ("comment", ["Comment"])]) :=
    Result.of_toOption (by decide +kernel)
  have predicates : predicatesText parameter q.wheres =
      .ok "EXISTS \x7b MATCH (post:Post) RETURN comment.text \x7d" :=
    Result.of_toOption (by decide +kernel)
  refine ⟨⟨_, h⟩, fun arranged => ?_⟩
  have late : q.BindsLate [] "comment" := (bindsLate_iff required optional).mpr (by decide)
  have reads : ∃ p ∈ q.wheres, p.Reads true "comment" := by
    refine ⟨_, List.mem_cons_self .., .query rfl (.column rfl rfl (List.mem_cons_self ..) ?_)⟩
    exact Or.inr ⟨⟨"text", some "comment", false⟩, rfl, rfl⟩
  obtain ⟨p, member, reads⟩ := reads
  generalize same : stage = text at arranged
  cases arranged with
  | ahead early _ _ _ => exact early ⟨p, member, "comment", reads, late⟩
  | behind _ required' optional' predicates' _ =>
    obtain ⟨rfl, rfl⟩ := Prod.mk.inj (Except.ok.inj (required.symm.trans required'))
    obtain ⟨rfl, rfl⟩ := Prod.mk.inj (Except.ok.inj (optional.symm.trans optional'))
    obtain rfl := Except.ok.inj (predicates.symm.trans predicates')
    revert same
    decide +kernel

end Cypher

end GraphQuery
