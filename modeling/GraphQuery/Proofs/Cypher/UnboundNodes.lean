import GraphQuery.Proofs.Cypher.Deferral
import GraphQuery.Proofs.Cypher.Narrowing
import GraphQuery.Proofs.Cypher.StageNodes
import GraphQuery.Proofs.Cypher.Unions

/-! # Conditions on nodes that nothing binds

A column belongs to the node before its point, whether a query has such a node or not, and no select asks
for that.  The patterns of a select bind the nodes that are known of its query, and no others.

* `BindsKnown` : the nodes of the patterns of a select are those that are known;
* `FailsAtLost` : conditions on columns fail where an identity has no node, and nowhere else
  (`conditionTexts_failsAtLost`);
* `selectText_withWheres` : a select that compiles does so with any other conditions exactly if these
  compile, whatever nodes they read. -/

namespace GraphQuery

open GraphQuery.Text GraphQuery.Cypher

/-! ### Conditions on columns -/

mutual
/-- Whether a condition is one on a column, or groups such conditions. -/
def Predicate.isOnColumns : Predicate → Bool
  | .compared .. | .among .. | .between .. | .isNull .. => true
  | .nested _ wheres => areOnColumns wheres
  | _ => false
/-- The same of all conditions of a list. -/
def areOnColumns : List Predicate → Bool
  | [] => true
  | p :: rest => p.isOnColumns && areOnColumns rest
end

mutual
/-- The columns of a condition from left to right, those in groups included. -/
def Predicate.columns : Predicate → List ColumnRef
  | .nested _ wheres => columnsOf wheres
  | p => p.column?.toList
/-- The columns of several conditions. -/
def columnsOf : List Predicate → List ColumnRef
  | [] => []
  | p :: rest => p.columns ++ columnsOf rest
end

/-- Whether a reference is an identity without a node. -/
def ColumnRef.isLost (c : ColumnRef) : Bool := c.identity && c.owner?.isNone

/-- A result for some columns: the first identity without a node is an error, and there is no other one. -/
def FailsAtLost {α : Type} (columns : List ColumnRef) (r : Result α) : Prop :=
  match columns.find? (·.isLost) with
  | none => ∃ a, r = .ok a
  | some c => r = .error (.render (.identityWithoutNode c.name))

namespace FailsAtLost

variable {α β : Type} {columns others : List ColumnRef} {r : Result α}

theorem of_ok (a : α) : FailsAtLost [] (.ok a : Result α) := ⟨a, rfl⟩

theorem bind {f : α → Result β} (first : FailsAtLost columns r)
    (next : ∀ a, FailsAtLost others (f a)) : FailsAtLost (columns ++ others) (r >>= f) := by
  unfold FailsAtLost at first ⊢
  rw [List.find?_append]
  cases lost : columns.find? (·.isLost) with
  | none =>
    rw [lost] at first
    obtain ⟨a, rfl⟩ := first
    exact next a
  | some c =>
    rw [lost] at first
    obtain rfl : r = _ := first
    rfl

theorem map {f : α → Result β} (first : FailsAtLost columns r) (next : ∀ a, ∃ b, f a = .ok b) :
    FailsAtLost columns (r >>= f) := by
  have both : FailsAtLost (columns ++ []) (r >>= f) := first.bind next
  rwa [List.append_nil] at both

theorem of_agree {related : β → α → Prop} {r' : Result β} (h : Result.Agree related r' r)
    (first : FailsAtLost columns r) : FailsAtLost columns r' := by
  unfold FailsAtLost at first ⊢
  split
  · next none =>
    rw [none] at first
    obtain ⟨a, rfl⟩ := first
    cases r' with
    | ok b => exact ⟨b, rfl⟩
    | error e => exact h.elim
  · next c lost =>
    rw [lost] at first
    obtain rfl : r = _ := first
    cases r' with
    | ok b => exact h.elim
    | error e => exact congrArg Except.error h

end FailsAtLost

namespace Cypher

variable {write : String → String}

theorem columnText_failsAtLost (c : ColumnRef) : FailsAtLost [c] (columnText c) := by
  unfold FailsAtLost columnText
  cases identity : c.identity <;> cases owner : c.owner? <;>
    simp [ColumnRef.isLost, identity, owner]

mutual
theorem predicateText_failsAtLost : ∀ {p : Predicate}, p.isOnColumns = true →
    FailsAtLost p.columns (predicateText write p)
  | .compared _ c _ _, _ | .among _ c _ _, _ | .between _ c _ _, _ | .isNull _ c _, _ =>
    (columnText_failsAtLost c).map fun _ => ⟨_, rfl⟩
  | .nested _ wheres, h => by
    have inner : areOnColumns wheres = true := h
    exact (conditionTexts_failsAtLost inner).map fun _ => ⟨_, rfl⟩
termination_by structural p => p
/-- Conditions on columns fail where an identity has no node, and nowhere else. -/
theorem conditionTexts_failsAtLost : ∀ {wheres : List Predicate}, areOnColumns wheres = true →
    FailsAtLost (columnsOf wheres) (conditionTexts write wheres)
  | [], _ => .of_ok _
  | p :: rest, h => by
    obtain ⟨first, others⟩ := (Bool.and_eq_true ..).mp h
    exact (predicateText_failsAtLost first).bind fun text =>
      (conditionTexts_failsAtLost others).map fun _ => ⟨_, rfl⟩
termination_by structural wheres => wheres
end

mutual
theorem predicateReads_eq_ok : ∀ {p : Predicate}, p.isOnColumns = true →
    ∃ reads, predicateReads p = .ok reads
  | .compared _ _ _ _, _ | .among _ _ _ _, _ | .between _ _ _ _, _ | .isNull _ _ _, _ => ⟨_, rfl⟩
  | .nested _ wheres, h => by
    have inner : areOnColumns wheres = true := h
    exact predicatesRead_eq_ok inner
termination_by structural p => p
theorem predicatesRead_eq_ok : ∀ {wheres : List Predicate}, areOnColumns wheres = true →
    ∃ reads, predicatesRead wheres = .ok reads
  | [], _ => ⟨[], rfl⟩
  | p :: rest, h => by
    obtain ⟨first, others⟩ := (Bool.and_eq_true ..).mp h
    obtain ⟨reads, found⟩ := predicateReads_eq_ok first
    obtain ⟨more, found'⟩ := predicatesRead_eq_ok others
    exact ⟨reads ++ more, by rw [predicatesRead, found, found']; rfl⟩
termination_by structural wheres => wheres
end

/-! ### Other conditions -/

variable {q : Query} {wheres : List Predicate}

theorem conditionsOf_unionStart : conditionsOf write q.unionStart = conditionsOf write q := by
  unfold Query.unionStart
  split <;> rfl

/-- A stage that compiles fails with other conditions only where these do, and introduces the same
nodes. -/
theorem matchStage_withWheres {conditions conditions' : Conditions} {stage : String}
    {seen : Introduced} {reads : List String}
    (h : matchStage write q conditions [] = .ok (stage, seen))
    (found : conditions'.reads = .ok reads) :
    Result.Agree (fun s _ => s.2 = seen) (matchStage write (q.withWheres wheres) conditions' [])
      conditions'.text := by
  obtain ⟨required, before, optional, _, _, first, second, walked, -⟩ := matchStage_eq_ok h
  have first' : requiredText (q.withWheres wheres) [] = .ok (required, before) := first
  have second' : optionalText write (q.withWheres wheres) before = .ok (optional, seen) := second
  have walked' : (q.withWheres wheres).walk .wheres = .ok () := walked
  unfold matchStage
  rw [first', found, walked']
  dsimp only [bind, Except.bind]
  rw [second']
  dsimp only
  cases conditions'.text with
  | error e => exact Eq.refl e
  | ok predicates =>
    dsimp only
    split <;> rfl

theorem singleSelect_withWheres {conditions conditions' : Conditions} {reads : List String}
    {names : Option (List String)} {text : String} {columns : List String}
    (h : singleSelect write q conditions names = .ok (text, columns))
    (found : conditions'.reads = .ok reads) :
    Result.Agree (fun s _ => s.2 = columns)
      (singleSelect write (q.withWheres wheres) conditions' names) conditions'.text := by
  obtain ⟨stage, seen, texts, matched, after, -⟩ := singleSelect_eq_ok h
  rw [singleSelect_eq, afterStage_withWheres, ← bind_pure conditions'.text]
  refine (matchStage_withWheres matched found).bind fun ⟨stage', seen'⟩ _ same => ?_
  obtain rfl : seen' = seen := same
  dsimp only
  rw [after]
  exact Eq.refl columns

theorem plainSelect_withWheres {conditions conditions' : Conditions} {branches : List BranchText}
    {reads : List String} {text : String}
    (h : plainSelect write q conditions branches = .ok text)
    (found : conditions'.reads = .ok reads) :
    Result.Agree (fun _ _ => True)
      (plainSelect write (q.withWheres wheres) conditions' branches) conditions'.text := by
  obtain ⟨⟨first, names⟩, selected, h⟩ := Result.bind_eq_ok h
  obtain ⟨_, walked, h⟩ := Result.bind_eq_ok h
  rw [appendBranches_eq] at h
  obtain ⟨others, appended, -⟩ := Result.bind_eq_ok h
  unfold plainSelect
  rw [← bind_pure conditions'.text]
  refine (singleSelect_withWheres selected found).bind fun ⟨first', names'⟩ _ same => ?_
  obtain rfl : names' = names := same
  rw [show (q.withWheres wheres).walk .branches = .ok () from walked]
  show Result.Agree _ (appendBranches write names' first' branches) _
  rw [appendBranches_eq, appended]
  trivial

theorem copied_withWheres {copy : Query} (h : q.copied = .ok copy) :
    (q.withWheres wheres).copied = .ok (copy.withWheres wheres) := by
  obtain ⟨_, bindings, h⟩ := Result.bind_eq_ok h
  obtain ⟨_, lists, h⟩ := Result.bind_eq_ok h
  obtain rfl := Except.ok.inj h
  have bindings' : (q.withWheres wheres).copyBindings = .ok () := bindings
  have lists' : QueryOver.listParts.forM (q.withWheres wheres).walk = .ok () := lists
  unfold QueryOver.copied
  rw [bindings', lists']
  rfl

/-- A select that compiles does so with any other conditions exactly if these compile, whatever nodes
they read. -/
theorem selectText_withWheres {text : String} {reads : List String}
    (h : selectText write q = .ok text) (found : predicatesRead wheres = .ok reads) :
    Result.Agree (fun _ _ => True) (selectText write (q.withWheres wheres))
      (predicatesText write wheres) := by
  have present : (q.withWheres wheres).hasBranches = q.hasBranches := rfl
  have aggregate : (q.withWheres wheres).aggregate = q.aggregate := rfl
  have branches : (q.withWheres wheres).branches = q.branches := rfl
  unfold selectText assembleSelect at h ⊢
  rw [present, aggregate, branches]
  split at h
  · next a branched own =>
    have groups : (q.withWheres wheres).hasGroups = q.hasGroups := rfl
    have havings : (q.withWheres wheres).hasHavings = q.hasHavings := rfl
    unfold unionAggregate at h ⊢
    split at h
    · cases h
    · next plain =>
      obtain ⟨copy, copied, h⟩ := Result.bind_eq_ok h
      obtain ⟨inner, written, h⟩ := Result.bind_eq_ok h
      obtain ⟨projection, aggregated, -⟩ := Result.bind_eq_ok h
      have found' : (conditionsOf write (q.withWheres wheres)).reads = .ok reads := found
      rw [groups, havings, if_neg plain, copied_withWheres copied, aggregateText_withWheres,
        aggregated, ← bind_pure (predicatesText write wheres)]
      exact (plainSelect_withWheres written found').bind fun _ _ _ => trivial
  · exact plainSelect_withWheres h found

/-! ### The nodes that are bound -/

/-- Whether the patterns of a select bind the nodes that are known of its query, and no others. -/
def BindsKnown (q : Query) (select : String) : Prop :=
  ∃ primary predicates late rest known,
    q.placeholder? = .ok (primary.map NodePattern.placeholder) ∧ q.knownPlaceholders = .ok known ∧
    let clauses := stageOf q primary (whereText parameter q predicates) late
    select = spaced (spaced (clauseTexts [] clauses) :: rest) ∧
      ∀ node, node ∈ introductions [] (clauses.flatMap (·.nodes)) ↔ node ∈ known

theorem singleSelect_bindsKnown {names : Option (List String)} {select : String}
    {columns : List String}
    (h : singleSelect parameter q (conditionsOf parameter q) names = .ok (select, columns)) :
    BindsKnown q select := by
  obtain ⟨stage, seen, texts, matched, -, rfl⟩ := singleSelect_eq_ok h
  obtain ⟨node, labels, predicates, late, target, -, rfl⟩ := matchStage_clauses matched
  have introduces : Introduces q (stageOf q (node.map (⟨·, labels⟩)) (whereText parameter q predicates)
      late) (seen.map Prod.fst) := introduces_stageOf target matched
  obtain ⟨known, told, same⟩ := introduces.known
  refine ⟨node.map (⟨·, labels⟩), predicates, late, texts, known, ?_, told, rfl, fun name => ?_⟩
  · rw [target]
    cases node <;> rfl
  · rw [← introduces.written]
    exact same.mem_iff

/-- In every select of a statement the patterns bind the nodes that are known of its query, and no others.
That conditions read only these is nowhere asked for: with any conditions on columns in the place of its
own the query has a select, unless an identity among them has no node. -/
theorem selectText_bindsKnown {text : String} (h : selectText parameter q = .ok text) :
    (∃ first names selects, IsUnion parameter q text first names selects ∧
      BindsKnown q.unionStart first ∧
      List.Forall₂ (fun b select => ∃ other, b.query.query? = some other ∧ BindsKnown other select)
        q.branches selects) ∧
    ∀ wheres, areOnColumns wheres = true →
      FailsAtLost (columnsOf wheres) (selectText parameter (q.withWheres wheres)) := by
  constructor
  · obtain ⟨first, names, selects, union⟩ := isUnion_of_selectText h
    refine ⟨first, names, selects, union, ?_, union.goesOn.imp fun b select selected => ?_⟩
    · have begins := union.begins
      rw [← conditionsOf_unionStart] at begins
      exact singleSelect_bindsKnown begins
    · obtain ⟨other, columns, found, written⟩ := selected
      exact ⟨other, found, singleSelect_bindsKnown written⟩
  · intro wheres onColumns
    obtain ⟨reads, found⟩ := predicatesRead_eq_ok onColumns
    exact .of_agree (selectText_withWheres h found)
      ((conditionTexts_failsAtLost onColumns).map fun _ => ⟨_, rfl⟩)

/-- A node of an optional pattern is bound. The same select has no text when a condition of a group is on
an identity without a node. -/
theorem selectText_bindsKnown_optional :
    let q := (LiveQuery.afterCalls [.target (.text "User"),
      .relation (.text "User") (.text "Post") (.text "post") (.text "POSTED") .null .null
        (.text "out") (.text "or"),
      .equals (.text "post.title") (.text "x")]).query
    let text := "MATCH (user:User) OPTIONAL MATCH (user)-[rel_posted_post:POSTED]->(post:Post) " ++
      "WITH * WHERE post.title = $title RETURN user, post"
    let lost := [.compared .all ⟨"title", some "essay", false⟩ "=" "title",
      .nested .all [.isNull .all ⟨"id", none, true⟩ false]]
    selectText parameter q = .ok text ∧ areOnColumns lost = true ∧
    (∃ first names selects, IsUnion parameter q text first names selects ∧
      BindsKnown q.unionStart first ∧
      List.Forall₂ (fun b select => ∃ other, b.query.query? = some other ∧ BindsKnown other select)
        q.branches selects) ∧
    selectText parameter (q.withWheres lost) = .error (.render (.identityWithoutNode "id")) := by
  intro q text lost
  have written : selectText parameter q = .ok text := Result.of_toOption (by decide +kernel)
  have onColumns : areOnColumns lost = true := rfl
  obtain ⟨bound, others⟩ := selectText_bindsKnown written
  have first : (columnsOf lost).find? (·.isLost) = some ⟨"id", none, true⟩ := rfl
  have fails := others lost onColumns
  unfold FailsAtLost at fails
  rw [first] at fails
  exact ⟨written, onColumns, bound, fails⟩

/-- A condition on a node that nothing binds is written as it stands. -/
theorem selectText_unbound :
    let q := (LiveQuery.afterCalls [.target (.text "User"),
      .equals (.text "post.title") (.text "x")]).query
    selectText parameter q = .ok "MATCH (user:User) WHERE post.title = $title RETURN user" ∧
    (∃ p ∈ q.wheres, p.Reads false "post") ∧ q.knownPlaceholders = .ok ["user"] ∧
    ¬ q.HasNode "post" := by
  intro q
  have column : q.wheres.head?.bind (·.column?) = some ⟨"title", some "post", false⟩ := by
    decide +kernel
  have unmatched : q.patterns = [] := List.isEmpty_iff.mp (by decide +kernel)
  have target : q.placeholder? = .ok (some "user") := Result.of_toOption (by decide +kernel)
  refine ⟨Result.of_toOption (by decide +kernel), ?_, Result.of_toOption (by decide +kernel), ?_⟩
  · obtain ⟨p, first, column⟩ := Option.bind_eq_some_iff.mp column
    exact ⟨p, List.mem_of_head? first, .column column rfl⟩
  · rintro (primary | ⟨p, member, -⟩)
    · rw [target] at primary
      exact absurd primary (by simp)
    · rw [unmatched] at member
      cases member

end Cypher

end GraphQuery
