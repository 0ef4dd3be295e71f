import GraphQuery.Proofs.Cypher.StageClauses
import GraphQuery.Proofs.Cypher.Targets

/-! # What a change counts

A change reports the count of its target.  `Change.counts` reads the text of a change as clauses and
tells, for every graph, what that count is.  It never counts null, and with an optional pattern every
node once.  Without optional patterns it counts rows: a node that a pattern matches in several ways
counts several times, also if the patterns are required, for which nothing reduces the rows.

* `Change.counts` : the clauses behind a change, and its count.
* `Change.counts_repeated` : one user with two posts counts twice. -/

namespace GraphQuery

open GraphQuery.Cypher GraphQuery.Text

/-! ### The clauses of a change -/

variable {q : Query}

/-- Whether a pattern of a query is optional. -/
def Query.hasOptional (q : Query) : Bool := q.patterns.any fun p => p.clause?.any (·.isOptional)

theorem Query.patternsAmong_eq_nil (none : q.hasOptional = false) :
    patternsAmong true q.patterns = [] := by
  unfold Query.hasOptional at none
  unfold patternsAmong
  rw [List.filter_eq_nil_iff]
  intro p member optional
  obtain ⟨m, listed, clause⟩ := List.mem_filterMap.mp member
  have := List.any_eq_false.mp none m listed
  rw [clause] at this
  exact this (by simpa using optional)

/-- What stands between the stage and a change. -/
def onceClauses (q : Query) (node : String) : List MatchClause :=
  if q.hasOptional then [.once node] else []

/-- All clauses ahead of a change. -/
def changeClauses (q : Query) (n : NodePattern) (early late : String) : List MatchClause :=
  stageClauses q n early late ++ onceClauses q n.placeholder

theorem target_clauses {node stage : String} {seen : Introduced}
    (found : q.placeholder? = .ok (some node))
    (h : matchStage parameter q (conditionsOf parameter q) [] = .ok (stage, seen)) :
    ∃ labels early late, labelsText q.labels = .ok (labelText labels) ∧
      stage ++ onceText q node =
        spaced (clauseTexts [] (changeClauses q ⟨node, labels⟩ early late)) := by
  obtain ⟨_, labels, predicates, late, target, labelled, rfl⟩ := matchStage_clauses h
  obtain rfl := Except.ok.inj (found.symm.trans target)
  generalize whereText parameter q predicates = early
  refine ⟨labels, early, late, labelled rfl, ?_⟩
  rw [Option.map_some, stageOf_some]
  have some : spaced (clauseTexts [] (stageClauses q ⟨node, labels⟩ early late)) ≠ "" := by
    unfold stageClauses
    rw [clauseTexts, spaced_eq_beside]
    exact beside_ne_empty (append_ne_empty (by decide) _) _
  unfold changeClauses
  rw [clauseTexts_append, spaced_append]
  unfold onceText onceClauses Query.hasOptional
  split
  · have once : spaced ["WITH DISTINCT " ++ node] = "WITH DISTINCT " ++ node := by
      simp [spaced, joined]
    show _ ++ (" WITH DISTINCT " ++ node) = beside _ (spaced ["WITH DISTINCT " ++ node])
    rw [once]
    unfold beside
    rw [if_neg some, if_neg (append_ne_empty (by decide) _), String.append_assoc]
    rfl
  · show _ ++ "" = beside _ ""
    simp [beside]

/-! ### What is counted -/

section count

variable {ν : Type} [DecidableEq ν] {g : Graph ν} {holds : String → MatchRow ν → Bool}
variable {n : NodePattern} {early late : String}

theorem eq_of_once_mem_change {node : String} (member : .once node ∈ changeClauses q n early late) :
    node = n.placeholder := by
  rcases List.mem_append.mp member with member | member
  · simp [stageClauses] at member
  · unfold onceClauses at member
    split at member
    · exact MatchClause.once.inj (List.mem_singleton.mp member)
    · cases member

theorem runClauses_append (first second : List MatchClause) :
    runClauses g holds (first ++ second) =
      second.foldl (fun rows c => c.run g holds rows) (runClauses g holds first) :=
  List.foldl_append

/-- With an optional pattern a change gets each node of the stage once, and otherwise what the stage
has. -/
theorem touched_change : touched n.placeholder (runClauses g holds (changeClauses q n early late)) =
    if q.hasOptional then
      (touched n.placeholder (runClauses g holds (stageClauses q n early late))).dedup
    else touched n.placeholder (runClauses g holds (stageClauses q n early late)) := by
  have aims : Aims g n (runClauses g holds (stageClauses q n early late)) :=
    runClauses_aims fun node member => by simp at member
  unfold changeClauses onceClauses
  rw [runClauses_append]
  split
  · show touched _ ((MatchClause.once n.placeholder).run g holds _) = _
    exact aims.touched_once
  · rfl

/-- Whether each required pattern of a query matches the rows that it gets in one way at most. -/
def Query.IsFunctional (q : Query) (n : NodePattern) (early late : String) (g : Graph ν)
    (holds : String → MatchRow ν → Bool) : Prop :=
  ∀ before p after, stageClauses q n early late = before ++ .required p :: after →
    ∀ r ∈ runClauses g holds before, (g.matches p r).length ≤ 1

/-- What a change counts on a graph. -/
structure Counts (q : Query) (n : NodePattern) (early late : String) (g : Graph ν)
    (holds : String → MatchRow ν → Bool) : Prop where
  /-- every row has a node that the query is for, so each row counts -/
  each : affected n.placeholder (runClauses g holds (changeClauses q n early late)) =
    (touched n.placeholder (runClauses g holds (changeClauses q n early late))).length
  nodes : ∀ v ∈ touched n.placeholder (runClauses g holds (changeClauses q n early late)),
    v ∈ g.nodes ∧ g.fits n.labels v
  /-- no node of the stage is left out -/
  all : ∀ v, v ∈ touched n.placeholder (runClauses g holds (changeClauses q n early late)) ↔
    v ∈ touched n.placeholder (runClauses g holds (stageClauses q n early late))
  /-- without optional patterns the rows of the stage are counted -/
  rows : q.hasOptional = false →
    affected n.placeholder (runClauses g holds (changeClauses q n early late)) =
      (runClauses g holds (stageClauses q n early late)).length
  /-- when no node is counted more than once -/
  once : q.hasOptional ∨ q.IsFunctional n early late g holds →
    (touched n.placeholder (runClauses g holds (changeClauses q n early late))).Nodup

/-- Without optional patterns, the clauses behind the target do not repeat a row if the required patterns
do not. -/
theorem isSingle_change (none : q.hasOptional = false)
    (functional : q.IsFunctional n early late g holds) {before after : List MatchClause}
    {c : MatchClause} (parts : changeClauses q n early late = .target n :: (before ++ c :: after)) :
    c.IsSingle g (runClauses g holds (.target n :: before)) := by
  have whole : changeClauses q n early late = stageClauses q n early late := by
    unfold changeClauses onceClauses
    rw [none]
    exact List.append_nil _
  rw [whole] at parts
  have member : c ∈ before ++ c :: after := List.mem_append_right _ (List.mem_cons_self ..)
  cases c with
  | target m =>
    rw [← (List.cons.inj parts).2] at member
    simp at member
  | required p => exact functional (.target n :: before) p after parts
  | optional p =>
    rw [← (List.cons.inj parts).2, Query.patternsAmong_eq_nil none] at member
    simp at member
  | kept _ | once _ => trivial

theorem counts_change (q : Query) (n : NodePattern) (early late : String) :
    Counts q n early late g holds := by
  have aims : Aims g n (runClauses g holds (changeClauses q n early late)) :=
    runClauses_aims fun node member => eq_of_once_mem_change (List.mem_cons_of_mem _ member)
  have staged : Aims g n (runClauses g holds (stageClauses q n early late)) :=
    runClauses_aims fun node member => by simp at member
  refine ⟨aims.affected_eq, fun v => aims.mem_touched, fun v => ?_, fun none => ?_, fun single => ?_⟩
  · rw [touched_change]
    split
    · exact List.mem_dedup
    · rfl
  · rw [aims.affected_eq, touched_change, none]
    exact staged.touched_length
  · cases optional : q.hasOptional with
    | true =>
      rw [touched_change, if_pos optional]
      exact List.nodup_dedup _
    | false =>
      have functional : q.IsFunctional n early late g holds :=
        single.resolve_left (by simp [optional])
      refine runClauses_touched_nodup (fun before c after parts => ?_)
        fun node member => eq_of_once_mem_change (List.mem_cons_of_mem _ member)
      exact isSingle_change optional functional (congrArg (MatchClause.target n :: ·) parts)

end count

namespace Cypher

/-- The text of a change is that of clauses and of an action on their target, and on every graph it
counts what the rows of these clauses have. -/
def Change.Counted (change : Change) (q : Query) (text : String) : Prop :=
  ∃ n early late action, q.placeholder? = .ok (some n.placeholder) ∧
    labelsText q.labels = .ok (labelText n.labels) ∧ change.action n.placeholder = .ok action ∧
    text = spaced (clauseTexts [] (changeClauses q n early late)) ++ action ++
      affectedText n.placeholder ∧
    ∀ {ν : Type} [DecidableEq ν] (g : Graph ν) (holds : String → MatchRow ν → Bool),
      Counts q n early late g holds

/-- A change counts each node once if a pattern is optional, or if no required pattern matches a row in
several ways.  Otherwise it counts rows. -/
theorem Change.counts (change : Change) {q : Query} {text : String} (h : change.text q = .ok text) :
    change.Counted q text := by
  obtain ⟨node, target, action, found, limited, acted, rfl⟩ := text_eq_ok.mp h
  obtain ⟨stage, seen, staged, rfl⟩ := (targetText_eq_ok found).mp limited
  obtain ⟨labels, early, late, labelled, whole⟩ := target_clauses found staged
  refine ⟨⟨node, labels⟩, early, late, action, found, labelled, acted, ?_, fun g holds => ?_⟩
  · rw [whole]
  · exact counts_change q ⟨node, labels⟩ early late

/-- A delete with an optional pattern. -/
theorem Change.counts_optional :
    let q := (LiveQuery.afterCalls [.target (.text "User"),
      .relation (.text "User") (.text "Post") (.text "post") (.text "POSTED") .null .null
        (.text "out") (.text "or")]).query
    let text := "MATCH (user:User) OPTIONAL MATCH (user)-[rel_posted_post:POSTED]->(post:Post) " ++
      "WITH DISTINCT user DETACH DELETE user RETURN count(user) AS affected"
    Change.delete.text q = .ok text ∧ Change.delete.Counted q text := by
  intro q text
  have written : Change.delete.text q = .ok text := Result.of_toOption (by decide +kernel)
  exact ⟨written, Change.delete.counts written⟩

/-- A user with two posts. -/
def twoPosts : Graph ℕ where
  nodes := [0, 1, 2]
  labels v := if v = 0 then ["User"] else ["Post"]
  links := [⟨0, "POSTED", 1⟩, ⟨0, "POSTED", 2⟩]
  distinct := by decide
  closed := by decide

/-- With a required pattern nothing reduces the rows of a delete: a user with two posts counts twice. -/
theorem Change.counts_repeated :
    let q := (LiveQuery.afterCalls [.target (.text "User"),
      .relation (.text "User") (.text "Post") (.text "post") (.text "POSTED") .null .null
        (.text "out") Call.andName]).query
    let clauses := changeClauses q ⟨"user", ["User"]⟩ "" ""
    let changed := runClauses twoPosts (fun _ _ => true) clauses
    (Change.delete.text q).toOption =
      some ("MATCH (user:User) MATCH (user)-[rel_posted_post:POSTED]->(post:Post) " ++
        "DETACH DELETE user RETURN count(user) AS affected") ∧
    clauseTexts [] clauses =
      ["MATCH (user:User)", "MATCH (user)-[rel_posted_post:POSTED]->(post:Post)", "", ""] ∧
    affected "user" changed = 2 ∧ touched "user" changed = [0, 0] := by
  decide +kernel

end Cypher

end GraphQuery
