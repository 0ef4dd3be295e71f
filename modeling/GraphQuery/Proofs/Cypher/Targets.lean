import GraphQuery.Proofs.Cypher.Stages
import GraphQuery.Proofs.Cypher.WrittenPatterns
import GraphQuery.Proofs.Execution.Identity

/-! # What a change acts on

A `Change` is a write on the nodes that a query matches: it sets properties, deletes the nodes, or adds
or drops labels.  It acts on the rows of the stage with which the select of the query begins, each node
once if there are optional patterns.  So the predicates of the query and the constraints of its relations
limit a change as they limit the select.

Nothing else in the query limits it.  A change is the same for all queries that have the same target
(`Query.SameTarget`), whatever their conditions on groups, their offset and their limit are.

* `Change.restricts` : both halves of this.
* `Change.ignores_limit` : a limit of the select that does not limit the change. -/

namespace GraphQuery

open GraphQuery.Cypher GraphQuery.Text

/-- The queries match the same nodes under the same conditions. Something may stand for the patterns or
the conditions of the first one, if it can be gone through. -/
structure Query.SameTarget (q q' : Query) : Prop where
  labels : q'.labels = q.labels
  patterns : q'.patterns = q.patterns
  wheres : q'.wheres = q.wheres
  grammar : q'.standIn? .grammar = q.standIn? .grammar
  walks : ∀ part, part = .patterns ∨ part = .wheres → q.walk part = .ok () → q'.walk part = .ok ()

namespace Query.SameTarget

variable {q q' : Query}

theorem of_copied {copy : Query} (h : q.copied = .ok copy) : q.SameTarget copy := by
  unfold QueryOver.copied at h
  obtain ⟨_, _, h⟩ := Result.bind_eq_ok h
  obtain ⟨_, _, h⟩ := Result.bind_eq_ok h
  obtain rfl := Except.ok.inj h
  refine ⟨rfl, rfl, rfl, ?_, fun part list _ => ?_⟩
  · unfold QueryOver.standIn?
    rw [List.find?_filter]
    refine congrArg (Option.map _) (congrArg (List.find? · q.standIns) (funext fun s => ?_))
    by_cases own : s.1 = .grammar <;> simp [own, QueryOver.listParts]
  · have listed : part ∈ QueryOver.listParts := by
      rcases list with rfl | rfl <;> decide
    have none : QueryOver.standIn? (P := Predicate) (S := SubQuery)
        { q with standIns := q.standIns.filter fun s => s.1 ∉ QueryOver.listParts } part = none := by
      unfold QueryOver.standIn?
      rw [List.find?_filter, List.find?_eq_none.mpr (fun s _ => ?_), Option.map_none]
      simpa using fun other same => other (same ▸ listed)
    unfold QueryOver.walk
    rw [none]

theorem refl (q : Query) : q.SameTarget q := ⟨rfl, rfl, rfl, rfl, fun _ _ => id⟩

theorem trans {q'' : Query} (h : q.SameTarget q') (h' : q'.SameTarget q'') : q.SameTarget q'' :=
  ⟨h'.labels.trans h.labels, h'.patterns.trans h.patterns, h'.wheres.trans h.wheres,
    h'.grammar.trans h.grammar, fun part list => h'.walks part list ∘ h.walks part list⟩

theorem of_aggregate (q : Query) (a : Option (Member Aggregate)) :
    q.SameTarget { q with aggregate := a } := ⟨rfl, rfl, rfl, rfl, fun _ _ => id⟩

theorem placeholder? (h : q.SameTarget q') : q'.placeholder? = q.placeholder? := by
  unfold Query.placeholder? QueryOver.ask
  rw [h.labels, h.grammar]

theorem requiredText (h : q.SameTarget q') {seen : Introduced} {r : String × Introduced}
    (e : Cypher.requiredText q seen = .ok r) : Cypher.requiredText q' seen = .ok r := by
  have names : q'.labelTexts = q.labelTexts := by unfold Query.labelTexts; rw [h.labels]
  obtain ⟨text, later⟩ := r
  cases requiredText_eq_ok_iff.mp e with
  | bare target walked clauses =>
    rw [← h.patterns] at clauses
    exact requiredText_eq_ok_iff.mpr
      (.bare (h.placeholder?.trans target) (h.walks _ (Or.inl rfl) walked) clauses)
  | primary target walked labelled clauses =>
    rw [← h.patterns, ← names] at clauses
    rw [← h.labels] at labelled
    exact requiredText_eq_ok_iff.mpr
      (.primary (h.placeholder?.trans target) (h.walks _ (Or.inl rfl) walked) labelled clauses)

theorem optionalText (h : q.SameTarget q') {write : String → String} {seen : Introduced}
    {r : String × Introduced} (e : Cypher.optionalText write q seen = .ok r) :
    Cypher.optionalText write q' seen = .ok r := by
  obtain ⟨text, later⟩ := r
  obtain ⟨walked, texts, clauses, same⟩ := optionalText_eq_ok_iff.mp e
  rw [← h.patterns] at clauses
  exact optionalText_eq_ok_iff.mpr ⟨h.walks _ (Or.inl rfl) walked, texts, clauses, same⟩

theorem whereText (h : q.SameTarget q') (write : String → String) (predicates : String) :
    Cypher.whereText write q' predicates = Cypher.whereText write q predicates := by
  unfold Cypher.whereText requiredConstraints
  rw [h.patterns, h.wheres]

theorem conditionsOf (h : q.SameTarget q') (write : String → String) :
    Cypher.conditionsOf write q' = Cypher.conditionsOf write q := by
  unfold Cypher.conditionsOf
  rw [h.wheres]

theorem matchStage (h : q.SameTarget q') {write : String → String} {conditions : Conditions}
    {seen : Introduced} {r : String × Introduced}
    (e : Cypher.matchStage write q conditions seen = .ok r) :
    Cypher.matchStage write q' conditions seen = .ok r := by
  unfold Cypher.matchStage at e ⊢
  obtain ⟨⟨required, before⟩, first, e⟩ := Result.bind_eq_ok e
  obtain ⟨⟨optional, after⟩, second, e⟩ := Result.bind_eq_ok e
  obtain ⟨_, walked, e⟩ := Result.bind_eq_ok e
  rw [h.requiredText first]
  show (Cypher.optionalText write q' before >>= _) = _
  rw [h.optionalText second]
  show (q'.walk .wheres >>= _) = _
  rw [h.walks _ (Or.inr rfl) walked]
  simp only [h.whereText]
  exact e

end Query.SameTarget

namespace Cypher

variable {q q' : Query}

/-! ### Selects -/

/-- A select begins with the stage of any query that has the same target. -/
theorem singleSelect_begins (same : q.SameTarget q') {stage : String} {seen : Introduced}
    (e : matchStage parameter q (conditionsOf parameter q) [] = .ok (stage, seen))
    {names : Option (List String)} {text : String} {columns : List String}
    (h : singleSelect parameter q' (conditionsOf parameter q) names = .ok (text, columns)) :
    ∃ rest, text = stage ++ rest := by
  rw [singleSelect_eq, same.matchStage e] at h
  obtain ⟨_, first, h⟩ := Result.bind_eq_ok h
  obtain rfl := Except.ok.inj first
  obtain ⟨⟨texts, columns⟩, _, h⟩ := Result.bind_eq_ok h
  obtain ⟨tail, whole⟩ := spaced_cons stage texts
  exact ⟨tail, (congrArg Prod.fst (Except.ok.inj h)).symm.trans whole⟩

theorem plainSelect_begins (same : q.SameTarget q') {stage : String} {seen : Introduced}
    (e : matchStage parameter q (conditionsOf parameter q) [] = .ok (stage, seen))
    {branches : List BranchText} {text : String}
    (h : plainSelect parameter q' (conditionsOf parameter q) branches = .ok text) :
    ∃ rest, text = stage ++ rest := by
  unfold plainSelect at h
  obtain ⟨⟨single, names⟩, selected, h⟩ := Result.bind_eq_ok h
  obtain ⟨_, _, h⟩ := Result.bind_eq_ok h
  rw [appendBranches_eq] at h
  obtain ⟨more, _, h⟩ := Result.bind_eq_ok h
  obtain ⟨rest, rfl⟩ := singleSelect_begins same e selected
  exact ⟨rest ++ more, (Except.ok.inj h).symm.trans String.append_assoc⟩

/-- The select of a query begins with the stage of it, behind a brace if it is an aggregate over a
union. -/
theorem selectText_begins {stage : String} {seen : Introduced}
    (e : matchStage parameter q (conditionsOf parameter q) [] = .ok (stage, seen)) {text : String}
    (h : selectText parameter q = .ok text) :
    ∃ rest, text = stage ++ rest ∨
      (q.hasBranches = true ∧ q.aggregate.isSome) ∧ text = "CALL \x7b " ++ stage ++ rest := by
  cases assembles_of_assembleSelect h with
  | plain _ selected =>
    obtain ⟨rest, whole⟩ := plainSelect_begins (.refl q) e selected
    exact ⟨rest, Or.inl whole⟩
  | @aggregate a copy _ projection joined own _ copied selected _ =>
    have same : q.SameTarget { copy with aggregate := none } :=
      (Query.SameTarget.of_copied copied).trans (.of_aggregate copy none)
    obtain ⟨rest, rfl⟩ := plainSelect_begins same e selected
    refine ⟨rest ++ " \x7d " ++ projection, Or.inr ⟨⟨joined, Option.isSome_of_eq_some own⟩, ?_⟩⟩
    simp only [String.append_assoc]

/-! ### Changes -/

/-- The keyword of an operation on labels. -/
def labelKeyword (operation : Value) : Result String :=
  match operation with
  | .text "add" => .ok "SET"
  | .text "drop" => .ok "REMOVE"
  | _ => .error (.render (.labelOperation operation.plainText))

theorem relabelText_eq (labels operation : Value) : relabelText q labels operation = (do
    let node ← writeTarget q "update labels"
    let keyword ← labelKeyword operation
    let target ← targetText q
    return target ++ " " ++ keyword ++ " " ++ node ++ (← labelsText labels) ++ affectedText node) := by
  unfold relabelText
  refine congrArg (writeTarget q "update labels" >>= ·) (funext fun node => ?_)
  dsimp only
  split
  · rfl
  · rfl
  · next add drop =>
    have none : labelKeyword operation =
        .error (.render (.labelOperation operation.plainText)) := by
      unfold labelKeyword
      split
      · exact (add rfl).elim
      · exact (drop rfl).elim
      · rfl
    rw [none]

/-- A write on the nodes that a query matches. -/
inductive Change where
  | update (assignments : Assignments)
  | delete
  | relabel (labels operation : Value)

namespace Change

/-- The text of a change. -/
def text (q : Query) : Change → Result String
  | update assignments => updateText q assignments
  | delete => deleteText q
  | relabel labels operation => relabelText q labels operation

/-- What a change does with each node, without a word on the rows. -/
def action (node : String) : Change → Result String
  | update assignments => .ok (" SET " ++ joined ", " (assignments.map fun a =>
      node ++ "." ++ quote a.1 ++ " = " ++ parameter a.2))
  | delete => .ok (" DETACH DELETE " ++ node)
  | relabel labels operation => do
    let keyword ← labelKeyword operation
    return " " ++ keyword ++ " " ++ node ++ (← labelsText labels)

theorem writeTarget_eq_ok {action node : String} :
    writeTarget q action = .ok node ↔ q.placeholder? = .ok (some node) := by
  unfold writeTarget
  cases q.placeholder? with
  | error e => exact ⟨nofun, nofun⟩
  | ok found =>
    cases found with
    | none => exact ⟨nofun, nofun⟩
    | some n =>
      constructor
      · exact fun h => congrArg _ (congrArg some (Except.ok.inj h))
      · exact fun h => congrArg _ (Option.some.inj (Except.ok.inj h))

/-- A change that succeeds is its target with its action. -/
theorem text_eq_ok {change : Change} {text : String} : change.text q = .ok text ↔
    ∃ node target action, q.placeholder? = .ok (some node) ∧ targetText q = .ok target ∧
      change.action node = .ok action ∧ text = target ++ action ++ affectedText node := by
  constructor
  · intro h
    cases change with
    | update assignments =>
      obtain ⟨node, found, h⟩ := Result.bind_eq_ok (show updateText q assignments = _ from h)
      obtain ⟨target, limited, h⟩ := Result.bind_eq_ok h
      refine ⟨node, target, _, writeTarget_eq_ok.mp found, limited, rfl, ?_⟩
      rw [← Except.ok.inj h]
      simp only [String.append_assoc]
    | delete =>
      obtain ⟨node, found, h⟩ := Result.bind_eq_ok (show deleteText q = _ from h)
      obtain ⟨target, limited, h⟩ := Result.bind_eq_ok h
      refine ⟨node, target, _, writeTarget_eq_ok.mp found, limited, rfl, ?_⟩
      rw [← Except.ok.inj h]
      simp only [String.append_assoc]
    | relabel labels operation =>
      obtain ⟨node, found, h⟩ := Result.bind_eq_ok ((relabelText_eq labels operation).symm.trans h)
      obtain ⟨keyword, known, h⟩ := Result.bind_eq_ok h
      obtain ⟨target, limited, h⟩ := Result.bind_eq_ok h
      obtain ⟨written, named, h⟩ := Result.bind_eq_ok h
      refine ⟨node, target, " " ++ keyword ++ " " ++ node ++ written, writeTarget_eq_ok.mp found,
        limited, ?_, ?_⟩
      · simp [action, known, named, bind, Except.bind, pure, Except.pure]
      · rw [← Except.ok.inj h]
        simp only [String.append_assoc]
  · rintro ⟨node, target, done, found, limited, acted, rfl⟩
    have node' (action : String) : writeTarget q action = .ok node := writeTarget_eq_ok.mpr found
    cases change with
    | update assignments =>
      obtain rfl := Except.ok.inj acted
      show updateText q assignments = _
      simp only [updateText, node', limited, bind, Except.bind, pure, Except.pure, String.append_assoc]
    | delete =>
      obtain rfl := Except.ok.inj acted
      show deleteText q = _
      simp only [deleteText, node', limited, bind, Except.bind, pure, Except.pure, String.append_assoc]
    | relabel labels operation =>
      obtain ⟨keyword, known, acted⟩ := Result.bind_eq_ok acted
      obtain ⟨written, named, acted⟩ := Result.bind_eq_ok acted
      obtain rfl := Except.ok.inj acted
      show relabelText q labels operation = _
      rw [relabelText_eq]
      simp only [node', known, named, limited, bind, Except.bind, pure, Except.pure,
        String.append_assoc]

end Change

/-- What stands between the stage and the action: with optional patterns, each node is taken once. -/
def onceText (q : Query) (node : String) : String :=
  if q.patterns.any fun p => p.clause?.any (·.isOptional) then " WITH DISTINCT " ++ node else ""

theorem targetText_eq_ok {node target : String} (found : q.placeholder? = .ok (some node)) :
    targetText q = .ok target ↔
      ∃ stage seen, matchStage parameter q (conditionsOf parameter q) [] = .ok (stage, seen) ∧
        target = stage ++ onceText q node := by
  unfold targetText onceText
  cases matchStage parameter q (conditionsOf parameter q) [] with
  | error e => exact ⟨nofun, nofun⟩
  | ok r =>
    obtain ⟨stage, seen⟩ := r
    show (if _ then _ else _) = Except.ok target ↔ _
    rw [found]
    constructor
    · intro h
      refine ⟨stage, seen, rfl, ?_⟩
      split at h <;> rename_i optional
      · rw [if_pos optional, ← Except.ok.inj h, String.append_assoc]
        rfl
      · rw [if_neg optional, ← Except.ok.inj h, String.append_empty]
    · rintro ⟨_, _, same, rfl⟩
      obtain ⟨rfl, rfl⟩ := Prod.mk.inj (Except.ok.inj same)
      split
      · rw [← String.append_assoc]
        rfl
      · rw [String.append_empty]
        rfl

/-- Whatever acts on the nodes that a query matches acts on the stage with which the select of the query
begins, each node once, and on nothing less: it is the same for every query with the same target. -/
theorem Change.restricts (change : Change) {q : Query} {text : String}
    (h : change.text q = .ok text) :
    (∃ node stage seen action, q.placeholder? = .ok (some node) ∧
      matchStage parameter q (conditionsOf parameter q) [] = .ok (stage, seen) ∧
      change.action node = .ok action ∧
      text = stage ++ onceText q node ++ action ++ affectedText node ∧
      ∀ selected, selectText parameter q = .ok selected → ∃ rest, selected = stage ++ rest ∨
        (q.hasBranches = true ∧ q.aggregate.isSome) ∧ selected = "CALL \x7b " ++ stage ++ rest) ∧
    ∀ q', q.SameTarget q' → change.text q' = .ok text := by
  obtain ⟨node, target, action, found, limited, acted, rfl⟩ := text_eq_ok.mp h
  obtain ⟨stage, seen, staged, rfl⟩ := (targetText_eq_ok found).mp limited
  refine ⟨⟨node, stage, seen, action, found, staged, acted, rfl,
    fun selected => selectText_begins staged⟩, fun q' same => ?_⟩
  have found' : q'.placeholder? = .ok (some node) := same.placeholder?.trans found
  have once : onceText q' node = onceText q node := by
    unfold onceText
    rw [same.patterns]
  have staged' : matchStage parameter q' (conditionsOf parameter q') [] = .ok (stage, seen) := by
    rw [same.conditionsOf]
    exact same.matchStage staged
  exact text_eq_ok.mpr ⟨node, _, action, found',
    (targetText_eq_ok found').mpr ⟨stage, seen, staged', rfl⟩, acted, by rw [once]⟩

/-- A delete with a predicate acts on the stage with the predicate. -/
theorem Change.restricts_compared :
    let q := (LiveQuery.afterCalls [.target (.text "User"), .equals (.text "age") (.int 30)]).query
    let text := "MATCH (user:User) WHERE user.age = $age DETACH DELETE user RETURN count(user) AS affected"
    Change.delete.text q = .ok text ∧
    (∃ node stage seen action, q.placeholder? = .ok (some node) ∧
      matchStage parameter q (conditionsOf parameter q) [] = .ok (stage, seen) ∧
      Change.delete.action node = .ok action ∧
      text = stage ++ onceText q node ++ action ++ affectedText node ∧
      ∀ selected, selectText parameter q = .ok selected → ∃ rest, selected = stage ++ rest ∨
        (q.hasBranches = true ∧ q.aggregate.isSome) ∧ selected = "CALL \x7b " ++ stage ++ rest) ∧
    ∀ q', q.SameTarget q' → Change.delete.text q' = .ok text := by
  intro q text
  have written : Change.delete.text q = .ok text := Result.of_toOption (by decide +kernel)
  exact ⟨written, Change.delete.restricts written⟩

/-- A limit of the select does not limit a delete, and is not refused either. -/
theorem Change.ignores_limit :
    let q := (LiveQuery.afterCalls [.target (.text "User"), .limit (.int 1)]).query
    (selectText parameter q).toOption = some "MATCH (user:User) RETURN user LIMIT 1" ∧
    (Change.delete.text q).toOption =
      some "MATCH (user:User) DETACH DELETE user RETURN count(user) AS affected" := by
  decide +kernel

end Cypher

end GraphQuery
