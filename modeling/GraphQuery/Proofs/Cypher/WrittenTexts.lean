import GraphQuery.Proofs.Cypher.Pairings
import GraphQuery.Proofs.Cypher.QuietClauses
import GraphQuery.Proofs.Cypher.Targets

/-! # What the texts of writes carry

Whatever properties are called, the text of a write carries one pairing for each property that is
written, and one for each list of identities to attach.

* `createText_carries`, `insertText_carries`, `createWithText_carries` : a text that creates nodes,
  with the properties of each new node in braces.
* `changes_carry` : what stands behind the nodes to change. -/

namespace GraphQuery.Cypher

open GraphQuery GraphQuery.Text

variable {q : Query} {node : String}

theorem writeTarget_silent {action : String} (h : writeTarget q action = .ok node) : Silent node :=
  (placeholder?_isPlainText (Change.writeTarget_eq_ok.mp h)).2.silent

theorem carries_joined_map {α : Type} {seam : String} (between : IsSeam seam) {xs : List α}
    {pairing : α → Pairing} {text : α → String} (h : ∀ x ∈ xs, Carries [pairing x] (text x)) :
    Carries (xs.map pairing) (joined seam (xs.map text)) := by
  have each : List.Forall₂ Carries (xs.map fun x => [pairing x]) (xs.map text) :=
    List.forall₂_map_left_iff.mpr (List.forall₂_map_right_iff.mpr (List.forall₂_same.mpr h))
  have whole := carries_joined between each
  rwa [← List.flatMap_def, ← List.map_eq_flatMap] at whole

/-! ### New nodes -/

/-- The pairings of the properties of a new node. -/
def Assignments.pairings (assignments : Assignments) : List Pairing :=
  assignments.map fun a => ⟨quote a.1 ++ ": ", spoken a.2⟩

theorem propertiesText_carries {front : String} (silent : Silent front) (assignments : Assignments) :
    Carries assignments.pairings (front ++ propertiesText assignments) := by
  unfold propertiesText
  split
  · next empty =>
    obtain rfl := List.isEmpty_iff.mp empty
    rw [String.append_empty]
    exact silent.carries_nil
  · have colon : Silent ": " := by decide
    have blank : Silent " " := by decide
    have inside : Carries assignments.pairings
        (joined ", " (assignments.map fun a => quote a.1 ++ ": " ++ parameter a.2)) :=
      carries_joined_map (by decide) fun a _ => carries_parameter ((silent_quote a.1).append colon) a.2
    exact inside.brackets (silent.append blank) '\x7b' '\x7d' (by decide) (by decide)
      (by simp [String.toList_append])

theorem newNode_carries {front labels : String} (silent : Silent front) (labelled : Silent labels)
    (assignments : Assignments) :
    Carries assignments.pairings ("(" ++ front ++ labels ++ propertiesText assignments ++ ")") :=
  (propertiesText_carries (silent.append labelled) assignments).brackets silent_empty '(' ')'
    (by decide) (by decide) (by simp [String.toList_append])

theorem createText_carries {assignments : Assignments} {text : String}
    (h : createText q assignments = .ok text) : Carries assignments.pairings text := by
  obtain ⟨node, target, h⟩ := Result.bind_eq_ok h
  obtain ⟨labels, labelled, h⟩ := Result.bind_eq_ok h
  obtain rfl := Except.ok.inj h
  have front : Silent "CREATE " := by decide
  have silent := writeTarget_silent target
  have shape : "CREATE (" ++ node ++ labels ++ propertiesText assignments ++ ") RETURN " ++ node =
      "CREATE " ++ ("(" ++ node ++ labels ++ propertiesText assignments ++ ")") ++ " RETURN " ++
        node := by
    simp [← String.toList_inj, String.toList_append]
  rw [shape]
  exact (front.carries (newNode_carries silent (labelsText_silent labelled) assignments)).close
    (by decide) silent

theorem numbered_silent {base : String} (h : Silent base) (index : Nat) :
    Silent (numbered base index) := by
  have line : Silent "_" := by decide
  unfold numbered
  split
  · exact h
  · exact (h.append line).append (silent_toString (index + 1 : Nat))

theorem newNodes_carries {base labels : String} (silent : Silent base) (labelled : Silent labels) :
    ∀ (index : Nat) (records : List Assignments),
      List.Forall₂ Carries (records.map Assignments.pairings) (newNodes base labels index records)
  | _, [] => .nil
  | index, record :: rest =>
    .cons (newNode_carries (numbered_silent silent index) labelled record)
      (newNodes_carries silent labelled (index + 1) rest)

theorem insertText_carries {records : List Assignments} {text : String}
    (h : insertText q records = .ok text) : Carries (records.flatMap Assignments.pairings) text := by
  obtain ⟨node, target, h⟩ := Result.bind_eq_ok h
  obtain ⟨labels, labelled, h⟩ := Result.bind_eq_ok h
  obtain rfl := Except.ok.inj h
  have front : Silent "CREATE " := by decide
  have nodes := carries_joined (by decide : IsSeam ", ")
    (newNodes_carries (writeTarget_silent target) (labelsText_silent labelled) 0 records)
  rw [← List.flatMap_def] at nodes
  exact front.carries nodes

/-! ### Related nodes -/

theorem storedRelation_carries (silent : Silent node) (relationship : String) {far : String}
    {ps : List Pairing} (h : Carries ps far) (direction : Direction) :
    Carries ps (relationText ("(" ++ node ++ ")") (":" ++ quote relationship) far direction) := by
  have colon : Silent ":" := by decide
  have inside : Carries [] ("[" ++ (":" ++ quote relationship) ++ "]") :=
    (colon.append (silent_quote relationship)).carries_nil.brackets silent_empty '[' ']'
      (by decide) (by decide) (by simp [String.toList_append])
  obtain ⟨before, after, hbefore, hafter, shape⟩ :=
    relationText_eq ("(" ++ node ++ ")") (":" ++ quote relationship) far direction
  rw [shape]
  exact (silent.carries_nil.parentheses.behind hbefore inside).behind hafter h

theorem newRelations_carries (silent : Silent node) {r : RelatedCreation} (far : Silent r.placeholder) :
    List.Forall₂ Carries (r.creates.map Assignments.pairings) (newRelations node r) :=
  List.forall₂_map_right_iff.mpr ((newNodes_carries far (labelText_silent r.labels) 0 r.creates).imp
    fun _ _ carried => storedRelation_carries silent r.relationship carried _)

/-- The pairing of the identities to attach. -/
def attachPairing (r : RelatedCreation) (binding : String) : Pairing :=
  ⟨"id(" ++ (r.placeholder ++ "_attached") ++ ")" ++ " IN ", spoken binding⟩

/-- The pairings of all identities to attach. -/
def attachPairings (related : List RelatedCreation) : List Pairing :=
  related.filterMap fun r => (r.attach.filter (· ≠ "")).map (attachPairing r)

theorem attachText_carries (silent : Silent node) {r : RelatedCreation} (far : Silent r.placeholder)
    (binding : String) : Carries [attachPairing r binding] (attachText node r binding) := by
  have tail : Silent "_attached" := by decide
  have front : Silent "WITH " := by decide
  have within : Silent " IN " := by decide
  have silentFar : Silent (r.placeholder ++ "_attached") := far.append tail
  unfold attachText attachPairing
  dsimp only
  generalize r.placeholder ++ "_attached" = far at silentFar ⊢
  have labelled : Carries [] ("(" ++ far ++ labelText r.labels ++ ")") :=
    (silentFar.append (labelText_silent r.labels)).carries_nil.brackets silent_empty '(' ')' (by decide)
      (by decide) (by simp [String.toList_append])
  have among := carries_parameter (silentFar.identity.append within) binding
  have merged : Carries [] (relationText ("(" ++ node ++ ")") (":" ++ quote r.relationship)
      ("(" ++ far ++ ")") (storedDirection r.direction)) :=
    storedRelation_carries silent r.relationship silentFar.carries_nil.parentheses _
  have inside := (((front.append silent).carries_nil.behind (by decide : IsSeam " MATCH ")
    labelled).behind (by decide : IsSeam " WHERE ") among).behind (by decide : IsSeam " MERGE ") merged
  have blank : Silent " " := by decide
  have call : Silent "CALL " := by decide
  exact ((blank.carries inside).close isSeam_blank silent_empty).brackets call '\x7b' '\x7d'
    (by decide) (by decide) (by simp [String.toList_append])

section related

variable {related : List RelatedCreation} (silent : Silent node)
  (far : ∀ r ∈ related, Silent r.placeholder)

include silent far

theorem relatedNodes_carry : List.Forall₂ Carries
    (related.flatMap fun r => r.creates.map Assignments.pairings)
    (related.flatMap (newRelations node)) := by
  induction related with
  | nil => exact .nil
  | cons r rest ih =>
    obtain ⟨first, others⟩ := List.forall_mem_cons.mp far
    exact List.rel_append (newRelations_carries silent first) (ih others)

theorem attachments_carry :
    List.Forall₂ Carries ((attachPairings related).map fun p => [p]) (attachments node related) := by
  induction related with
  | nil => exact .nil
  | cons r rest ih =>
    obtain ⟨first, others⟩ := List.forall_mem_cons.mp far
    unfold attachPairings attachments at ih ⊢
    rw [List.filterMap_cons, List.filterMap_cons]
    cases r.attach.filter (· ≠ "") with
    | none => exact ih others
    | some binding => exact .cons (attachText_carries silent first binding) (ih others)

end related

/-- A new node with related ones: its properties come first, then those of the related nodes, and at
last the identities to attach. -/
theorem createWithText_carries {assignments : Assignments} {related : List RelatedCreation}
    (far : ∀ r ∈ related, Silent r.placeholder) {text : String}
    (h : createWithText q assignments related = .ok text) :
    Carries (assignments.pairings ++ related.flatMap (fun r => r.creates.flatMap Assignments.pairings) ++
      attachPairings related) text := by
  obtain ⟨node, target, h⟩ := Result.bind_eq_ok h
  obtain ⟨labels, labelled, h⟩ := Result.bind_eq_ok h
  obtain rfl := Except.ok.inj h
  have front : Silent "CREATE " := by decide
  have silent := writeTarget_silent target
  have patterns := front.carries (carries_joined (by decide : IsSeam ", ")
    (.cons (newNode_carries silent (labelsText_silent labelled) assignments)
      (relatedNodes_carry silent far)))
  have attached := attachments_carry silent far
  have flat : (related.flatMap fun r => r.creates.map Assignments.pairings).flatten =
      related.flatMap fun r => r.creates.flatMap Assignments.pairings := by
    rw [List.flatten_eq_flatMap, List.flatMap_assoc]
    simp [List.flatMap_map]
  rw [List.flatten_cons, flat] at patterns
  split
  · next empty =>
    rw [List.isEmpty_iff.mp empty, List.forall₂_nil_right_iff, List.map_eq_nil_iff] at attached
    rw [attached, List.append_nil, String.append_empty]
    exact patterns.close (by decide) silent
  · have joint := carries_joined isSeam_blank attached
    rw [← List.flatMap_def, List.flatMap_singleton'] at joint
    have shape : ∀ a b c : String,
        a ++ (" WITH " ++ b ++ " " ++ c) = a ++ " WITH " ++ b ++ " " ++ c := by
      intro a b c
      simp [← String.toList_inj, String.toList_append]
    rw [shape]
    exact ((patterns.close (by decide : IsSeam " WITH ") silent).spaced joint).close (by decide) silent

/-! ### Changes -/

theorem affectedText_eq (text node : String) : text ++ affectedText node =
    text ++ " RETURN " ++ ("count(" ++ node ++ ")") ++ " AS affected" := by
  have front : " RETURN count(" = " RETURN " ++ "count(" := rfl
  have back : ") AS affected" = ")" ++ " AS affected" := rfl
  unfold affectedText
  rw [front, back]
  simp only [String.append_assoc]

/-- The pairings of properties that are set on a node. -/
def Assignments.changes (node : String) (assignments : Assignments) : List Pairing :=
  assignments.map fun a => ⟨node ++ "." ++ quote a.1 ++ " = ", spoken a.2⟩

/-- The properties that are set. -/
def setsText (node : String) (assignments : Assignments) : String :=
  joined ", " (assignments.map fun a => node ++ "." ++ quote a.1 ++ " = " ++ parameter a.2)

theorem setsText_carries (silent : Silent node) (assignments : Assignments) :
    Carries (assignments.changes node) (setsText node assignments) := by
  have point : Silent "." := by decide
  have equals : Silent " = " := by decide
  exact carries_joined_map (by decide) fun a _ =>
    carries_parameter (((silent.append point).append (silent_quote a.1)).append equals) a.2

theorem changes_carry (silent : Silent node) (assignments : Assignments) :
    Carries (assignments.changes node) (" SET " ++ setsText node assignments ++ affectedText node) := by
  have front : Silent " SET " := by decide
  have count : Silent "count" := by decide
  have rows : Carries [] ("count(" ++ node ++ ")") :=
    silent.carries_nil.brackets count '(' ')' (by decide) (by decide) (by simp [String.toList_append])
  rw [affectedText_eq]
  have whole := ((front.carries (setsText_carries silent assignments)).behind
    (by decide : IsSeam " RETURN ") rows).close (by decide : IsSeam " AS affected") silent_empty
  simpa using whole

/-- A text that sets properties acts on the nodes that match. -/
theorem updateText_eq {assignments : Assignments} {text : String}
    (h : updateText q assignments = .ok text) : ∃ node target, q.placeholder? = .ok (some node) ∧
      targetText q = .ok target ∧
        text = target ++ (" SET " ++ setsText node assignments ++ affectedText node) := by
  obtain ⟨node, target, action, found, picked, written, rfl⟩ :=
    Change.text_eq_ok.mp (show (Change.update assignments).text q = .ok text from h)
  obtain rfl := Except.ok.inj written
  exact ⟨node, target, found, picked, String.append_assoc ..⟩

end GraphQuery.Cypher
