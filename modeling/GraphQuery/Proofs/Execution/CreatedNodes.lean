import GraphQuery.Proofs.Binding.FreshName
import GraphQuery.Proofs.Execution.Identity
import GraphQuery.Proofs.Execution.RelatedSlots

/-! # The variables of created nodes

A node that is created together with related ones stands under its placeholder, new related nodes under
the placeholder of their relation and its candidates, and nodes that are attached under the placeholder
with a word behind it.  The placeholder of a relation comes from its name, where capital letters and all
signs between words are lost, and nothing keeps the variables of different relations apart.

* `RelatedGroup.Meets` : two relations with a variable in common (`disjoint_names_iff`);
* `createWithText_nodes` : the nodes of a text that creates a node with related ones;
* `createWithStatement_variables` : which variables a statement introduces, and when they are different. -/

namespace GraphQuery

open GraphQuery.Binding GraphQuery.Cypher GraphQuery.Text

/-! ### Relations -/

/-- The nodes of one relation: the placeholder, how many nodes are created, and whether nodes are
attached. -/
structure RelatedGroup where
  placeholder : String
  created : Nat
  attaches : Bool
deriving DecidableEq

namespace RelatedGroup

variable {g g' : RelatedGroup}

/-- The variable of the nodes that are attached. -/
def attachedName (g : RelatedGroup) : String := g.placeholder ++ "_attached"

/-- The variables under which the nodes of a relation stand. -/
def names (g : RelatedGroup) : List String :=
  (List.range g.created).map (candidate g.placeholder) ++
    if g.attaches then [g.attachedName] else []

/-- Two relations with a variable in common: both attach nodes under one placeholder, or one creates a
node, and its placeholder is a variable of the other one. -/
inductive Meets : RelatedGroup → RelatedGroup → Prop
  | attached {g g' : RelatedGroup} : g.attaches → g'.attaches → g.placeholder = g'.placeholder →
      Meets g g'
  | forward {g g' : RelatedGroup} : 0 < g'.created → g'.placeholder ∈ g.names → Meets g g'
  | backward {g g' : RelatedGroup} : 0 < g.created → g.placeholder ∈ g'.names → Meets g g'

theorem mem_names {name : String} : name ∈ g.names ↔
    (∃ i < g.created, candidate g.placeholder i = name) ∨ (g.attaches ∧ g.attachedName = name) := by
  cases h : g.attaches <;> simp [names, h, eq_comm]

theorem attachedName_eq (g : RelatedGroup) : g.attachedName = g.placeholder ++ "_" ++ "attached" := by
  rw [attachedName, String.append_assoc]
  rfl

theorem placeholder_mem_names (h : 0 < g.created) : g.placeholder ∈ g.names :=
  mem_names.mpr (Or.inl ⟨0, h, rfl⟩)

/-- A new node is called like attached ones only if it is the first one. -/
theorem candidate_eq_attachedName {n : Nat} :
    candidate g.placeholder n = g'.attachedName ↔ n = 0 ∧ g.placeholder = g'.attachedName := by
  rw [attachedName_eq]
  exact candidate_eq_append_word (by decide) ⟨'a', by decide, by decide⟩

theorem nodup_names (g : RelatedGroup) : g.names.Nodup := by
  refine List.Nodup.append (List.nodup_range.map (candidate_injective _)) ?_ ?_
  · cases g.attaches <;> simp
  · intro name new attached
    obtain ⟨i, -, rfl⟩ := List.mem_map.mp new
    split at attached
    · obtain ⟨-, same⟩ := candidate_eq_attachedName.mp (List.mem_singleton.mp attached)
      have lengths := congrArg String.length same
      have word : "_attached".length = 9 := rfl
      rw [attachedName, String.length_append] at lengths
      omega
    · cases attached

theorem meets_of_mem {name : String} (h : name ∈ g.names) (h' : name ∈ g'.names) :
    g.Meets g' := by
  -- under different placeholders, one of the two names has neither a number nor the word: it is the bare
  -- placeholder of its relation, which then creates a node
  rcases mem_names.mp h with ⟨i, created, same⟩ | ⟨attaches, same⟩
  · rcases mem_names.mp h' with ⟨j, created', same'⟩ | ⟨attaches', same'⟩
    · rcases candidate_eq_iff.mp (same.trans same'.symm) with ⟨alike, -⟩ | ⟨-, far⟩ | ⟨-, near⟩
      · exact .forward (by omega) (alike ▸ placeholder_mem_names (by omega))
      · exact .forward (by omega) (mem_names.mpr (Or.inl ⟨i, created, far.symm⟩))
      · exact .backward (by omega) (mem_names.mpr (Or.inl ⟨j, created', near.symm⟩))
    · obtain ⟨-, near⟩ := candidate_eq_attachedName.mp (same.trans same'.symm)
      exact .backward (by omega) (mem_names.mpr (Or.inr ⟨attaches', near.symm⟩))
  · rcases mem_names.mp h' with ⟨j, created', same'⟩ | ⟨attaches', same'⟩
    · obtain ⟨-, far⟩ := candidate_eq_attachedName.mp (same'.trans same.symm)
      exact .forward (by omega) (mem_names.mpr (Or.inr ⟨attaches, far.symm⟩))
    · have both : g.placeholder ++ "_attached" = g'.placeholder ++ "_attached" := same.trans same'.symm
      exact .attached attaches attaches' ((String.append_left_inj _).mp both)

/-- Relations have no variable in common exactly if they do not meet. -/
theorem disjoint_names_iff : g.names.Disjoint g'.names ↔ ¬ g.Meets g' := by
  constructor
  · intro disjoint meets
    cases meets with
    | attached attaches attaches' same =>
      exact disjoint (mem_names.mpr (Or.inr ⟨attaches, rfl⟩))
        (mem_names.mpr (Or.inr ⟨attaches', by rw [attachedName, attachedName, same]⟩))
    | forward created member => exact disjoint member (placeholder_mem_names created)
    | backward created member => exact disjoint (placeholder_mem_names created) member
  · exact fun apart name member member' => apart (meets_of_mem member member')

/-- The variables of a node and of its relations are different if the node has none of the others, and no
two relations meet. -/
theorem nodup_names_iff {node : String} {groups : List RelatedGroup} :
    (node :: groups.flatMap names).Nodup ↔
      (∀ g ∈ groups, node ∉ g.names) ∧ groups.Pairwise fun g g' => ¬ g.Meets g' := by
  rw [List.nodup_cons, List.nodup_flatMap]
  refine and_congr (by simp) ?_
  rw [and_iff_right fun g _ => g.nodup_names]
  exact List.Pairwise.iff fun _ _ => disjoint_names_iff

end RelatedGroup

/-- The nodes of a relation whose values are bound. -/
def RelatedCreation.group (r : RelatedCreation) : RelatedGroup :=
  ⟨r.placeholder, r.creates.length, (r.attach.filter (· ≠ "")).isSome⟩

/-- The nodes for which a request asks. -/
def relatedGroup (entry : Value × Value) : Result RelatedGroup := do
  let request ← readRequest entry.2
  let name ← relatedName entry.1
  match request with
  | .inl nodes => return ⟨relatedPlaceholder name, nodes.values.length, !nodes.ids.isEmpty⟩
  | .inr request =>
    return ⟨relatedPlaceholder name, (← request.records).length, request.ids.isTruthy⟩

/-! ### The nodes of a text -/

/-- A node that a text introduces under a variable: the one that is created with related ones, a new
related one with its number, and those that are attached. -/
inductive CreatedNode where
  | target (labels : String) (properties : Assignments)
  | related (r : RelatedCreation) (index : Nat) (properties : Assignments)
  | attached (r : RelatedCreation) (binding : String)

namespace CreatedNode

/-- The variable of a node. -/
def name (node : String) : CreatedNode → String
  | .target _ _ => node
  | .related r index _ => numbered r.placeholder index
  | .attached r _ => r.group.attachedName

/-- What is written for a node. -/
def text (node : String) : CreatedNode → String
  | .target labels properties => "(" ++ node ++ labels ++ propertiesText properties ++ ")"
  | .related r index properties => relationText ("(" ++ node ++ ")") (":" ++ quote r.relationship)
      ("(" ++ numbered r.placeholder index ++ labelText r.labels ++ propertiesText properties ++ ")")
      (storedDirection r.direction)
  | .attached r binding => attachText node r binding

end CreatedNode

/-- The new nodes of a relation. -/
def RelatedCreation.createdNodes (r : RelatedCreation) : List CreatedNode :=
  r.creates.zipIdx.map fun p => .related r p.2 p.1

/-- The nodes that a relation attaches, under one variable if there are any. -/
def RelatedCreation.attachedNodes (r : RelatedCreation) : List CreatedNode :=
  ((r.attach.filter (· ≠ "")).map (CreatedNode.attached r)).toList

/-- The text that creates nodes, and then attaches others to the first one. -/
def creationText (node : String) (created attached : List CreatedNode) : String :=
  "CREATE " ++ joined ", " (created.map (·.text node)) ++
    (if attached.isEmpty then ""
      else " WITH " ++ node ++ " " ++ joined " " (attached.map (·.text node))) ++ " RETURN " ++ node

namespace Cypher

theorem newNodes_eq (base labels : String) : ∀ (records : List Assignments) (index : Nat),
    newNodes base labels index records = (records.zipIdx index).map fun p =>
      "(" ++ numbered base p.2 ++ labels ++ propertiesText p.1 ++ ")"
  | [], _ => rfl
  | record :: rest, index => by
    rw [newNodes, newNodes_eq base labels rest, List.zipIdx_cons, List.map_cons]

theorem newRelations_eq (node : String) (r : RelatedCreation) :
    newRelations node r = r.createdNodes.map (·.text node) := by
  rw [newRelations, newNodes_eq, List.map_map, RelatedCreation.createdNodes, List.map_map]
  rfl

theorem attachments_eq (node : String) (related : List RelatedCreation) :
    attachments node related = (related.flatMap (·.attachedNodes)).map (·.text node) := by
  rw [attachments, List.filterMap_eq_flatMap_toList, List.map_flatMap]
  refine List.flatMap_congr fun r _ => ?_
  rw [RelatedCreation.attachedNodes]
  cases r.attach.filter (· ≠ "") <;> rfl

theorem createWithText_nodes {q : Query} {assignments : Assignments} {related : List RelatedCreation}
    {text : String} (h : createWithText q assignments related = .ok text) :
    ∃ node labels, q.placeholder? = .ok (some node) ∧ labelsText q.labels = .ok labels ∧
      text = creationText node (.target labels assignments :: related.flatMap (·.createdNodes))
        (related.flatMap (·.attachedNodes)) := by
  obtain ⟨node, target, h⟩ := Result.bind_eq_ok h
  obtain ⟨labels, labelled, h⟩ := Result.bind_eq_ok h
  refine ⟨node, labels, Change.writeTarget_eq_ok.mp target, labelled, ?_⟩
  have created : related.flatMap (newRelations node) =
      (related.flatMap (·.createdNodes)).map (·.text node) := by
    rw [List.map_flatMap]
    exact List.flatMap_congr fun r _ => newRelations_eq node r
  rw [← Except.ok.inj h, created, attachments_eq, creationText, List.isEmpty_map]
  rfl

end Cypher

/-! ### The variables of a text -/

theorem numbered_eq_candidate (base : String) : ∀ index, numbered base index = candidate base index
  | 0 => rfl
  | _ + 1 => rfl

namespace RelatedCreation

theorem map_name_nodes (node : String) (r : RelatedCreation) :
    (r.createdNodes ++ r.attachedNodes).map (CreatedNode.name node) = r.group.names := by
  have created : r.createdNodes.map (CreatedNode.name node) =
      (List.range r.creates.length).map (candidate r.placeholder) := by
    rw [List.range_eq_range', ← List.zipIdx_map_snd, createdNodes, List.map_map, List.map_map]
    exact List.map_congr_left fun p _ => numbered_eq_candidate r.placeholder p.2
  rw [List.map_append, created, RelatedGroup.names, attachedNodes, group]
  cases r.attach.filter (· ≠ "") <;> rfl

/-- The variables of the nodes of all relations: new nodes are written before those that are attached. -/
theorem names_perm (node : String) (related : List RelatedCreation) :
    ((related.flatMap (·.createdNodes) ++ related.flatMap (·.attachedNodes)).map
      (CreatedNode.name node)).Perm (related.flatMap (·.group.names)) := by
  simp only [← map_name_nodes node, ← List.map_flatMap]
  exact (List.flatMap_append_perm related _ _).map _

end RelatedCreation

/-! ### What is asked for -/

open GraphQuery.Schema

theorem Checked.length_of_eachFrom {α β : Type} {check : α → Checked β} : ∀ {xs : List α} {index : Nat}
    {ys : List β}, Checked.eachFrom check index xs = .ok ys → ys.length = xs.length
  | [], _, _, h => by
    obtain rfl := Except.ok.inj h
    rfl
  | x :: xs, index, ys, h => by
    obtain ⟨p, found, rfl⟩ := Checked.map_eq_ok h
    obtain ⟨-, others⟩ := Checked.and_eq_ok found
    rw [List.length_cons, List.length_cons, length_of_eachFrom others]

section Requests

variable {w : WriteFrame} {name : String} {ids : List Int} {taken taken' : Properties}

theorem isSome_attached {given : Bool} {attached : List Slot}
    (asked : attached.map (·.item) = if given then [attachItem name ids] else []) :
    (((attached.map Slot.assignment).head?.map (·.2)).filter (· ≠ "")).isSome = given := by
  cases given with
  | false => rw [List.map_eq_nil_iff.mp asked]; rfl
  | true =>
    obtain ⟨s, rfl, -⟩ := List.map_eq_singleton_iff.mp asked
    simp [Slot.assignment, s.spelled.ne_empty]

theorem length_eq_of_items {created : List (List Slot)} {records : List Properties}
    (same : created.map (·.map (·.item)) = records.map newItems) : created.length = records.length := by
  simpa using congrArg List.length same

theorem RelatedNodes.group_allocate (w : WriteFrame) (name : String) (r : RelatedNodes)
    (taken : Properties) : (r.allocate w name taken).1.group =
      ⟨relatedPlaceholder name, r.values.length, !r.ids.isEmpty⟩ := by
  obtain ⟨attached, created, asked, same, -, step⟩ := r.allocate_eq w name taken
  rw [step, RelatedCreation.group, isSome_attached asked, List.length_map, length_eq_of_items same]

theorem RelatedRequest.group_allocate {r : RelatedRequest} {creation : RelatedCreation}
    (h : r.allocate w name taken = .ok (creation, taken')) : ∃ records, r.records = .ok records ∧
      creation.group = ⟨relatedPlaceholder name, records.length, r.ids.isTruthy⟩ := by
  obtain ⟨ids, records, attached, created, -, read, asked, same, -, -, placeholder, creates, attach⟩ :=
    RelatedRequest.allocate_eq_ok h
  have number : creation.creates.length = records.length := by
    rw [Checked.length_of_eachFrom creates, List.length_map, List.length_map, length_eq_of_items same]
  refine ⟨records, read, ?_⟩
  rw [RelatedCreation.group, attach, isSome_attached asked, placeholder, number]

theorem allocateRelated_groups : ∀ {requests : List (Value × Value)} {taken taken' : Properties}
    {creations : List RelatedCreation}, allocateRelated w requests taken = .ok (creations, taken') →
      requests.mapM relatedGroup = .ok (creations.map (·.group))
  | [], _, _, _, h => by
    obtain ⟨rfl, -⟩ := Prod.mk.inj (Except.ok.inj h)
    rfl
  | (key, options) :: rest, taken, taken', creations, h => by
    obtain ⟨request, read, h⟩ := Result.bind_eq_ok h
    obtain ⟨name, named, h⟩ := Result.bind_eq_ok h
    obtain ⟨⟨creation, between⟩, bound, h⟩ := Result.bind_eq_ok h
    obtain ⟨⟨later, last⟩, following, h⟩ := Result.bind_eq_ok h
    obtain ⟨rfl, -⟩ := Prod.mk.inj (Except.ok.inj h)
    have first : relatedGroup (key, options) = .ok creation.group := by
      unfold relatedGroup
      rw [read, named]
      cases request with
      | inl nodes =>
        have group := nodes.group_allocate w name taken
        rw [Except.ok.inj bound] at group
        exact congrArg Except.ok group.symm
      | inr request =>
        obtain ⟨records, given, group⟩ := RelatedRequest.group_allocate bound
        show (do return ⟨relatedPlaceholder name, (← request.records).length, request.ids.isTruthy⟩ :
          Result RelatedGroup) = _
        rw [given]
        exact congrArg Except.ok group.symm
    rw [List.mapM_cons, first, allocateRelated_groups following]
    rfl

end Requests

/-! ### Statements -/

namespace LiveQuery

/-- A statement that creates a node with related ones introduces a variable for this node, for every new
related one and for every relation that attaches nodes.  They differ from each other exactly if the node
is called like none of the others, and no two relations meet. -/
theorem createWithStatement_variables {l : LiveQuery} {values related : Value} {text : String}
    {written : Properties} (h : l.createWithStatement values related = .ok (text, written)) :
    ∃ node target created attached groups, l.query.placeholder? = .ok (some node) ∧
      (mapEntries related).bind (·.mapM relatedGroup) = .ok groups ∧
      text = creationText node (target :: created) attached ∧
      target.name node = node ∧
      ((created ++ attached).map (·.name node)).Perm (groups.flatMap (·.names)) ∧
      (((target :: created ++ attached).map (·.name node)).Nodup ↔
        (∀ g ∈ groups, node ∉ g.names) ∧ groups.Pairwise fun g g' => ¬ g.Meets g') := by
  obtain ⟨properties, -, h⟩ := Result.bind_eq_ok h
  obtain ⟨frame, -, h⟩ := Result.bind_eq_ok h
  obtain ⟨requests, read, h⟩ := Result.bind_eq_ok h
  obtain ⟨⟨creations, last⟩, allocated, h⟩ := Result.bind_eq_ok h
  obtain ⟨-, -, h⟩ := Result.bind_eq_ok h
  obtain ⟨-, -, h⟩ := Result.bind_eq_ok h
  obtain ⟨whole, compiled, h⟩ := Result.bind_eq_ok h
  obtain ⟨rfl, -⟩ := Prod.mk.inj (Except.ok.inj h)
  obtain ⟨node, labels, named, -, rfl⟩ := createWithText_nodes compiled
  have perm := RelatedCreation.names_perm node creations
  rw [← List.flatMap_map (f := RelatedCreation.group)] at perm
  refine ⟨node, .target labels _, _, _, creations.map (·.group), named, ?_, rfl, rfl, perm, ?_⟩
  · rw [read]
    exact allocateRelated_groups allocated
  · rw [List.cons_append, List.map_cons]
    exact (perm.cons node).nodup_iff.trans RelatedGroup.nodup_names_iff

/-- A request for related nodes with one label, the values of new nodes and the identities to attach. -/
def relatedOptions (label relationship : String) (values : List Properties) (ids : List Int) : Value :=
  .ofProperties [("labels", .text label), ("relationship", .text relationship),
    ("values", .ofList (values.map .ofProperties)), ("ids", .ofList (ids.map .int))]

/-- With two new nodes in one relation, and others that are attached in another one. -/
theorem createWithStatement_variables_apart :
    let l := afterCalls [.target (.text "Post")]
    let values := Value.ofProperties [("title", .text "Hello")]
    let related := Value.ofProperties
      [("photos", relatedOptions "Photo" "PHOTO" [[("url", .text "a")], [("url", .text "b")]] []),
        ("tags", relatedOptions "Tag" "TAGGED" [] [3, 4])]
    let text := "CREATE (post:Post \x7btitle: $title\x7d), " ++
      "(post)-[:PHOTO]->(with_photos:Photo \x7burl: $url\x7d), " ++
      "(post)-[:PHOTO]->(with_photos_2:Photo \x7burl: $url_2\x7d) WITH post " ++
      "CALL \x7b WITH post MATCH (with_tags_attached:Tag) WHERE id(with_tags_attached) IN $with_tags_ids " ++
      "MERGE (post)-[:TAGGED]->(with_tags_attached) \x7d RETURN post"
    ∃ written, l.createWithStatement values related = .ok (text, written) ∧
    ∃ node target created attached groups, l.query.placeholder? = .ok (some node) ∧
      (mapEntries related).bind (·.mapM relatedGroup) = .ok groups ∧
      text = creationText node (target :: created) attached ∧
      target.name node = node ∧
      ((created ++ attached).map (·.name node)).Perm (groups.flatMap (·.names)) ∧
      (((target :: created ++ attached).map (·.name node)).Nodup ↔
        (∀ g ∈ groups, node ∉ g.names) ∧ groups.Pairwise fun g g' => ¬ g.Meets g') := by
  intro l values related text
  have compiled : (l.createWithStatement values related).map (·.1) = .ok text :=
    Result.of_toOption (by decide +kernel)
  obtain ⟨⟨_, written⟩, h, rfl⟩ := Result.map_eq_ok compiled
  exact ⟨written, h, createWithStatement_variables h⟩

/-- Names of relations that differ in a capital letter only are one placeholder, so two new nodes stand
under one variable. -/
theorem createWithStatement_merged :
    let related := Value.ofProperties [("photos", relatedOptions "Photo" "PHOTO" [[("url", .text "a")]] []),
      ("Photos", relatedOptions "Photo" "COVER" [[("url", .text "b")]] [])]
    let first : RelatedCreation :=
      ⟨"photos", "with_photos", ["Photo"], "PHOTO", .outgoing, [[("url", "url")]], none⟩
    let second : RelatedCreation :=
      ⟨"Photos", "with_photos", ["Photo"], "COVER", .outgoing, [[("url", "url_2")]], none⟩
    let nodes : List CreatedNode := [.target ":Post" [("title", "title")],
      .related first 0 [("url", "url")], .related second 0 [("url", "url_2")]]
    let text := (((afterCalls [.target (.text "Post")]).createWithStatement
      (.ofProperties [("title", .text "Hello")]) related).map (·.1)).toOption
    text = some ("CREATE (post:Post \x7btitle: $title\x7d), " ++
      "(post)-[:PHOTO]->(with_photos:Photo \x7burl: $url\x7d), " ++
      "(post)-[:COVER]->(with_photos:Photo \x7burl: $url_2\x7d) RETURN post") ∧
      text = some (creationText "post" nodes []) ∧
      ¬ (nodes.map (·.name "post")).Nodup := by
  decide +kernel

end LiveQuery

end GraphQuery
