import GraphQuery.Proofs.Execution.Written

/-! # Creating other related nodes

Requests for related nodes that differ in the property values of the new nodes alone get the same
names for their values, and so a node is created together with related ones by the same text.

* `Value.TwinRequest` : two such requests, as maps of their fields or on their own.
* `Requested` : two such requests that have been read.
* `allocateRelated_same` : they get the same names.
* `LiveQuery.Alike.createWithStatement_same` : the statements have the same text. -/

namespace GraphQuery

open GraphQuery.Binding GraphQuery.Cypher GraphQuery.Schema

/-! ### Twin requests -/

/-- The same field with the same value, or the field for the properties of new nodes with twin
records. -/
def TwinField (e e' : Value × Value) : Prop :=
  e.1 = e'.1 ∧ (e.2 = e'.2 ∨ e.1 = .text "values" ∧ e.2.TwinRecords e'.2)

/-- Two requests for related nodes that differ in the property values of new nodes alone. -/
inductive Value.TwinRequest : Value → Value → Prop
  | same (v : Value) : TwinRequest v v
  | fields {es es' : List (Value × Value)} (mark mark' : Option Nat) : List.Forall₂ TwinField es es' →
    TwinRequest (.map es mark) (.map es' mark')
  | request {v v' values : Value} {r : RelatedRequest} : RelatedRequest.ofValue? v = some r →
    RelatedRequest.ofValue? v' = some { r with values } → r.values.TwinRecords values →
      TwinRequest v v'

/-- Twin requests under the same names. -/
def Value.TwinRequests (v v' : Value) : Prop :=
  ∃ es es', v.entries? = some es ∧ v'.entries? = some es' ∧
    List.Forall₂ (fun e e' => e.1 = e'.1 ∧ e.2.TwinRequest e'.2) es es'

/-! ### Reading them -/

theorem readEntries_same : ∀ {es es' : List (Value × Value)}, SameNames es es' →
    Together SameNames (readEntries .ok es) (readEntries .ok es')
  | [], es', h => by
    obtain rfl : es' = [] := List.map_eq_nil_iff.mp h.symm
    exact .ok (.refl [])
  | _ :: _, [], h => by cases h
  | (key, v) :: rest, (key', v') :: rest', h => by
    obtain ⟨name, others⟩ := SameNames.cons_iff.mp h
    obtain rfl : key = key' := name
    have value : Together (fun _ _ => True) (Checked.inside (keyStep key) (.ok v))
        (Checked.inside (keyStep key) (.ok v')) := .inside (.ok trivial) _ _
    exact (((Together.same (readKey key)).and value).and (readEntries_same others)).map
      fun _ _ both => SameNames.cons_iff.mpr ⟨both.1.1, both.2⟩

theorem readProperties_same {v v' : Value} (h : v.Keyed v') :
    Together SameNames (readProperties v) (readProperties v') := by
  obtain ⟨es, es', e, e', same⟩ := h
  unfold readProperties readMap
  rw [e, e']
  exact (readEntries_same same).map fun _ _ entries => entries.putAll (.refl [])

/-- A single map of properties is read as a list of one, or not at all. -/
theorem readRecords_one {v : Value} {es : List (Value × Value)} (e : v.entries? = some es) :
    readList readProperties .listType (listOfMap v) = .fail .listType ∨
      readList readProperties .listType (listOfMap v) = Checked.each readProperties [.ofPairs es] := by
  cases v <;> cases e
  · exact Or.inr rfl
  · exact Or.inl rfl
  · exact Or.inl rfl

theorem readRecords_same {v v' : Value} (h : v.TwinRecords v') :
    Together (List.Forall₂ SameNames) (readList readProperties .listType (listOfMap v))
      (readList readProperties .listType (listOfMap v')) := by
  have read {xs xs' : List Value} (h : List.Forall₂ Value.Keyed xs xs') :
      Together (List.Forall₂ SameNames) (Checked.each readProperties xs)
        (Checked.each readProperties xs') := .eachFrom h (fun _ _ => readProperties_same) 0
  cases h with
  | same v => exact .sameNames _
  | list _ _ h | tuple h => exact read h
  | one h =>
      obtain ⟨es, es', e, e', same⟩ := h
      rcases readRecords_one e with fails | reads
      · exact fails ▸ .error _
      rcases readRecords_one e' with fails' | reads'
      · exact fails' ▸ fun _ _ _ c => by cases c
      rw [reads, reads']
      exact read (.cons ⟨es, es', rfl, rfl, same⟩ .nil)

section fields

variable {es es' : List (Value × Value)} {α β : Type} {related : α → β → Prop}

/-- A field of two maps is the same, or holds twin records. -/
theorem lookup_field (h : List.Forall₂ TwinField es es') (name : String) :
    Both (fun v v' => v = v' ∨ name = "values" ∧ v.TwinRecords v') (lookup? name (textEntries es))
      (lookup? name (textEntries es')) := by
  induction h with
  | nil => exact .none
  | @cons e e' rest rest' field _ ih =>
      obtain ⟨key, v⟩ := e
      obtain ⟨key', v'⟩ := e'
      obtain ⟨same, value⟩ := field
      obtain rfl : key = key' := same
      unfold textEntries at ih ⊢
      rw [List.filterMap_cons, List.filterMap_cons]
      cases text : key.text? with
      | none => exact ih
      | some k =>
          obtain rfl : key = .text k := by cases key <;> cases text; rfl
          show Both _ (if k = name then some v else _) (if k = name then some v' else _)
          split
          · next found =>
            subst found
            exact .some (value.imp_right fun ⟨field, twin⟩ => ⟨Value.text.inj field, twin⟩)
          · exact ih

theorem required_together {name : String} {fields fields' : Properties} {among : Value → Value → Prop}
    (h : Both among (lookup? name fields) (lookup? name fields')) {read : Value → Checked α}
    {read' : Value → Checked β} (next : ∀ v v', among v v' → Together related (read v) (read' v')) :
    Together related (required fields name read) (required fields' name read') := by
  unfold required
  generalize lookup? name fields = given, lookup? name fields' = given' at h
  cases h with
  | none => exact (Together.error _).inside _ _
  | some h => exact (next _ _ h).inside _ _

theorem defaulted_together {name : String} {fields fields' : Properties} {among : Value → Value → Prop}
    (h : Both among (lookup? name fields) (lookup? name fields')) {absent : α} {absent' : β}
    (default : related absent absent') {read : Value → Checked α} {read' : Value → Checked β}
    (next : ∀ v v', among v v' → Together related (read v) (read' v')) :
    Together related (defaulted fields name absent read) (defaulted fields' name absent' read') := by
  unfold defaulted
  generalize lookup? name fields = given, lookup? name fields' = given' at h
  cases h with
  | none => exact (Together.ok default).inside _ _
  | some h => exact (next _ _ h).inside _ _

/-- Two requests that have been read, which differ in the property values of new nodes alone. -/
structure Requested (r r' : RelatedNodes) : Prop where
  labels : r.labels = r'.labels
  relationship : r.relationship = r'.relationship
  direction : r.direction = r'.direction
  values : List.Forall₂ SameNames r.values r'.values
  ids : r.ids = r'.ids

theorem ofFields_same (h : List.Forall₂ TwinField es es') :
    Together Requested (RelatedNodes.ofFields (textEntries es))
      (RelatedNodes.ofFields (textEntries es')) := by
  have other {α : Type} (name : String) (read : Value → Checked α) (apart : name ≠ "values") :
      ∀ v v' : Value, (v = v' ∨ name = "values" ∧ v.TwinRecords v') →
        Together Eq (read v) (read v') := by
    rintro v _ (rfl | ⟨c, -⟩)
    · exact .same _
    · exact absurd c apart
  have records : ∀ v v' : Value, (v = v' ∨ "values" = "values" ∧ v.TwinRecords v') →
      Together (List.Forall₂ SameNames) (readList readProperties .listType (listOfMap v))
        (readList readProperties .listType (listOfMap v')) := by
    rintro v _ (rfl | ⟨-, twin⟩)
    · exact .sameNames _
    · exact readRecords_same twin
  have labels := required_together (lookup_field h "labels") (other "labels"
    (fun v => readLimitedList readText (some 1) none (listOfText v)) (by decide))
  have relationship := required_together (lookup_field h "relationship")
    (other "relationship" readName (by decide))
  have direction := defaulted_together (lookup_field h "direction") (Eq.refl Direction.outgoing)
    (other "direction" readDirection (by decide))
  have values := defaulted_together (lookup_field h "values") .nil records
  have ids := defaulted_together (lookup_field h "ids") (Eq.refl []) (other "ids"
    (fun v => readList readInteger .listType (listOfIdentity v)) (by decide))
  exact ((labels.and relationship).and (direction.and (values.and ids))).map fun _ _ both =>
    ⟨both.1.1, both.1.2, both.2.1, both.2.2.1, both.2.2.2⟩

end fields

/-! ### Names for their values -/

theorem memberRecords_same {v v' : Value} (h : v.TwinRecords v') :
    Together (List.Forall₂ SameNames)
      (Result.ofFailure v.members >>= fun ms => ms.mapM fun v => mapEntries v >>= propertiesOf)
      (Result.ofFailure v'.members >>= fun ms => ms.mapM fun v => mapEntries v >>= propertiesOf) := by
  have read {xs xs' : List Value} (h : List.Forall₂ Value.Keyed xs xs') :
      Together (List.Forall₂ SameNames) (xs.mapM fun v => mapEntries v >>= propertiesOf)
        (xs'.mapM fun v => mapEntries v >>= propertiesOf) := .mapM h fun _ _ => Value.Keyed.properties_same
  cases h with
  | same v => exact .sameNames _
  | list _ _ h | tuple h => exact read h
  | one h =>
      -- the members of a map are its keys
      obtain ⟨es, es', e, e', same⟩ := h
      have members : v.members = v'.members := by
        unfold Value.members
        rw [(Value.entries_isTruthy e).2, (Value.entries_isTruthy e').2, same]
      rw [members]
      exact .sameNames _

section allocate

variable {w w' : WriteFrame} (tables : w.table.Alike w'.table) {taken taken' : Properties}
include tables

theorem RelatedNodes.allocate_same (others : SameNames taken taken') (name : String)
    {r r' : RelatedNodes} (h : Requested r r') :
    (r.allocate w name taken).1 = (r'.allocate w' name taken').1 ∧
      SameNames (r.allocate w name taken).2 (r'.allocate w' name taken').2 := by
  unfold RelatedNodes.allocate
  dsimp only
  rw [h.labels, h.relationship, h.direction, h.ids]
  cases r'.ids.isEmpty with
  | true =>
      obtain ⟨creates, written⟩ := allocateAll_same tables h.values others
      exact ⟨congrArg (RelatedCreation.mk _ _ _ _ _ · _) creates, written⟩
  | false =>
      obtain ⟨attached, grown⟩ := GraphQuery.allocate_same tables (.refl [(relatedPlaceholder name ++ "_ids",
        Value.ofList (r'.ids.map .int))]) others
      obtain ⟨creates, written⟩ := allocateAll_same tables h.values grown
      exact ⟨congrArg₂ (fun c (a : Assignments) => RelatedCreation.mk _ _ _ _ _ c (a.head?.map (·.2)))
        creates attached, written⟩

theorem RelatedRequest.allocate_same (others : SameNames taken taken') (name : String)
    (r : RelatedRequest) {values : Value} (h : r.values.TwinRecords values) :
    Together (fun p p' => p.1 = p'.1 ∧ SameNames p.2 p'.2) (r.allocate w name taken)
      (RelatedRequest.allocate w' name { r with values } taken') := by
  unfold RelatedRequest.allocate
  dsimp only
  cases r.ids.isTruthy
  all_goals simp only [if_true, if_false, Bool.false_eq_true]
  case' false =>
    refine .after _ fun ids => ?_
    have grown := others
  case' true =>
    refine .after _ fun members => .after _ fun ids => ?_
    obtain ⟨attached, grown⟩ := GraphQuery.allocate_same tables (.refl [(relatedPlaceholder name ++ "_ids",
      Value.ofList (ids.map .int))]) others
    rw [attached]
  -- the identities to attach have got the same name, if there are any
  all_goals
    refine .after _ fun labels => ?_
    rw [← bind_assoc, ← bind_assoc]
    refine (memberRecords_same h).bind fun records records' same => ?_
    obtain ⟨creates, written⟩ := allocateAll_same tables same grown
    rw [creates]
    exact .after _ fun creation => .ok ⟨rfl, written⟩

/-- Two requests that have been read, as maps of their fields or on their own. -/
inductive ReadAlike : RelatedNodes ⊕ RelatedRequest → RelatedNodes ⊕ RelatedRequest → Prop
  | nodes {r r' : RelatedNodes} : Requested r r' → ReadAlike (.inl r) (.inl r')
  | request (r : RelatedRequest) {values : Value} : r.values.TwinRecords values →
    ReadAlike (.inr r) (.inr { r with values })

omit tables in
theorem Value.TwinRequest.read_same {v v' : Value} (h : v.TwinRequest v') :
    Together ReadAlike (readRequest v) (readRequest v') := by
  unfold readRequest
  cases h with
  | request e e' twin =>
      rw [e, e']
      exact .ok (.request _ twin)
  | fields _ _ twins => exact (ofFields_same twins).ofChecked.map fun _ _ => ReadAlike.nodes
  | same v =>
      cases RelatedRequest.ofValue? v with
      | some r => exact .ok (.request r (.same r.values))
      | none =>
          refine (Together.same _).map ?_
          rintro r _ rfl
          exact .nodes ⟨rfl, rfl, rfl, List.forall₂_same.mpr fun _ _ => .refl _, rfl⟩

theorem ReadAlike.allocate_same (others : SameNames taken taken') (name : String)
    {r r' : RelatedNodes ⊕ RelatedRequest} (h : ReadAlike r r') :
    Together (fun p p' => p.1 = p'.1 ∧ SameNames p.2 p'.2) (allocateRequest w name r taken)
      (allocateRequest w' name r' taken') := by
  cases h with
  | nodes h => exact .ok (RelatedNodes.allocate_same tables others name h)
  | request r h => exact RelatedRequest.allocate_same tables others name r h

/-- Twin requests for related nodes get the same names for their values. -/
theorem allocateRelated_same : ∀ {es es' : List (Value × Value)} {taken taken' : Properties},
    List.Forall₂ (fun e e' => e.1 = e'.1 ∧ e.2.TwinRequest e'.2) es es' → SameNames taken taken' →
      Together (fun p p' => p.1 = p'.1 ∧ SameNames p.2 p'.2) (allocateRelated w es taken)
        (allocateRelated w' es' taken')
  | [], [], _, _, _, others => .ok ⟨rfl, others⟩
  | (key, _) :: _, (key', _) :: _, _, _, .cons ⟨name, twin⟩ same, others => by
    obtain rfl : key = key' := name
    refine twin.read_same.bind fun r r' both => .after _ fun name => ?_
    refine (both.allocate_same tables others name).bind fun p p' ⟨creation, written⟩ => ?_
    refine (allocateRelated_same same written).bind fun q q' ⟨creations, last⟩ => ?_
    exact .ok ⟨congrArg₂ List.cons creation creations, last⟩

end allocate

theorem LiveQuery.Alike.createWithStatement_same {l l' : LiveQuery} (h : l.Alike l')
    {v v' related related' : Value} (values : v.Keyed v') (requests : related.TwinRequests related') :
    SameStatement (l.createWithStatement v related) (l'.createWithStatement v' related') := by
  obtain ⟨es, es', e, e', twins⟩ := requests
  have entries : mapEntries related = .ok es ∧ mapEntries related' = .ok es' := by
    unfold mapEntries
    rw [e, e']
    exact ⟨rfl, rfl⟩
  refine values.properties_same.bind fun properties properties' same => ?_
  refine (h.writeFrame_same _ _).bind fun w w' tables => ?_
  obtain ⟨names, written⟩ := allocate_same tables same (.refl [])
  rw [entries.1, entries.2]
  dsimp only
  rw [names, h.query_eq]
  refine (allocateRelated_same tables twins written).bind fun p p' ⟨creations, last⟩ => ?_
  refine Together.any.bind fun _ _ _ => ?_
  rw [creations]
  exact .after _ fun _ => .after _ fun _ => .ok ⟨rfl, last⟩

end GraphQuery
