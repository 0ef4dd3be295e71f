import GraphQuery.Proofs.Execution.Allocation
import GraphQuery.Proofs.Execution.Written
import GraphQuery.Proofs.Session.Prepared

/-! # Slots for related nodes

A request for related nodes asks for the properties of new nodes, and for identities to attach as one
value.  All of them get slots, among those of the other requests and of the node itself: `RelatedSlots`
says where these stand, `allocateRelated_slots` that every request has them.

A request that stands on its own is checked once more after its values have been bound.  This keeps the
names, as long as no map has a key twice (`ofFields_creation`). -/

namespace GraphQuery

open GraphQuery.Binding GraphQuery.Cypher GraphQuery.Schema GraphQuery.Text

/-! ### What is asked for -/

/-- The identities to attach under a name, as one value. -/
def attachItem (name : String) (ids : List Int) : Item := ⟨.attached name, .ofList (ids.map .int)⟩

/-- What requests for related nodes ask for: properties of new nodes, and identities to attach. -/
structure RelatedItems where
  created : List Item
  attached : List Item

/-- What two requests ask for. -/
def RelatedItems.append (i j : RelatedItems) : RelatedItems :=
  ⟨i.created ++ j.created, i.attached ++ j.attached⟩

/-- What a request for related nodes asks for. -/
def RelatedNodes.items (name : String) (r : RelatedNodes) : RelatedItems :=
  ⟨r.values.flatMap newItems, if r.ids.isEmpty then [] else [attachItem name r.ids]⟩

/-- The identities to attach of a request that stands on its own. -/
def RelatedRequest.identities (r : RelatedRequest) : Result (List Int) :=
  if r.ids.isTruthy then do (← Result.ofFailure r.ids.members).mapM Build.identity else .ok []

/-- The new nodes of a request that stands on its own. -/
def RelatedRequest.records (r : RelatedRequest) : Result (List Properties) := do
  (← Result.ofFailure r.values.members).mapM fun v => mapEntries v >>= propertiesOf

/-- What a request that stands on its own asks for. -/
def RelatedRequest.items (name : String) (r : RelatedRequest) : Result RelatedItems := do
  let ids ← r.identities
  let records ← r.records
  return ⟨records.flatMap newItems, if r.ids.isTruthy then [attachItem name ids] else []⟩

/-- What a request that has been read asks for. -/
def requestItems (name : String) : RelatedNodes ⊕ RelatedRequest → Result RelatedItems
  | .inl nodes => .ok (nodes.items name)
  | .inr request => request.items name

/-- What requests for related nodes ask for, one after another. -/
def relatedItems : List (Value × Value) → Result RelatedItems
  | [] => .ok ⟨[], []⟩
  | (key, options) :: rest => do
    let request ← readRequest options
    let name ← relatedName key
    return (← requestItems name request).append (← relatedItems rest)

/-- The new nodes of a request that stands on its own are maps, in which no key occurs twice. -/
def RelatedRequest.HasMaps (r : RelatedRequest) : Prop :=
  ∀ ms, r.values.members? = some ms → ∀ v ∈ ms, ∀ es, v.entries? = some es → (es.map Prod.fst).Nodup

/-! ### Placeholders -/

theorem isHarmless_of_code {c : Char} (h : 128 ≤ c.toNat ∨ c.toNat = 0) : IsHarmless c := by
  have special : ∀ d : Char, d.toNat < 128 → d.toNat ≠ 0 → c ≠ d := by
    rintro d small positive rfl
    omega
  refine Or.inr ⟨?_, ?_, ?_, special '$' (by decide) (by decide), special '/' (by decide) (by decide)⟩
  all_goals
    simp only [marks, opening, closing, List.mem_cons, List.not_mem_nil, or_false, not_or]
    exact ⟨special _ (by decide) (by decide), special _ (by decide) (by decide),
      special _ (by decide) (by decide)⟩

/-- The small forms outside the first codes lie there as well, or belong to words. -/
theorem lowerRuns_harmless : ∀ run ∈ lowerRuns, 128 ≤ (run.first : Int) + run.distance ∨
    run.first = run.last ∧ isWord (Char.ofNat (run.shift run.first)) = true := by
  decide +kernel

theorem isHarmless_ofNat {n : Nat} (h : 128 ≤ n) : IsHarmless (Char.ofNat n) := by
  refine isHarmless_of_code ?_
  by_cases valid : n.isValidChar
  · rw [Char.ofNat, dif_pos valid]
    exact Or.inl h
  · rw [Char.ofNat, dif_neg valid]
    exact Or.inr rfl

theorem lowerChar_harmless {c : Char} (word : isWord c = true) : ∀ d ∈ lowerChar c, IsHarmless d := by
  unfold lowerChar
  dsimp only
  split
  · refine List.forall_mem_singleton.mpr ?_
    split
    · next capital =>
      simp only [Bool.and_eq_true, decide_eq_true_eq] at capital
      have small : ∀ i : Fin 26, isNamePart (Char.ofNat (i + 97)) = true := by decide
      have letter := small ⟨c.toNat - 65, by omega⟩
      rw [show c.toNat - 65 + 97 = c.toNat + 32 by omega] at letter
      exact isHarmless_of_isNamePart letter
    · exact Or.inl word
  · split
    · exact List.forall_mem_cons.mpr ⟨Or.inl (by decide), List.forall_mem_singleton.mpr
        (isHarmless_ofNat (by decide))⟩
    · split
      · next run found =>
        have inside := List.find?_some found
        simp only [CaseRun.holds, Bool.and_eq_true, decide_eq_true_eq] at inside
        refine List.forall_mem_singleton.mpr ?_
        rcases lowerRuns_harmless run (List.mem_of_find?_eq_some found) with far | ⟨single, letter⟩
        · exact isHarmless_ofNat (by unfold CaseRun.shift; omega)
        · rw [show c.toNat = run.first by omega]
          exact Or.inl letter
      · exact List.forall_mem_singleton.mpr (Or.inl word)

theorem lowerFrom_harmless : ∀ {cs before : List Char}, (∀ c ∈ cs, isWord c = true) →
    ∀ d ∈ lowerFrom before cs, IsHarmless d
  | [], _, _ => by simp [lowerFrom]
  | c :: cs, before, h => by
    obtain ⟨word, others⟩ := List.forall_mem_cons.mp h
    refine List.forall_mem_append.mpr ⟨?_, lowerFrom_harmless others⟩
    split
    · refine List.forall_mem_singleton.mpr (isHarmless_ofNat ?_)
      split <;> decide
    · exact lowerChar_harmless word

theorem relatedPlaceholder_silent (name : String) : Silent (relatedPlaceholder name) := by
  have front : Silent "with_" := by decide
  refine front.append (silent_of_harmless fun c hc => ?_)
  rw [lowercase, String.toList_ofList] at hc
  exact lowerFrom_harmless (isWord_of_mem_bindingName name) c hc

/-! ### Creations that are checked once more -/

theorem ofFields_creation {name placeholder : String}
    {labels relationship direction creates attach : Value} {creation : RelatedCreation}
    (h : RelatedCreation.ofFields [("name", .text name), ("alias", .text placeholder),
      ("labels", labels), ("relationship", relationship), ("direction", direction),
      ("creates", creates), ("attach_binding", attach)] = .ok creation) :
    creation.placeholder = placeholder ∧
      readList readAssignments .tupleType creates = .ok creation.creates ∧
      readOptional readText attach = .ok creation.attach := by
  obtain ⟨p, found, rfl⟩ := Checked.map_eq_ok h
  obtain ⟨front, back⟩ := Checked.and_eq_ok found
  have stored := Checked.inside_eq_ok (Checked.and_eq_ok (Checked.and_eq_ok front).1).2
  obtain ⟨listed, last⟩ := Checked.and_eq_ok (Checked.and_eq_ok back).2
  exact ⟨(Except.ok.inj stored).symm, Checked.inside_eq_ok listed, Checked.inside_eq_ok last⟩

/-- Assignments whose properties are different are read back. -/
theorem readAssignments_ofProperties {assignments : Assignments}
    (distinct : (assignments.map Prod.fst).Nodup) :
    readAssignments (.ofProperties (assignments.map fun p => (p.1, .text p.2))) = .ok assignments := by
  have entries : ∀ assignments : Assignments,
      readEntries readText (assignments.map fun p => (Value.text p.1, Value.text p.2)) =
        .ok assignments := by
    intro assignments
    induction assignments with
    | nil => rfl
    | cons a rest ih =>
      rw [List.map_cons, readEntries, ih]
      rfl
  have given : (Value.ofProperties (assignments.map fun p => (p.1, Value.text p.2))).entries? =
      some (assignments.map fun p => (Value.text p.1, Value.text p.2)) := by
    simp [Value.ofProperties, Value.ofPairs, Value.entries?]
  unfold readAssignments readMap
  rw [given]
  dsimp only
  rw [entries]
  exact congrArg Except.ok (putAll_distinct (by simpa using distinct))

theorem readCreates {creates : List Assignments}
    (distinct : ∀ c ∈ creates, (c.map Prod.fst).Nodup) :
    readList readAssignments .tupleType (.tuple (creates.map fun c =>
      .ofProperties (c.map fun p => (p.1, .text p.2)))) = .ok creates := by
  have each : ∀ (creates : List Assignments) (index : Nat), (∀ c ∈ creates, (c.map Prod.fst).Nodup) →
      Checked.eachFrom readAssignments index (creates.map fun c =>
        .ofProperties (c.map fun p => (p.1, .text p.2))) = .ok creates := by
    intro creates
    induction creates with
    | nil => exact fun _ _ => rfl
    | cons c rest ih =>
      intro index distinct
      obtain ⟨first, others⟩ := List.forall_mem_cons.mp distinct
      rw [List.map_cons, Checked.eachFrom, readAssignments_ofProperties first, ih _ others]
      rfl
  exact each creates 0 distinct

/-! ### Slots -/

/-- Where the values of related nodes stand: first those of new nodes, and then the identities to
attach. They are written beside those that are taken before. -/
structure RelatedSlots (w : WriteFrame) (node : String) (items : RelatedItems)
    (creations : List RelatedCreation) (taken taken' : Properties) (created attached : List Slot) :
    Prop where
  asked : created.map (·.item) = items.created ∧ attached.map (·.item) = items.attached
  nodes : creations.flatMap (fun r => r.creates.flatMap Assignments.pairings) =
    created.map (Slot.pairing node)
  attachments : attachPairings creations = attached.map (Slot.pairing node)
  silent : ∀ r ∈ creations, Silent r.placeholder
  written : ∃ more, taken' = taken ++ more ∧
    more.Perm ((created ++ attached).map (Slot.entry w.pattern))
  admits : w.Admits taken → w.Admits taken'

variable {w : WriteFrame} {node : String} {taken taken' : Properties}

namespace RelatedSlots

theorem nil (w : WriteFrame) (node : String) (taken : Properties) :
    RelatedSlots w node ⟨[], []⟩ [] taken taken [] [] :=
  ⟨⟨rfl, rfl⟩, rfl, rfl, by simp, ⟨[], (List.append_nil _).symm, .refl _⟩, id⟩

theorem perm_four {α : Type} (as bs cs ds : List α) :
    ((as ++ bs) ++ (cs ++ ds)).Perm ((as ++ cs) ++ (bs ++ ds)) := by
  rw [List.append_assoc, List.append_assoc]
  exact (List.perm_append_comm_assoc bs cs ds).append_left as

theorem append {items items' : RelatedItems} {first rest : List RelatedCreation}
    {taken'' : Properties} {created created' attached attached' : List Slot}
    (h : RelatedSlots w node items first taken taken' created attached)
    (h' : RelatedSlots w node items' rest taken' taken'' created' attached') :
    RelatedSlots w node (items.append items') (first ++ rest) taken taken''
      (created ++ created') (attached ++ attached') := by
  obtain ⟨more, rfl, perm⟩ := h.written
  obtain ⟨more', rfl, perm'⟩ := h'.written
  refine ⟨⟨?_, ?_⟩, ?_, ?_, List.forall_mem_append.mpr ⟨h.silent, h'.silent⟩,
    ⟨more ++ more', List.append_assoc .., ?_⟩, h'.admits ∘ h.admits⟩
  · rw [List.map_append, h.asked.1, h'.asked.1]
    rfl
  · rw [List.map_append, h.asked.2, h'.asked.2]
    rfl
  · rw [List.flatMap_append, h.nodes, h'.nodes, List.map_append]
  · rw [attachPairings, List.filterMap_append, List.map_append]
    exact congrArg₂ (· ++ ·) h.attachments h'.attachments
  · refine (perm.append perm').trans ?_
    rw [← List.map_append]
    exact (perm_four created created' attached attached').symm.map _

theorem one {creation : RelatedCreation} {name : String} {given : List Item}
    {attached : List Slot} {records : List Properties} {created : List (List Slot)}
    (placeholder : creation.placeholder = relatedPlaceholder name)
    (creates : creation.creates = created.map (·.map Slot.assignment))
    (attach : creation.attach = (attached.map Slot.assignment).head?.map (·.2))
    (asked : attached.map (·.item) = given)
    (atMost : given = [] ∨ ∃ ids, given = [attachItem name ids])
    (same : created.map (·.map (·.item)) = records.map newItems)
    (admits : w.Admits taken → w.Admits (taken ++ attached.map (Slot.entry w.pattern) ++
      created.flatten.map (Slot.entry w.pattern))) :
    RelatedSlots w node ⟨records.flatMap newItems, given⟩ [creation] taken
      (taken ++ attached.map (Slot.entry w.pattern) ++ created.flatten.map (Slot.entry w.pattern))
      created.flatten attached := by
  refine ⟨⟨?_, asked⟩, ?_, ?_, ?_, ⟨_, List.append_assoc .., ?_⟩, admits⟩
  · rw [List.map_flatten, same, List.flatMap_def]
  · rw [List.flatMap_singleton, creates, pairings_assignments node same]
  · subst asked
    rcases atMost with none | ⟨ids, single⟩
    · obtain rfl := List.map_eq_nil_iff.mp none
      simp [attachPairings, attach]
    · obtain ⟨s, rfl, item⟩ := List.map_eq_singleton_iff.mp single
      have named : s.binding ≠ "" := s.spelled.ne_empty
      simp [attachPairings, attach, attachPairing, Slot.assignment, Slot.pairing, named, item,
        attachItem, Role.lead, placeholder, s.spoken_binding]
  · exact List.forall_mem_singleton.mpr (placeholder ▸ relatedPlaceholder_silent name)
  · rw [← List.map_append]
    exact List.perm_append_comm.map _

end RelatedSlots

/-! ### Requests -/

theorem admits_allocated {name : String} {ids : List Int} {given : Bool} {attached : List Slot}
    {records : List Properties} {created : List (List Slot)}
    (attaching : (if given then
        allocate w [(relatedPlaceholder name ++ "_ids", .ofList (ids.map .int))] taken
      else ([], taken)) = (attached.map Slot.assignment, taken ++ attached.map (Slot.entry w.pattern)))
    (creating : allocateAll w records (taken ++ attached.map (Slot.entry w.pattern)) =
      (created.map (·.map Slot.assignment), taken ++ attached.map (Slot.entry w.pattern) ++
        created.flatten.map (Slot.entry w.pattern))) (h : w.Admits taken) :
    w.Admits (taken ++ attached.map (Slot.entry w.pattern) ++
      created.flatten.map (Slot.entry w.pattern)) := by
  have first : w.Admits (taken ++ attached.map (Slot.entry w.pattern)) := by
    cases given with
    | false =>
      rw [← (Prod.mk.inj attaching).2]
      exact h
    | true =>
      have admits := h.allocate [(relatedPlaceholder name ++ "_ids", .ofList (ids.map .int))]
      rw [if_pos rfl] at attaching
      rwa [attaching] at admits
  have admits := first.allocateAll records
  rwa [creating] at admits

theorem allocate_attached (w : WriteFrame) (name : String) (ids : List Int) (given : Bool)
    (taken : Properties) : ∃ attached : List Slot,
      attached.map (·.item) = (if given then [attachItem name ids] else []) ∧
        (if given then allocate w [(relatedPlaceholder name ++ "_ids", .ofList (ids.map .int))] taken
          else ([], taken)) =
            (attached.map Slot.assignment, taken ++ attached.map (Slot.entry w.pattern)) := by
  cases given with
  | false => exact ⟨[], rfl, by simp⟩
  | true => exact allocate_slots w [attachItem name ids] taken

theorem atMostOne (name : String) (ids : List Int) (given : Bool) :
    (if given then [attachItem name ids] else []) = [] ∨
      ∃ ids', (if given then [attachItem name ids] else []) = [attachItem name ids'] := by
  cases given with
  | false => exact Or.inl rfl
  | true => exact Or.inr ⟨ids, rfl⟩

theorem RelatedNodes.allocate_eq (w : WriteFrame) (name : String) (r : RelatedNodes)
    (taken : Properties) : ∃ (attached : List Slot) (created : List (List Slot)),
      attached.map (·.item) = (if !r.ids.isEmpty then [attachItem name r.ids] else []) ∧
        created.map (·.map (·.item)) = r.values.map newItems ∧
        (w.Admits taken → w.Admits (r.allocate w name taken).2) ∧
        r.allocate w name taken = (⟨name, relatedPlaceholder name, r.labels, r.relationship,
          r.direction, created.map (·.map Slot.assignment), (attached.map Slot.assignment).head?.map (·.2)⟩,
          taken ++ attached.map (Slot.entry w.pattern) ++ created.flatten.map (Slot.entry w.pattern)) := by
  obtain ⟨attached, asked, attaching⟩ := allocate_attached w name r.ids (!r.ids.isEmpty) taken
  obtain ⟨created, same, creating⟩ :=
    allocateAll_records w r.values (taken ++ attached.map (Slot.entry w.pattern))
  have choice {α : Type} (x y : α) : (if r.ids.isEmpty then x else y) =
      if !r.ids.isEmpty then y else x := by cases r.ids.isEmpty <;> rfl
  have step : r.allocate w name taken = (⟨name, relatedPlaceholder name, r.labels, r.relationship,
      r.direction, created.map (·.map Slot.assignment), (attached.map Slot.assignment).head?.map (·.2)⟩,
      taken ++ attached.map (Slot.entry w.pattern) ++ created.flatten.map (Slot.entry w.pattern)) := by
    unfold RelatedNodes.allocate
    dsimp only
    rw [choice, attaching]
    dsimp only
    rw [creating]
  refine ⟨attached, created, asked, same, ?_, step⟩
  rw [step]
  exact admits_allocated attaching creating

theorem RelatedNodes.allocate_slots (w : WriteFrame) (node name : String) (r : RelatedNodes)
    (taken : Properties) :
    ∃ created attached, RelatedSlots w node (r.items name) [(r.allocate w name taken).1] taken
      (r.allocate w name taken).2 created attached := by
  obtain ⟨attached, created, asked, same, admits, step⟩ := r.allocate_eq w name taken
  have items : r.items name = ⟨r.values.flatMap newItems,
      if !r.ids.isEmpty then [attachItem name r.ids] else []⟩ := by
    unfold RelatedNodes.items
    cases r.ids.isEmpty <;> rfl
  refine ⟨created.flatten, attached, ?_⟩
  rw [step] at admits ⊢
  rw [items]
  exact .one rfl rfl rfl asked (atMostOne ..) same admits

/-- A request that stands on its own is read and bound, and then checked. -/
theorem RelatedRequest.allocate_eq_bind (w : WriteFrame) (name : String) (r : RelatedRequest)
    (taken : Properties) : r.allocate w name taken = (do
      let ids ← r.identities
      let (attached, taken) :=
        if r.ids.isTruthy then
          GraphQuery.allocate w [(relatedPlaceholder name ++ "_ids", .ofList (ids.map .int))] taken
        else ([], taken)
      let labels ← Result.ofFailure r.labels.members
      let records ← r.records
      let (creates, taken) := allocateAll w records taken
      let creation ← Result.ofChecked (RelatedCreation.ofFields
        [("name", .text name), ("alias", .text (relatedPlaceholder name)), ("labels", .tuple labels),
          ("relationship", r.relationship), ("direction", r.direction),
          ("creates", .tuple (creates.map fun c => .ofProperties (c.map fun p => (p.1, .text p.2)))),
          ("attach_binding", .ofText? (attached.head?.map (·.2)))])
      return (creation, taken)) := by
  unfold RelatedRequest.allocate identities records
  cases r.ids.isTruthy <;> simp only [bind_assoc, if_true, if_false, Bool.false_eq_true]

theorem members?_eq_of_members {v : Value} {ms : List Value}
    (h : Result.ofFailure v.members = .ok ms) : v.members? = some ms := by
  unfold Value.members at h
  split at h
  · next found => exact found.trans (congrArg some (Except.ok.inj h))
  · cases h

theorem entries?_eq_of_mapEntries {v : Value} {es : List (Value × Value)} (h : mapEntries v = .ok es) :
    v.entries? = some es := by
  unfold mapEntries at h
  split at h
  · next found => exact found.trans (congrArg some (Except.ok.inj h))
  · cases h

/-- The properties of the new nodes are different, since their maps have no key twice. -/
theorem RelatedRequest.HasMaps.distinct {r : RelatedRequest} (h : r.HasMaps)
    {records : List Properties} (read : r.records = .ok records) :
    ∀ record ∈ records, (record.map Prod.fst).Nodup := by
  obtain ⟨ms, members, read⟩ := Result.bind_eq_ok read
  refine Result.forall_of_mapM read fun v member record found => ?_
  obtain ⟨es, map, found⟩ := Result.bind_eq_ok found
  have keys := h ms (members?_eq_of_members members) v member es (entries?_eq_of_mapEntries map)
  rw [← propertiesOf_names found] at keys
  refine List.Nodup.of_map Value.text ?_
  simpa [List.map_map, Function.comp_def] using keys

theorem RelatedRequest.allocate_eq_ok {name : String} {r : RelatedRequest} {creation : RelatedCreation}
    (h : r.allocate w name taken = .ok (creation, taken')) :
    ∃ ids records, ∃ (attached : List Slot) (created : List (List Slot)),
      r.identities = .ok ids ∧ r.records = .ok records ∧
        attached.map (·.item) = (if r.ids.isTruthy then [attachItem name ids] else []) ∧
        created.map (·.map (·.item)) = records.map newItems ∧
        (w.Admits taken → w.Admits taken') ∧
        taken' = taken ++ attached.map (Slot.entry w.pattern) ++
          created.flatten.map (Slot.entry w.pattern) ∧
        creation.placeholder = relatedPlaceholder name ∧
        readList readAssignments .tupleType (.tuple ((created.map (·.map Slot.assignment)).map fun c =>
          .ofProperties (c.map fun p => (p.1, .text p.2)))) = .ok creation.creates ∧
        creation.attach = (attached.map Slot.assignment).head?.map (·.2) := by
  rw [RelatedRequest.allocate_eq_bind] at h
  obtain ⟨ids, identities, h⟩ := Result.bind_eq_ok h
  obtain ⟨attached, asked, attaching⟩ := allocate_attached w name ids r.ids.isTruthy taken
  rw [attaching] at h
  obtain ⟨labels, -, h⟩ := Result.bind_eq_ok h
  obtain ⟨records, read, h⟩ := Result.bind_eq_ok h
  obtain ⟨created, same, creating⟩ :=
    allocateAll_records w records (taken ++ attached.map (Slot.entry w.pattern))
  rw [creating] at h
  obtain ⟨checked, found, h⟩ := Result.bind_eq_ok h
  obtain ⟨rfl, rfl⟩ := Prod.mk.inj (Except.ok.inj h)
  obtain ⟨placeholder, creates, attach⟩ := ofFields_creation (Result.ofChecked_eq_ok found)
  have kept : ∀ name : Option String, readOptional readText (.ofText? name) = .ok name := by
    intro name
    cases name <;> rfl
  rw [kept] at attach
  exact ⟨ids, records, attached, created, identities, read, asked, same,
    admits_allocated attaching creating, rfl, placeholder, creates, (Except.ok.inj attach).symm⟩

theorem RelatedRequest.allocate_slots {name : String} {r : RelatedRequest} (maps : r.HasMaps)
    {creation : RelatedCreation} (h : r.allocate w name taken = .ok (creation, taken')) :
    ∃ items created attached, r.items name = .ok items ∧
      RelatedSlots w node items [creation] taken taken' created attached := by
  obtain ⟨ids, records, attached, created, identities, read, asked, same, admits, rfl, placeholder,
    creates, attach⟩ := RelatedRequest.allocate_eq_ok h
  have distinct : ∀ c ∈ created.map (·.map Slot.assignment), (c.map Prod.fst).Nodup := by
    intro c member
    obtain ⟨slots, inside, rfl⟩ := List.mem_map.mp member
    have items : slots.map (·.item) ∈ records.map newItems := same ▸ List.mem_map_of_mem inside
    obtain ⟨record, found, asked⟩ := List.mem_map.mp items
    rw [names_assignment asked.symm]
    exact maps.distinct read record found
  rw [readCreates distinct] at creates
  refine ⟨_, created.flatten, attached, ?_, .one placeholder (Except.ok.inj creates).symm attach asked
    (atMostOne ..) same admits⟩
  rw [RelatedRequest.items, identities, read]
  rfl

theorem allocateRequest_slots {name : String} {request : RelatedNodes ⊕ RelatedRequest}
    (maps : ∀ r, request = .inr r → r.HasMaps) {creation : RelatedCreation}
    (h : allocateRequest w name request taken = .ok (creation, taken')) :
    ∃ items created attached, requestItems name request = .ok items ∧
      RelatedSlots w node items [creation] taken taken' created attached := by
  cases request with
  | inl nodes =>
    obtain ⟨created, attached, slots⟩ := nodes.allocate_slots w node name taken
    rw [Except.ok.inj h] at slots
    exact ⟨_, created, attached, rfl, slots⟩
  | inr request => exact RelatedRequest.allocate_slots (maps request rfl) h

theorem ofValue?_of_readRequest {options : Value} {r : RelatedRequest}
    (h : readRequest options = .ok (.inr r)) : RelatedRequest.ofValue? options = some r := by
  unfold readRequest at h
  split at h
  · next found => rw [found, Sum.inr.inj (Except.ok.inj h)]
  · cases nodes : Result.ofChecked (RelatedNodes.read options) <;> rw [nodes] at h <;> cases h

/-- Every request for related nodes has its slots. -/
theorem allocateRelated_slots {w : WriteFrame} (node : String) :
    ∀ {requests : List (Value × Value)} {taken taken' : Properties}
      {creations : List RelatedCreation},
      (∀ e ∈ requests, ∀ r, RelatedRequest.ofValue? e.2 = some r → r.HasMaps) →
      allocateRelated w requests taken = .ok (creations, taken') →
        ∃ items created attached, relatedItems requests = .ok items ∧
          RelatedSlots w node items creations taken taken' created attached
  | [], taken, taken', creations, _, h => by
    obtain ⟨rfl, rfl⟩ := Prod.mk.inj (Except.ok.inj h)
    exact ⟨⟨[], []⟩, [], [], rfl, .nil w node taken⟩
  | (key, options) :: rest, taken, taken', creations, maps, h => by
    obtain ⟨own, others⟩ := List.forall_mem_cons.mp maps
    obtain ⟨request, read, h⟩ := Result.bind_eq_ok h
    obtain ⟨name, named, h⟩ := Result.bind_eq_ok h
    obtain ⟨⟨creation, between⟩, bound, h⟩ := Result.bind_eq_ok h
    obtain ⟨⟨later, last⟩, following, h⟩ := Result.bind_eq_ok h
    obtain ⟨rfl, rfl⟩ := Prod.mk.inj (Except.ok.inj h)
    have sound : ∀ r, request = .inr r → r.HasMaps := by
      rintro r rfl
      exact own r (ofValue?_of_readRequest read)
    obtain ⟨items, created, attached, asked, slots⟩ := allocateRequest_slots sound bound
    obtain ⟨items', created', attached', asked', slots'⟩ := allocateRelated_slots node others following
    refine ⟨_, _, _, ?_, slots.append slots'⟩
    rw [relatedItems, read, named]
    show (do return (← requestItems name request).append (← relatedItems rest) : Result _) = _
    rw [asked, asked']
    rfl

end GraphQuery
