import GraphQuery.Proofs.Binding.Growth
import GraphQuery.Proofs.Execution.Identity
import GraphQuery.Proofs.Execution.RelatedSlots

/-! # What a write sends

A write that creates nodes or sets properties runs one statement.  Every value that it is asked for has
a slot there: a name of its own, which the text mentions once, behind the property that the value is
for, and which the parameters bind to the value as it is written.  The bindings of the query are sent
beside these as they are.

* `Write` : the writes that give values, with what they are asked for (`Write.items`).  An insert is asked
  for the properties of its records, each record by the names of these (`Write.items_insert`).
* `WriteFrame.Fills` : what a statement with its parameters has to be for some slots.
* `Write.run_fills` : the statement that a write runs is this for what it is asked for. -/

namespace GraphQuery

open GraphQuery.Binding GraphQuery.Cypher GraphQuery.Text

/-! ### Slots beside a table -/

/-- What the values of a write are bound beside. -/
def LiveQuery.frame (l : LiveQuery) : WriteFrame := ⟨l.builder.table, l.datePattern.getD standardPattern⟩

/-- What a statement with its parameters has to be for slots, in the order of the text. The statement
picks nodes first, if it is a change, and then writes. -/
structure WriteFrame.Fills (w : WriteFrame) (node front : String) (slots : List Slot) (text : String)
    (row : Row) : Prop where
  /-- the names differ from each other -/
  distinct : (slots.map (·.binding)).Nodup
  /-- and from all bindings of the query -/
  free : ∀ s ∈ slots, .text s.binding ∉ w.table.names
  /-- the part that writes mentions every slot once, where it belongs, and nothing else -/
  shown : ∃ body found, text = front ++ body ∧ mentionsIn body = some found ∧
    List.Forall₂ Pairing.Shown (slots.map (Slot.pairing node)) found
  /-- every name is bound to the value as it is written -/
  bound : ∀ s ∈ slots, entryAt? (.text s.binding) row = some (writtenValue w.pattern s.item.value)
  /-- the bindings of the query keep their values -/
  kept : ∀ k ∈ w.table.names, entryAt? k row = entryAt? k w.table.flatten
  /-- and nothing else is bound -/
  whole : ∃ more, row = w.table.flatten ++ namedRow more ∧ more.Perm (slots.map (Slot.entry w.pattern))

variable {l : LiveQuery} {w : WriteFrame}

theorem ofEntries_beside {t : BindingTable} {more : Properties}
    (distinct : (more.map Prod.fst).Nodup) (free : ∀ n ∈ more.map Prod.fst, .text n ∉ t.names) :
    ofEntries (t.flatten ++ namedRow more) = t.flatten ++ namedRow more := by
  have keys : (namedRow more).map Prod.fst = (more.map Prod.fst).map Value.text := by
    simp [namedRow, Function.comp_def]
  have outside : ∀ n ∈ more.map Prod.fst, Value.text n ∉ t.flatten.map Prod.fst := fun n member =>
    text_not_mem_foldl_putEntry (free n member) List.not_mem_nil
  refine ofEntries_distinct ?_
  unfold DistinctKeys
  rw [List.map_append, keys]
  refine List.pairwise_append.mpr ⟨distinctKeys_ofEntries _, ?_, fun k inside k' member => ?_⟩
  · refine List.pairwise_map.mpr (distinct.imp fun apart => text_same_eq_false fun same => ?_)
    exact apart (Value.text.inj same)
  · obtain ⟨n, given, rfl⟩ := List.mem_map.mp member
    exact text_same_eq_false fun same => outside n given (same ▸ inside)

/-- What is written under names that a frame admits fills the slots of these names. -/
theorem WriteFrame.Admits.fills {front body : String} {slots : List Slot} {written : Properties}
    {node : String} (admits : w.Admits written) (perm : written.Perm (slots.map (Slot.entry w.pattern)))
    (carried : Carries (slots.map (Slot.pairing node)) body) :
    w.Fills node front slots (front ++ body) (ofEntries (w.table.flatten ++ namedRow written)) := by
  have names : (written.map Prod.fst).Perm (slots.map (·.binding)) := by
    simpa [Function.comp_def, Slot.entry] using perm.map Prod.fst
  have free : ∀ n ∈ written.map Prod.fst, .text n ∉ w.table.names := fun n member inside =>
    admits.free n member (BindingTable.mem_textNames.mpr inside)
  have keys : (namedRow written).map Prod.fst = (written.map Prod.fst).map Value.text := by
    simp [namedRow, Function.comp_def]
  have free' : ∀ s ∈ slots, .text s.binding ∉ w.table.names := fun s member =>
    free _ (names.mem_iff.mpr (List.mem_map_of_mem member))
  have row := ofEntries_beside admits.distinct free
  obtain ⟨found, read, shown⟩ := carried.mentionsIn
  refine ⟨names.nodup_iff.mp admits.distinct, free', ⟨body, found, rfl, read, shown⟩, ?_, ?_,
    written, row, perm⟩
  · intro s member
    have absent : entryAt? (.text s.binding) w.table.flatten = none :=
      entryAt?_text_eq_none (text_not_mem_foldl_putEntry (free' s member) List.not_mem_nil)
    have entry : s.entry w.pattern ∈ written := perm.mem_iff.mpr (List.mem_map_of_mem member)
    rw [row, entryAt?_append, absent, Option.none_or]
    refine entryAt?_text_of_mem ?_ (List.mem_map.mpr ⟨_, entry, rfl⟩)
    rw [keys]
    exact admits.distinct.map fun _ _ => Value.text.inj
  · intro k member
    have absent : entryAt? k (namedRow written) = none := by
      refine Option.map_eq_none_iff.mpr (List.find?_eq_none.mpr fun e inside agrees => ?_)
      obtain ⟨p, given, rfl⟩ := List.mem_map.mp inside
      obtain rfl := (same_text_iff p.1 k).mp agrees
      exact free p.1 (List.mem_map_of_mem given) member
    rw [row, entryAt?_append, absent, Option.or_none]

/-! ### What is asked for -/

/-- The records to insert, as they are given: a map is one record. -/
def givenRecords (values : Value) : Result (List Properties) := do
  let records ← match values.entries? with
    | some _ => .ok [values]
    | none => Result.ofFailure values.members
  records.mapM fun record => mapEntries record >>= propertiesOf

/-- A write that gives values. -/
inductive Write where
  | insert (values : Value)
  | insertOne (values : Value)
  | update (values : Value)
  | createWith (values related : Value)

namespace Write

/-- What a write is answered with. -/
abbrev Answer : Write → Type
  | insert _ => Unit
  | update _ => Int
  | _ => Value

/-- Runs the write. -/
def run : (w : Write) → Exec LiveQuery w.Answer
  | insert values => LiveQuery.insert values
  | insertOne values => LiveQuery.insertOne values
  | update values => LiveQuery.update values
  | createWith values related => LiveQuery.createWith values related

/-- What the connection answers a write with. -/
abbrev Handed : Write → Type
  | update _ => Int
  | _ => List Row

/-- How the connection runs the statement of a write. -/
def send : (w : Write) → (statement bindings : Value) → Exec Channel w.Handed
  | update _ => Channel.affecting
  | insert _ | insertOne _ | createWith _ _ => Channel.insert

/-- Whether there is nothing to write, so that nothing is sent. -/
def isEmpty : Write → Bool
  | insert values | update values => !values.isTruthy
  | insertOne _ | createWith _ _ => false

/-- What a write is asked for, in the order of its text: the records one after another, and the
properties of a record that is inserted by their names. The properties of related nodes come behind
those of the node, and the identities to attach come last. -/
def items (l : LiveQuery) : Write → Result (List Item)
  | insert values => do
    let values ← ((LiveQuery.useUp values).outcome l).1
    return (← givenRecords values).flatMap fun record => newItems (LiveQuery.sortedByName record)
  | insertOne values => do return newItems (← (mapEntries values).bind propertiesOf)
  | update values => do return changedItems (← (mapEntries values).bind propertiesOf)
  | createWith values related => do
    let properties ← (mapEntries values).bind propertiesOf
    let others ← (mapEntries related).bind relatedItems
    return newItems properties ++ others.created ++ others.attached

/-- Nothing but the order of the properties tells the items of an insert from those of the records as they
are given: each record is written by the names of its properties. -/
theorem items_insert {l : LiveQuery} {values : Value} {items : List Item}
    (h : (insert values).items l = .ok items) :
    ∃ records sorted, givenRecords (l.builder.used.useUp values).1 = .ok records ∧
      List.Forall₂ (fun ps qs : Properties => qs.Perm ps ∧ qs.Pairwise fun a b => a.1 ≤ b.1)
        records sorted ∧ items = sorted.flatMap newItems := by
  obtain ⟨given, used, h⟩ := Result.bind_eq_ok h
  obtain rfl : (l.builder.used.useUp values).1 = given := Except.ok.inj used
  obtain ⟨records, read, h⟩ := Result.bind_eq_ok h
  obtain rfl := Except.ok.inj h
  refine ⟨records, records.map LiveQuery.sortedByName, read, ?_, (List.flatMap_map ..).symm⟩
  exact List.forall₂_map_right_iff.mpr (List.forall₂_same.mpr fun ps _ =>
    ⟨LiveQuery.sortedByName_perm ps, LiveQuery.sortedByName_ordered ps⟩)

/-- What stands before the part that writes: a change picks nodes first. -/
def front (q : Query) : Write → Result String
  | update _ => targetText q
  | insert _ | insertOne _ | createWith _ _ => .ok ""

/-- A statement with its parameters fills slots for what a write is asked for. -/
def Fills (w : Write) (l : LiveQuery) (text : String) (row : Row) : Prop :=
  ∃ node front items slots, l.query.placeholder? = .ok (some node) ∧ w.front l.query = .ok front ∧
    w.items l = .ok items ∧ slots.map (·.item) = items ∧ l.frame.Fills node front slots text row

/-- The map of a new related node has no key twice, as long as it has not been checked. -/
def HasMaps : Write → Prop
  | createWith _ related => ∀ es, related.entries? = some es → ∀ e ∈ es, ∀ r,
    RelatedRequest.ofValue? e.2 = some r → r.HasMaps
  | insert _ | insertOne _ | update _ => True

end Write

/-! ### Statements -/

namespace LiveQuery

/-- The records in the order of the names of their properties. -/
theorem recordsToInsert_eq {values : Value} {sorted : List Properties}
    (h : recordsToInsert values = .ok sorted) :
    ∃ records, givenRecords values = .ok records ∧ sorted = records.map sortedByName := by
  have each : ∀ {given : List Value} {sorted : List Properties},
      (given.mapM fun record => do
        return sortedByName (← propertiesOf (← mapEntries record))) = .ok sorted →
      ∃ records, (given.mapM fun record => mapEntries record >>= propertiesOf) = .ok records ∧
        sorted = records.map sortedByName := by
    intro given
    induction given with
    | nil =>
      intro sorted h
      obtain rfl := Except.ok.inj h
      exact ⟨[], rfl, rfl⟩
    | cons v rest ih =>
      intro sorted h
      rw [List.mapM_cons] at h
      obtain ⟨first, read, h⟩ := Result.bind_eq_ok h
      obtain ⟨others, following, h⟩ := Result.bind_eq_ok h
      obtain rfl := Except.ok.inj h
      obtain ⟨es, map, read⟩ := Result.bind_eq_ok read
      obtain ⟨record, properties, read⟩ := Result.bind_eq_ok read
      obtain rfl := Except.ok.inj read
      obtain ⟨records, all, rfl⟩ := ih following
      refine ⟨record :: records, ?_, rfl⟩
      rw [List.mapM_cons, map, all]
      show (propertiesOf es >>= fun r => Except.ok (r :: records)) = _
      rw [properties]
      rfl
  unfold recordsToInsert at h
  unfold givenRecords
  cases map : values.entries? with
  | some es =>
    rw [map] at h
    exact each h
  | none =>
    rw [map] at h
    obtain ⟨given, found, h⟩ := Result.bind_eq_ok h
    obtain ⟨records, all, rfl⟩ := each h
    refine ⟨records, ?_, rfl⟩
    dsimp only
    rw [found]
    exact all

variable {values related : Value} {text : String} {written : Properties}

theorem insertStatement_fills (h : l.insertStatement values = .ok (text, written)) :
    ∃ node records slots, l.query.placeholder? = .ok (some node) ∧
      givenRecords values = .ok records ∧
      slots.map (·.item) = records.flatMap (fun record => newItems (sortedByName record)) ∧
      l.frame.Fills node "" slots text (ofEntries (l.builder.table.flatten ++ namedRow written)) := by
  obtain ⟨sorted, read, h⟩ := Result.bind_eq_ok h
  obtain ⟨w, framed, h⟩ := Result.bind_eq_ok h
  obtain rfl : w = l.frame := writeFrame_eq framed
  obtain ⟨slots, asked, bound⟩ := allocateAll_records l.frame sorted []
  have admits := (WriteFrame.admits_nil l.frame).allocateAll sorted
  rw [bound] at h admits
  obtain ⟨-, -, h⟩ := Result.bind_eq_ok h
  obtain ⟨whole, compiled, h⟩ := Result.bind_eq_ok h
  obtain ⟨rfl, rfl⟩ := Prod.mk.inj (Except.ok.inj h)
  obtain ⟨records, given, rfl⟩ := recordsToInsert_eq read
  obtain ⟨node, target, -⟩ := Result.bind_eq_ok compiled
  have carried := insertText_carries compiled
  rw [pairings_assignments node asked] at carried
  refine ⟨node, records, slots.flatten, Change.writeTarget_eq_ok.mp target, given, ?_, ?_⟩
  · rw [List.map_flatten, asked, ← List.flatMap_def, List.flatMap_map]
  · rw [← String.empty_append (s := whole)]
    exact admits.fills (.refl _) carried

theorem createStatement_fills (h : l.createStatement values = .ok (text, written)) :
    ∃ node properties slots, l.query.placeholder? = .ok (some node) ∧
      (mapEntries values).bind propertiesOf = .ok properties ∧
      slots.map (·.item) = newItems properties ∧
      l.frame.Fills node "" slots text (ofEntries (l.builder.table.flatten ++ namedRow written)) := by
  obtain ⟨properties, read, h⟩ := Result.bind_eq_ok h
  obtain ⟨w, framed, h⟩ := Result.bind_eq_ok h
  obtain rfl : w = l.frame := writeFrame_eq framed
  obtain ⟨slots, asked, bound⟩ := allocate_slots l.frame (newItems properties) []
  have admits := (WriteFrame.admits_nil l.frame).allocate properties
  rw [entries_newItems] at bound
  rw [bound] at h admits
  obtain ⟨-, -, h⟩ := Result.bind_eq_ok h
  obtain ⟨whole, compiled, h⟩ := Result.bind_eq_ok h
  obtain ⟨rfl, rfl⟩ := Prod.mk.inj (Except.ok.inj h)
  obtain ⟨node, target, -⟩ := Result.bind_eq_ok compiled
  have carried := createText_carries compiled
  rw [pairings_assignment asked node] at carried
  refine ⟨node, properties, slots, Change.writeTarget_eq_ok.mp target, read, asked, ?_⟩
  rw [← String.empty_append (s := whole)]
  exact admits.fills (.refl _) carried

theorem updateStatement_fills (h : l.updateStatement values = .ok (text, written)) :
    ∃ node front properties slots, l.query.placeholder? = .ok (some node) ∧
      targetText l.query = .ok front ∧ (mapEntries values).bind propertiesOf = .ok properties ∧
      slots.map (·.item) = changedItems properties ∧
      (∃ assignments, updateText l.query assignments = .ok text ∧
        ∀ a ∈ assignments, ∃ s ∈ slots, s.binding = a.2) ∧
      l.frame.Fills node front slots text (ofEntries (l.builder.table.flatten ++ namedRow written)) := by
  obtain ⟨entries, map, h⟩ := Result.bind_eq_ok h
  obtain ⟨-, -, h⟩ := Result.bind_eq_ok h
  obtain ⟨-, -, h⟩ := Result.bind_eq_ok h
  obtain ⟨properties, read, h⟩ := Result.bind_eq_ok h
  obtain ⟨w, framed, h⟩ := Result.bind_eq_ok h
  obtain rfl : w = l.frame := writeFrame_eq framed
  obtain ⟨slots, asked, bound⟩ := allocate_slots l.frame (changedItems properties) []
  have admits := (WriteFrame.admits_nil l.frame).allocate
    (properties.map fun p => (updatedName p.1, p.2))
  rw [entries_changedItems] at bound
  rw [bound] at h admits
  obtain ⟨whole, compiled, h⟩ := Result.bind_eq_ok h
  obtain ⟨rfl, rfl⟩ := Prod.mk.inj (Except.ok.inj h)
  obtain ⟨node, front, target, picked, rfl⟩ := updateText_eq compiled
  have silent := (placeholder?_isPlainText target).2.silent
  have bindings : (slots.map Slot.assignment).map (·.2) = slots.map (·.binding) := List.map_map
  have carried := changes_carry silent ((properties.map (·.1)).zip (slots.map (·.binding)))
  rw [changes_bindings node asked, ← bindings] at carried
  have assigned : ∀ a ∈ (properties.map (·.1)).zip ((slots.map Slot.assignment).map (·.2)),
      ∃ s ∈ slots, s.binding = a.2 := by
    intro a member
    rw [bindings] at member
    exact List.mem_map.mp (List.of_mem_zip member).2
  refine ⟨node, front, properties, slots, target, picked, ?_, asked, ⟨_, compiled, assigned⟩,
    admits.fills (.refl _) carried⟩
  rw [map]
  exact read

theorem createWithStatement_fills (maps : (Write.createWith values related).HasMaps)
    (h : l.createWithStatement values related = .ok (text, written)) :
    ∃ node properties others slots, l.query.placeholder? = .ok (some node) ∧
      (mapEntries values).bind propertiesOf = .ok properties ∧
      (mapEntries related).bind relatedItems = .ok others ∧
      slots.map (·.item) = newItems properties ++ others.created ++ others.attached ∧
      l.frame.Fills node "" slots text (ofEntries (l.builder.table.flatten ++ namedRow written)) := by
  obtain ⟨properties, read, h⟩ := Result.bind_eq_ok h
  obtain ⟨w, framed, h⟩ := Result.bind_eq_ok h
  obtain rfl : w = l.frame := writeFrame_eq framed
  obtain ⟨own, asked, bound⟩ := allocate_slots l.frame (newItems properties) []
  have admits := (WriteFrame.admits_nil l.frame).allocate properties
  rw [entries_newItems] at bound
  rw [bound] at h admits
  obtain ⟨requests, map, h⟩ := Result.bind_eq_ok h
  obtain ⟨⟨creations, last⟩, allocated, h⟩ := Result.bind_eq_ok h
  obtain ⟨-, -, h⟩ := Result.bind_eq_ok h
  obtain ⟨-, -, h⟩ := Result.bind_eq_ok h
  obtain ⟨whole, compiled, h⟩ := Result.bind_eq_ok h
  obtain ⟨rfl, rfl⟩ := Prod.mk.inj (Except.ok.inj h)
  obtain ⟨node, target, -⟩ := Result.bind_eq_ok compiled
  obtain ⟨others, created, attached, needed, rest⟩ :=
    allocateRelated_slots node (maps requests (entries?_eq_of_mapEntries map)) allocated
  obtain ⟨more, written, perm⟩ := rest.written
  have carried := createWithText_carries rest.silent compiled
  rw [pairings_assignment asked node, rest.nodes, rest.attachments, ← List.map_append,
    ← List.map_append] at carried
  refine ⟨node, properties, others, own ++ created ++ attached, Change.writeTarget_eq_ok.mp target,
    read, ?_, ?_, ?_⟩
  · rw [map]
    exact needed
  · rw [List.map_append, List.map_append, asked, rest.asked.1, rest.asked.2]
  · rw [← String.empty_append (s := whole)]
    refine (rest.admits admits).fills ?_ carried
    rw [written, List.nil_append, List.append_assoc, List.map_append]
    exact perm.append_left _

/-! ### Runs -/

theorem sendStatement_runsOne {α : Type} {run : (statement bindings : Value) → Exec Channel α}
    {good : String → Row → Prop}
    (h : good text (ofEntries (l.builder.table.flatten ++ namedRow written))) :
    RunsOne (send run text written) run good l := by
  refine send_runsOne fun table flat => ?_
  rw [parameters_eq flat]
  exact h

theorem insert_runsOne (given : values.isTruthy = true) :
    RunsOne (insert values) Channel.insert ((Write.insert values).Fills l) l := by
  let l' : LiveQuery := { l with builder := { l.builder with used := (l.builder.used.useUp values).2 } }
  have read : (useUp values).outcome l = (.ok (l.builder.used.useUp values).1, l') := rfl
  have statement {text : String} {written : Properties}
      (compiled : l'.insertStatement (l.builder.used.useUp values).1 = .ok (text, written)) :
      (Write.insert values).Fills l text (ofEntries (l.builder.table.flatten ++ namedRow written)) := by
    obtain ⟨node, records, slots, target, given, asked, fills⟩ := insertStatement_fills compiled
    refine ⟨node, "", _, slots, target, rfl, ?_, asked, fills⟩
    show (do
      let values ← ((useUp values).outcome l).1
      return (← givenRecords values).flatMap fun record => newItems (sortedByName record) :
        Result (List Item)) = _
    rw [read]
    show (do
      return (← givenRecords (l.builder.used.useUp values).1).flatMap
        fun record => newItems (sortedByName record) : Result (List Item)) = _
    rw [given]
    rfl
  unfold RunsOne insert
  rw [if_pos given]
  refine .bind (.of_outcome read (fun given e => ?_) fun _ c => by cases c)
  obtain rfl := Except.ok.inj e
  refine .bind (.of_get (.bind (.ofResult (fun s compiled => ?_) (Or.inl rfl))))
  exact .discard (sendStatement_runsOne (l := l') (statement compiled))

theorem insertOne_runsOne :
    RunsOne (insertOne values) Channel.insert ((Write.insertOne values).Fills l) l := by
  have statement {text : String} {written : Properties}
      (compiled : l.createStatement values = .ok (text, written)) :
      (Write.insertOne values).Fills l text
        (ofEntries (l.builder.table.flatten ++ namedRow written)) := by
    obtain ⟨node, properties, slots, target, given, asked, fills⟩ := createStatement_fills compiled
    refine ⟨node, "", _, slots, target, rfl, ?_, asked, fills⟩
    rw [Write.items, given]
    rfl
  unfold RunsOne insertOne
  refine .bind (.of_get (.bind (.ofResult (fun s compiled => ?_) (Or.inl rfl))))
  refine .bind ((sendStatement_runsOne (statement compiled)).imp (fun rows l' runs => ?_) fun _ => id)
  cases rows with
  | nil => exact .of_pure runs
  | cons row rest => exact .ofResult (fun _ _ => runs) (Or.inr runs)

theorem insert_empty (none : values.isTruthy = false) :
    (insert values).Ends l (fun _ l' => l'.channel = l.channel) fun l' => l'.channel = l.channel := by
  unfold insert
  rw [none]
  exact .of_pure rfl

/-- An update looks for the identity among the values, and then goes on with the query that it has. -/
theorem update_ends {good : Int → LiveQuery → Prop} {bad : LiveQuery → Prop}
    (refused : ∀ used, bad { l with builder := { l.builder with used } })
    (rest : ∀ used, Exec.Ends (do
      if !values.isTruthy then return 0
      let (text, written) ← Exec.ofResult ((← get).updateStatement values)
      send Channel.affecting text written)
        { l with builder := { l.builder with used } } good bad) :
    (update values).Ends l good bad := by
  have checked (hasIdentity : Bool) (used : Remains) : Exec.Ends (do
      if hasIdentity then Exec.fail (.builder .identityUpdate)
      if !values.isTruthy then return 0
      let (text, written) ← Exec.ofResult ((← get).updateStatement values)
      send Channel.affecting text written)
        { l with builder := { l.builder with used } } good bad := by
    cases hasIdentity with
    | true => exact .bind (.fail (refused used))
    | false => exact rest used
  unfold update
  refine .bind (.ofResult (fun hasIdentity _ => ?_) (refused l.builder.used))
  dsimp only
  split
  · exact .bind (.within (.of_modify (checked hasIdentity _)))
  · exact checked hasIdentity l.builder.used

theorem update_empty (none : values.isTruthy = false) :
    (update values).Ends l (fun _ l' => l'.channel = l.channel) fun l' => l'.channel = l.channel := by
  refine update_ends (fun _ => rfl) fun used => ?_
  rw [none]
  exact .of_pure rfl

theorem updateStatement_runsOne {good : String → Row → Prop} (given : values.isTruthy = true)
    (h : ∀ text written, l.updateStatement values = .ok (text, written) →
      good text (ofEntries (l.builder.table.flatten ++ namedRow written))) :
    RunsOne (update values) Channel.affecting good l := by
  refine update_ends (fun _ => Or.inl rfl) fun used => ?_
  rw [given]
  refine .bind (.of_get (.bind (.ofResult (fun s compiled => ?_) (Or.inl rfl))))
  exact sendStatement_runsOne (l := { l with builder := { l.builder with used } }) (h s.1 s.2 compiled)

theorem update_runsOne (given : values.isTruthy = true) :
    RunsOne (update values) Channel.affecting ((Write.update values).Fills l) l := by
  refine updateStatement_runsOne given fun text written compiled => ?_
  obtain ⟨node, front, properties, slots, target, picked, given, asked, -, fills⟩ :=
    updateStatement_fills compiled
  refine ⟨node, front, _, slots, target, picked, ?_, asked, fills⟩
  rw [Write.items, given]
  rfl

theorem createWith_runsOne (maps : (Write.createWith values related).HasMaps) :
    RunsOne (createWith values related) Channel.insert ((Write.createWith values related).Fills l)
      l := by
  have statement {text : String} {written : Properties}
      (compiled : l.createWithStatement values related = .ok (text, written)) :
      (Write.createWith values related).Fills l text
        (ofEntries (l.builder.table.flatten ++ namedRow written)) := by
    obtain ⟨node, properties, others, slots, target, given, more, asked, fills⟩ :=
      createWithStatement_fills maps compiled
    refine ⟨node, "", _, slots, target, rfl, ?_, asked, fills⟩
    rw [Write.items, given, more]
    rfl
  unfold RunsOne createWith
  refine .bind (.of_get (.bind (.ofResult (fun s compiled => ?_) (Or.inl rfl))))
  refine .bind ((sendStatement_runsOne (statement compiled)).imp (fun rows l' runs => ?_) fun _ => id)
  exact .bind (.ofResult (fun _ _ => .of_pure runs) (Or.inr runs))

end LiveQuery

open LiveQuery in
/-- A write without values leaves the connection alone. Every other one runs one statement, or fails:
for each value that it is asked for, the part of the text that writes mentions one new name where the
value belongs, in the order in which the values are asked for, and these are all its mentions; the
parameters bind each of the names to its value as it is written, and every binding of the query to the
value that it had. -/
theorem Write.run_fills (w : Write) (l : LiveQuery) (maps : w.HasMaps) :
    if w.isEmpty then
      w.run.Ends l (fun _ l' => l'.channel = l.channel) fun l' => l'.channel = l.channel
    else RunsOne w.run w.send (w.Fills l) l := by
  split
  · next empty =>
    cases w with
    | insert values => exact insert_empty (by simpa [Write.isEmpty] using empty)
    | update values => exact update_empty (by simpa [Write.isEmpty] using empty)
    | insertOne _ | createWith _ _ => cases empty
  · next some =>
    cases w with
    | insert values => exact insert_runsOne (by simpa [Write.isEmpty] using some)
    | insertOne values => exact insertOne_runsOne
    | update values => exact update_runsOne (by simpa [Write.isEmpty] using some)
    | createWith values related => exact createWith_runsOne maps

open LiveQuery in
/-- A new node beside a query that binds a name of it already, with a related node of its own and two
that are attached. -/
theorem createWith_beside_filter :
    let l := afterCalls [.target (.text "Post"), .equals (.text "title") (.text "x")]
    let w := Write.createWith (.ofPairs [(.text "title", .text "a"), (.text "title!", .text "c")])
      (.ofPairs [(.text "photos", .ofPairs [(.text "labels", .text "Photo"),
        (.text "relationship", .text "PHOTO"),
        (.text "values", .ofList [.ofPairs [(.text "title", .text "b")]]),
        (.text "ids", .ofList [.int 3, .int 4])])])
    w.HasMaps ∧ RunsOne w.run w.send (w.Fills l) l ∧
      sentTexts (w.run.outcome l).2 =
        ["CREATE (post:Post \x7btitle: $title_2, `title!`: $title_3\x7d), " ++
          "(post)-[:PHOTO]->(with_photos:Photo \x7btitle: $title_4\x7d) WITH post " ++
          "CALL \x7b WITH post MATCH (with_photos_attached:Photo) " ++
          "WHERE id(with_photos_attached) IN $with_photos_ids " ++
          "MERGE (post)-[:PHOTO]->(with_photos_attached) \x7d RETURN post"] := by
  intro l w
  have maps : w.HasMaps := by
    rintro es ⟨⟩ e member r found
    obtain rfl := List.mem_singleton.mp member
    cases found
  exact ⟨maps, Write.run_fills w l maps, by decide +kernel⟩

end GraphQuery
