import GraphQuery.Execution.Creation
import GraphQuery.Proofs.Binding.Spelling
import GraphQuery.Proofs.Cypher.WrittenTexts

/-! # Slots for the values of a write

A write gives every value a name of its own.  An `Item` is a value that a write is asked for, with its
role in the write; a `Slot` is an item with the name under which it is bound.

* `allocate_slots`, `allocateAll_slots` : every item gets a slot, in order.
* `WriteFrame.Admits` : the names that are taken are different, and not in the table; allocating more of
  them keeps that (`WriteFrame.Admits.allocate`). -/

namespace GraphQuery

open GraphQuery.Binding GraphQuery.Cypher GraphQuery.Text

/-! ### Items and slots -/

/-- What a value is written to: a property of a new node, a property that is set on the nodes that
match, or the relation of a new node to existing ones. -/
inductive Role where
  | created (property : String)
  | changed (property : String)
  | attached (relation : String)

namespace Role

/-- What the name of the binding is made of. -/
def base : Role → String
  | .created property => property
  | .changed property => LiveQuery.updatedName property
  | .attached relation => relatedPlaceholder relation ++ "_ids"

/-- What stands right before the parameter, where the write is about a node. -/
def lead (node : String) : Role → String
  | .created property => quote property ++ ": "
  | .changed property => node ++ "." ++ quote property ++ " = "
  | .attached relation => "id(" ++ (relatedPlaceholder relation ++ "_attached") ++ ")" ++ " IN "

end Role

/-- A value that a write is asked for. -/
structure Item where
  role : Role
  value : Value

/-- The item as an entry for which a name is chosen. -/
def Item.entry (i : Item) : String × Value := (i.role.base, i.value)

/-- The items of a new node. -/
def newItems (properties : Properties) : List Item := properties.map fun p => ⟨.created p.1, p.2⟩

theorem entries_newItems (properties : Properties) : (newItems properties).map Item.entry = properties := by
  simp [newItems, Function.comp_def, Item.entry, Role.base]

/-- The items of properties that are set on the nodes that match. -/
def changedItems (properties : Properties) : List Item :=
  properties.map fun p => ⟨.changed p.1, p.2⟩

/-- The entries of a change have names apart from those of its properties. -/
theorem entries_changedItems (properties : Properties) : (changedItems properties).map Item.entry =
    properties.map fun p => (LiveQuery.updatedName p.1, p.2) := by
  simp [changedItems, Function.comp_def, Item.entry, Role.base]

/-- An item with the name under which its value is bound. -/
structure Slot where
  item : Item
  binding : String
  spelled : IsBindingName binding

namespace Slot

/-- What is assigned in the text. -/
def assignment (s : Slot) : String × String := (s.item.role.base, s.binding)

/-- What stands in the text. -/
def pairing (node : String) (s : Slot) : Pairing := ⟨s.item.role.lead node, s.binding⟩

/-- What is bound. -/
def entry (pattern : String) (s : Slot) : String × Value :=
  (s.binding, writtenValue pattern s.item.value)

theorem spoken_binding (s : Slot) : spoken s.binding = s.binding :=
  spoken_eq fun lineBreak => s.spelled.2 _ lineBreak (by decide)

end Slot

theorem pairings_assignment {slots : List Slot} {properties : Properties}
    (h : slots.map (·.item) = newItems properties) (node : String) :
    Assignments.pairings (slots.map Slot.assignment) = slots.map (Slot.pairing node) := by
  unfold Assignments.pairings
  rw [List.map_map]
  refine List.map_congr_left fun s member => ?_
  have inside : s.item ∈ newItems properties := h ▸ List.mem_map_of_mem member
  obtain ⟨p, -, same⟩ := List.mem_map.mp inside
  simp [Slot.assignment, Slot.pairing, Slot.spoken_binding, ← same, Role.base, Role.lead]

theorem names_assignment {slots : List Slot} {properties : Properties}
    (h : slots.map (·.item) = newItems properties) :
    (slots.map Slot.assignment).map Prod.fst = properties.map Prod.fst := by
  have names := congrArg (List.map fun i : Item => i.role.base) h
  simpa [newItems, Function.comp_def, Slot.assignment, Role.base] using names

theorem pairings_assignments (node : String) : ∀ {slots : List (List Slot)} {records : List Properties},
    slots.map (·.map (·.item)) = records.map newItems →
      (slots.map (·.map Slot.assignment)).flatMap Assignments.pairings =
        slots.flatten.map (Slot.pairing node)
  | [], _, _ => rfl
  | first :: rest, [], h => by cases h
  | first :: rest, record :: records, h => by
    obtain ⟨same, others⟩ := List.cons.inj h
    rw [List.map_cons, List.flatMap_cons, pairings_assignment same node,
      pairings_assignments node others, List.flatten_cons, List.map_append]

theorem changes_bindings (node : String) : ∀ {slots : List Slot} {properties : Properties},
    slots.map (·.item) = changedItems properties →
      Assignments.changes node ((properties.map (·.1)).zip (slots.map (·.binding))) =
        slots.map (Slot.pairing node)
  | [], [], _ => rfl
  | s :: slots, (property, v) :: rest, h => by
    have item : s.item = ⟨.changed property, v⟩ := (List.cons.inj h).1
    have later := changes_bindings node (List.cons.inj h).2
    have first : Slot.pairing node s = ⟨node ++ "." ++ quote property ++ " = ", spoken s.binding⟩ := by
      rw [Slot.pairing, item, s.spoken_binding]
      rfl
    rw [List.map_cons, List.map_cons, List.map_cons, List.zip_cons_cons, first, ← later]
    rfl

/-! ### Choosing names -/

namespace WriteFrame

/-- Names that are different from each other and from those of the table. -/
structure Admits (w : WriteFrame) (taken : Properties) : Prop where
  distinct : (taken.map Prod.fst).Nodup
  free : ∀ n ∈ taken.map Prod.fst, n ∉ w.table.textNames

variable {w : WriteFrame} {taken : Properties}

theorem admits_nil (w : WriteFrame) : w.Admits [] := ⟨List.nodup_nil, by simp⟩

theorem Admits.add (h : w.Admits taken) (base : String) (v : Value) :
    w.Admits (taken ++ [(firstFree (w.table.textNames ++ taken.map (·.1)) base, v)]) := by
  obtain ⟨inTable, inTaken⟩ := not_or.mp
    (mt List.mem_append.mpr (firstFree_not_mem (w.table.textNames ++ taken.map (·.1)) base))
  constructor
  · rw [List.map_append, List.map_singleton, ← List.concat_eq_append]
    exact h.distinct.concat inTaken
  · rw [List.map_append]
    refine List.forall_mem_append.mpr ⟨h.free, ?_⟩
    simpa using inTable

theorem Admits.allocate (h : w.Admits taken) (ps : Properties) :
    w.Admits (GraphQuery.allocate w ps taken).2 := by
  induction ps generalizing taken with
  | nil => exact h
  | cons p rest ih => exact ih (h.add (bindingName p.1) (writtenValue w.pattern p.2))

theorem Admits.allocateAll (h : w.Admits taken) (records : List Properties) :
    w.Admits (GraphQuery.allocateAll w records taken).2 := by
  induction records generalizing taken with
  | nil => exact h
  | cons record rest ih => exact ih (h.allocate record)

end WriteFrame

variable (w : WriteFrame)

/-- Every item gets a slot. -/
theorem allocate_slots : ∀ (items : List Item) (taken : Properties),
    ∃ slots : List Slot, slots.map (·.item) = items ∧ allocate w (items.map Item.entry) taken =
      (slots.map Slot.assignment, taken ++ slots.map (Slot.entry w.pattern))
  | [], taken => ⟨[], rfl, by simp [allocate]⟩
  | item :: rest, taken => by
    let first : Slot := ⟨item, firstFree (w.table.textNames ++ taken.map (·.1))
      (bindingName item.role.base), firstFree_isBindingName (bindingName_isBindingName _) _⟩
    obtain ⟨slots, same, written⟩ := allocate_slots rest (taken ++ [first.entry w.pattern])
    have step : allocate w ((item :: rest).map Item.entry) taken =
        (first.assignment ::
            (allocate w (rest.map Item.entry) (taken ++ [first.entry w.pattern])).1,
          (allocate w (rest.map Item.entry) (taken ++ [first.entry w.pattern])).2) := rfl
    refine ⟨first :: slots, congrArg (item :: ·) same, ?_⟩
    rw [step, written, List.append_assoc]
    rfl

/-- Every item of several records gets a slot. -/
theorem allocateAll_slots : ∀ (records : List (List Item)) (taken : Properties),
    ∃ slots : List (List Slot), slots.map (·.map (·.item)) = records ∧
      allocateAll w (records.map (·.map Item.entry)) taken =
        (slots.map (·.map Slot.assignment), taken ++ slots.flatten.map (Slot.entry w.pattern))
  | [], taken => ⟨[], rfl, by simp [allocateAll]⟩
  | record :: rest, taken => by
    obtain ⟨first, same, written⟩ := allocate_slots w record taken
    obtain ⟨slots, others, later⟩ :=
      allocateAll_slots rest (taken ++ first.map (Slot.entry w.pattern))
    refine ⟨first :: slots, congrArg₂ List.cons same others, ?_⟩
    rw [List.map_cons, allocateAll, written]
    dsimp only
    rw [later, List.flatten_cons, List.map_append, List.append_assoc]
    rfl

theorem allocateAll_records (records : List Properties) (taken : Properties) :
    ∃ slots : List (List Slot), slots.map (·.map (·.item)) = records.map newItems ∧
      allocateAll w records taken =
        (slots.map (·.map Slot.assignment), taken ++ slots.flatten.map (Slot.entry w.pattern)) := by
  have entries : (records.map newItems).map (·.map Item.entry) = records := by
    simp [Function.comp_def, entries_newItems]
  have all := allocateAll_slots w (records.map newItems) taken
  rwa [entries] at all

end GraphQuery
