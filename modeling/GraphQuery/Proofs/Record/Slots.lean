import GraphQuery.Proofs.Binding.Lookup
import GraphQuery.Record.Eager
import Mathlib.Logic.Function.Basic

/-! # Where relations are kept

What is attached to a parent is put into its map of relations, and copies of a record have that very map
too. A *slot* is such a map: one with a mark, or the one that a parent has for itself. Parents to which
something was attached under one name are told by what each slot holds under it (`attachedAt`).

* `setParent_attachedAt` : attaching to one parent changes its slot and no other one.
* `keeping_attached` : what is attached later hides what was attached before.
* `without_attachedAt` : nothing else about the parents changes. -/

namespace GraphQuery

/-! ### One parent -/

/-- Whether something has a map of relations: records and entities do. -/
def Value.HasRelations (v : Value) : Prop := v.relations?.isSome = true

/-- A parent with something under a name of a relation. -/
def Value.attached (name : String) (v x : Value) : Value :=
  v.withRelations (putEntry (.text name) x v.relationRow)

/-- A parent without the relations under a name. -/
def Value.without (name : String) (v : Value) : Value :=
  v.withRelations (v.relationRow.filter fun e => !e.1.same (.text name))

theorem withRelations_withRelations (v : Value) (first second : Row) :
    (v.withRelations first).withRelations second = v.withRelations second := by
  cases v <;> rfl

theorem relationsMark?_withRelations (v : Value) (row : Row) :
    (v.withRelations row).relationsMark? = v.relationsMark? := by
  cases v <;> rfl

theorem identityOf_withRelations (v : Value) (row : Row) :
    identityOf (v.withRelations row) = identityOf v := by
  cases v <;> rfl

theorem Value.HasRelations.relationRow_withRelations {v : Value} (holds : v.HasRelations) (row : Row) :
    (v.withRelations row).relationRow = row := by
  cases v <;> first | rfl | cases holds

theorem hasRelations_withRelations (v : Value) (row : Row) :
    (v.withRelations row).HasRelations = v.HasRelations := by
  cases v <;> rfl

theorem withRelations_of_not {v : Value} (without : ¬ v.HasRelations) (row : Row) :
    v.withRelations row = v := by
  cases v <;> first | rfl | exact absurd rfl without

theorem putEntry_putEntry (s : String) (v w : Value) : ∀ row : Row,
    putEntry (.text s) w (putEntry (.text s) v row) = putEntry (.text s) w row
  | [] => by simp only [putEntry, (text_same_iff s _).mpr rfl, if_true]
  | (k, u) :: row => by
    by_cases own : (Value.text s).same k = true
    · simp only [putEntry, own, if_true]
    · simp only [putEntry, own, Bool.false_eq_true, if_false, putEntry_putEntry s v w row]

theorem attached_attached (name : String) (v w p : Value) :
    (p.attached name v).attached name w = p.attached name w := by
  by_cases holds : p.HasRelations
  · unfold Value.attached
    rw [holds.relationRow_withRelations, withRelations_withRelations, putEntry_putEntry]
  · unfold Value.attached
    rw [withRelations_of_not holds, withRelations_of_not holds]

theorem setRelation_of_hasRelations {p : Value} (holds : p.HasRelations) (name : String) (x : Value) :
    setRelation p (.text name) x = .ok (p.attached name x) := by
  cases p <;> first | rfl | cases holds

/-- Only a map, a record or an entity can have something attached. -/
theorem hasRelations_of_setRelation {p relation x q k : Value} (found : identityOf p = .ok k)
    (present : k.isNull = false) (set : setRelation p relation x = .ok q) : p.HasRelations := by
  cases p with
  | record r => rfl
  | entity e => rfl
  | map es mark =>
    cases found
    cases present
  | _ => cases set

theorem getRelation_attached {p : Value} (holds : p.HasRelations) (name : String) (x : Value) :
    getRelation (p.attached name x) (.text name) = x := by
  have found : ∀ row : Row, (entryAt? (.text name) (putEntry (.text name) x row)).getD .null = x :=
    fun row => by rw [entryAt?_putEntry_self, Option.getD_some]
  cases p <;> first | exact found _ | cases holds

theorem filter_putEntry (s : String) (v : Value) : ∀ row : Row,
    (putEntry (.text s) v row).filter (fun e => !e.1.same (.text s)) =
      row.filter fun e => !e.1.same (.text s)
  | [] => by
    rw [putEntry, List.filter_cons, (same_text_iff s _).mpr rfl]
    rfl
  | (k, w) :: row => by
    rw [putEntry]
    split
    case isTrue own =>
      obtain rfl : k = .text s := (text_same_iff s k).mp own
      rw [List.filter_cons, List.filter_cons, (same_text_iff s _).mpr rfl]
      rfl
    case isFalse => rw [List.filter_cons, List.filter_cons, filter_putEntry s v row]

theorem without_attached (name : String) (x p : Value) :
    (p.attached name x).without name = p.without name := by
  by_cases holds : p.HasRelations
  · unfold Value.attached Value.without
    rw [holds.relationRow_withRelations, withRelations_withRelations, filter_putEntry]
  · unfold Value.attached
    rw [withRelations_of_not holds]

/-! ### Slots -/

/-- Where the relations of a parent are kept: under a mark, or at its place. -/
inductive RelationSlot where
  | place (n : Nat)
  | marked (m : Nat)
deriving DecidableEq

/-- The slot of a parent at a place. -/
def Value.slot (v : Value) (place : Nat) : RelationSlot :=
  (v.relationsMark?.map RelationSlot.marked).getD (.place place)

/-- What the slots hold under one name, as far as something was attached. -/
abbrev Kept := RelationSlot → Option Value

/-- A parent at a place, with what its slot holds under a name. -/
def Value.keeping (name : String) (kept : Kept) (place : Nat) (v : Value) : Value :=
  (kept (v.slot place)).elim v fun x => v.attached name x

/-- Parents with what their slots hold under a name. -/
def attachedAt (name : String) (kept : Kept) (parents : List Value) : List Value :=
  parents.mapIdx fun place v => v.keeping name kept place

/-- One map of relations has the same relations wherever it is known. -/
def OneRow (parents : List Value) : Prop :=
  ∀ v ∈ parents, ∀ w ∈ parents, v.sharesRelations w = true → v.relationRow = w.relationRow

theorem OneRow.of_rowless {parents : List Value} (rowless : ∀ v ∈ parents, v.relationRow = []) :
    OneRow parents := fun v hv w hw _ => (rowless v hv).trans (rowless w hw).symm

theorem sharesRelations_iff {v w : Value} :
    v.sharesRelations w = true ↔ ∃ m, v.relationsMark? = some m ∧ w.relationsMark? = some m := by
  unfold Value.sharesRelations isOneMark
  rw [Bool.and_eq_true, Option.isSome_iff_exists, beq_iff_eq]
  constructor
  · rintro ⟨⟨m, own⟩, same⟩
    exact ⟨m, own, same ▸ own⟩
  · rintro ⟨m, own, other⟩
    exact ⟨⟨m, own⟩, own.trans other.symm⟩

theorem slot_eq_iff {v w : Value} {i j : Nat} :
    v.slot i = w.slot j ↔ v.sharesRelations w = true ∨
      (v.relationsMark? = none ∧ w.relationsMark? = none ∧ i = j) := by
  rw [sharesRelations_iff]
  unfold Value.slot
  cases v.relationsMark? <;> cases w.relationsMark? <;> simp [eq_comm]

theorem keeping_none {name : String} {kept : Kept} {place : Nat} {v : Value}
    (empty : kept (v.slot place) = none) : v.keeping name kept place = v := by
  unfold Value.keeping
  rw [empty]
  rfl

theorem keeping_some {name : String} {kept : Kept} {place : Nat} {v x : Value}
    (held : kept (v.slot place) = some x) : v.keeping name kept place = v.attached name x := by
  unfold Value.keeping
  rw [held]
  rfl

/-- What does not depend on the relations is the same whatever the slot of a parent holds. -/
theorem keeping_congr {α : Sort*} {f : Value → α} (same : ∀ v row, f (v.withRelations row) = f v)
    (name : String) (kept : Kept) (place : Nat) (v : Value) : f (v.keeping name kept place) = f v := by
  cases held : kept (v.slot place) with
  | none => rw [keeping_none held]
  | some x =>
    rw [keeping_some held]
    exact same v _

theorem relationsMark?_keeping (name : String) (kept : Kept) (place : Nat) (v : Value) :
    (v.keeping name kept place).relationsMark? = v.relationsMark? :=
  keeping_congr relationsMark?_withRelations name kept place v

theorem identityOf_keeping (name : String) (kept : Kept) (place : Nat) (v : Value) :
    identityOf (v.keeping name kept place) = identityOf v :=
  keeping_congr identityOf_withRelations name kept place v

theorem hasRelations_keeping (name : String) (kept : Kept) (place : Nat) (v : Value) :
    (v.keeping name kept place).HasRelations = v.HasRelations :=
  keeping_congr hasRelations_withRelations name kept place v

theorem keeping_withRelations (name : String) (kept : Kept) (place : Nat) (v : Value) (row : Row) :
    (v.keeping name kept place).withRelations row = v.withRelations row :=
  keeping_congr (fun v first => withRelations_withRelations v first row) name kept place v

theorem keeping_attached (name : String) (kept : Kept) (place : Nat) (v x : Value) :
    (v.keeping name kept place).attached name x = v.attached name x := by
  cases held : kept (v.slot place) with
  | none => rw [keeping_none held]
  | some y => rw [keeping_some held, attached_attached]

/-! ### All parents -/

theorem getElem?_attachedAt (name : String) (kept : Kept) (parents : List Value) (place : Nat) :
    (attachedAt name kept parents)[place]? = parents[place]?.map fun v => v.keeping name kept place :=
  List.getElem?_mapIdx

theorem length_attachedAt (name : String) (kept : Kept) (parents : List Value) :
    (attachedAt name kept parents).length = parents.length := List.length_mapIdx

theorem attachedAt_none (name : String) (parents : List Value) :
    attachedAt name (fun _ => none) parents = parents := by
  apply List.ext_getElem?
  intro place
  rw [getElem?_attachedAt]
  exact Option.map_id_apply

/-- Attaching to the parent at a place changes what its slot holds, at every place with that slot. -/
theorem setParent_attachedAt {parents : List Value} (one : OneRow parents) {place : Nat} {p : Value}
    (found : parents[place]? = some p) (holds : p.HasRelations) (name : String) (kept : Kept) (x : Value) :
    setParent place (p.attached name x) (attachedAt name kept parents) =
      attachedAt name (Function.update kept (p.slot place) (some x)) parents := by
  have row : (p.attached name x).relationRow = putEntry (.text name) x p.relationRow :=
    holds.relationRow_withRelations _
  apply List.ext_getElem?
  intro i
  rw [setParent, List.getElem?_set, List.length_map, length_attachedAt, List.getElem?_map,
    getElem?_attachedAt, getElem?_attachedAt]
  by_cases here : place = i
  · subst here
    rw [if_pos rfl, if_pos (List.getElem?_eq_some_iff.mp found).1, found, Option.map_some,
      keeping_some (Function.update_self ..)]
  · rw [if_neg here, Option.map_map]
    refine Option.map_congr fun v member => ?_
    show (if (p.attached name x).sharesRelations (v.keeping name kept i) then _ else _) = _
    have known : (p.attached name x).sharesRelations (v.keeping name kept i) = p.sharesRelations v := by
      unfold Value.sharesRelations Value.attached
      rw [relationsMark?_withRelations, relationsMark?_keeping]
    rw [known]
    split
    case isTrue shares =>
      have same : v.slot i = p.slot place := (slot_eq_iff.mpr (Or.inl shares)).symm
      have held : Function.update kept (p.slot place) (some x) (v.slot i) = some x := by
        rw [same, Function.update_self]
      rw [keeping_some held, keeping_withRelations, row,
        one p (List.mem_of_getElem? found) v (List.mem_of_getElem? member) shares]
      rfl
    case isFalse apart =>
      have other : v.slot i ≠ p.slot place := fun same =>
        (slot_eq_iff.mp same.symm).elim apart fun own => here own.2.2
      unfold Value.keeping
      rw [Function.update_of_ne other]

theorem without_attachedAt (name : String) (kept : Kept) (parents : List Value) :
    (attachedAt name kept parents).map (Value.without name) = parents.map (Value.without name) := by
  apply List.ext_getElem?
  intro i
  rw [List.getElem?_map, List.getElem?_map, getElem?_attachedAt, Option.map_map]
  refine Option.map_congr fun v _ => ?_
  show (v.keeping name kept i).without name = _
  cases held : kept (v.slot i) with
  | none => rw [keeping_none held]
  | some x => rw [keeping_some held, without_attached]

end GraphQuery
