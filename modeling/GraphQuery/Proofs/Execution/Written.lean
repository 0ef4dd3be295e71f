import GraphQuery.Execution.Creation
import GraphQuery.Proofs.Builder.Twin

/-! # Writing other values

The values of a write get names that are free beside the names in the table of the query and beside
each other, chosen by the names of the properties.  So what a write sends is the same text, whichever
values are written under the same names of properties.

* `Value.Keyed` and `Value.TwinRecords` : maps, and records to insert, that differ in the values of
  properties alone.
* `allocate_same` and `allocateAll_same` : such values get the same names.
* `LiveQuery.Alike` : two live queries that differ in bound values alone.  Their statements have the
  same texts (`LiveQuery.Alike.insertStatement_same` and the others). -/

namespace GraphQuery

open GraphQuery.Binding GraphQuery.Cypher GraphQuery.Schema

theorem Together.sameNames {ε K V : Type} (x : Except ε (List (List (K × V)))) :
    Together (List.Forall₂ SameNames) x x := by
  refine (Together.same x).imp ?_
  rintro _ _ rfl
  exact List.forall₂_same.mpr fun _ _ => .refl _

/-! ### Values with the same keys -/

/-- Two maps with the same keys. -/
def Value.Keyed (v v' : Value) : Prop :=
  ∃ es es', v.entries? = some es ∧ v'.entries? = some es' ∧ SameNames es es'

/-- Twice the same value, or two maps with the same keys, or as many of them in two lists. -/
inductive Value.TwinRecords : Value → Value → Prop
  | same (v : Value) : TwinRecords v v
  | one {v v' : Value} : v.Keyed v' → TwinRecords v v'
  | list {xs xs' : List Value} (mark mark' : Option Nat) : List.Forall₂ Keyed xs xs' →
    TwinRecords (.list xs mark) (.list xs' mark')
  | tuple {xs xs' : List Value} : List.Forall₂ Keyed xs xs' → TwinRecords (.tuple xs) (.tuple xs')

namespace Value

variable {v v' : Value}

theorem Keyed.mapEntries_same (h : v.Keyed v') :
    Together SameNames (mapEntries v) (mapEntries v') := by
  obtain ⟨es, es', e, e', same⟩ := h
  unfold mapEntries
  rw [e, e']
  exact .ok same

theorem entries_isTruthy {es : List (Value × Value)} (e : v.entries? = some es) :
    v.isTruthy = !es.isEmpty ∧ v.members? = some (es.map Prod.fst) := by
  cases v <;> cases e
  · exact ⟨rfl, rfl⟩
  all_goals
    constructor
    · unfold isTruthy
      rw [List.isEmpty_map]
    · unfold members?
      rw [List.map_map]
      rfl

/-- Records that differ in values alone are there together, or are missing together. -/
theorem TwinRecords.isTruthy_eq (h : v.TwinRecords v') : v.isTruthy = v'.isTruthy := by
  have listed {xs xs' : List Value} (h : List.Forall₂ Keyed xs xs') :
      (!xs.isEmpty) = !xs'.isEmpty := by cases h <;> rfl
  cases h with
  | same => rfl
  | list _ _ h | tuple h => exact listed h
  | one h =>
      obtain ⟨es, es', e, e', same⟩ := h
      rw [(entries_isTruthy e).1, (entries_isTruthy e').1, ← List.isEmpty_map, same, List.isEmpty_map]

theorem TwinRecords.drains_eq (h : v.TwinRecords v') : v.drains? = v'.drains? := by
  have map {v : Value} {es : List (Value × Value)} (e : v.entries? = some es) : v.drains? = none := by
    cases v <;> cases e <;> rfl
  cases h with
  | same | list | tuple => rfl
  | one h =>
      obtain ⟨es, es', e, e', -⟩ := h
      exact (map e).trans (map e').symm

end Value

/-- The names of properties are the keys of the map. -/
theorem propertiesOf_names : ∀ {es : List (Value × Value)} {ps : Properties},
    propertiesOf es = .ok ps → ps.map (fun p => Value.text p.1) = es.map Prod.fst
  | [], ps, h => by
    obtain rfl := Except.ok.inj h
    rfl
  | (key, v) :: rest, ps, h => by
    unfold propertiesOf at h
    rw [List.mapM_cons] at h
    obtain ⟨p, first, tail⟩ := Result.bind_eq_ok h
    obtain ⟨more, others, built⟩ := Result.bind_eq_ok tail
    obtain rfl := Except.ok.inj built
    have name : Value.text p.1 = key := by
      dsimp only at first
      split at first
      · obtain rfl := Except.ok.inj first
        rfl
      · cases first
    rw [List.map_cons, propertiesOf_names others, List.map_cons, name]

theorem propertiesOf_same {es es' : List (Value × Value)} (h : SameNames es es') :
    Together SameNames (propertiesOf es) (propertiesOf es') := by
  intro ps ps' e e'
  have texts : (ps.map Prod.fst).map Value.text = (ps'.map Prod.fst).map Value.text := by
    rw [List.map_map, List.map_map]
    exact (propertiesOf_names e).trans (h.trans (propertiesOf_names e').symm)
  exact List.map_injective_iff.mpr (fun _ _ => Value.text.inj) texts

theorem Value.Keyed.properties_same {v v' : Value} (h : v.Keyed v') :
    Together SameNames ((mapEntries v).bind propertiesOf) ((mapEntries v').bind propertiesOf) :=
  h.mapEntries_same.bind fun _ _ => propertiesOf_same

/-! ### Names for written values -/

section allocate

variable {w w' : WriteFrame} (tables : w.table.Alike w'.table)
include tables

theorem allocate_same : ∀ {ps ps' taken taken' : Properties}, SameNames ps ps' →
    SameNames taken taken' → (allocate w ps taken).1 = (allocate w' ps' taken').1 ∧
      SameNames (allocate w ps taken).2 (allocate w' ps' taken').2
  | [], ps', taken, taken', same, others => by
    obtain rfl : ps' = [] := List.map_eq_nil_iff.mp same.symm
    exact ⟨rfl, others⟩
  | _ :: _, [], _, _, same, _ => by cases same
  | (property, v) :: rest, (property', v') :: rest', taken, taken', same, others => by
    obtain ⟨name, following⟩ := SameNames.cons_iff.mp same
    obtain rfl : property = property' := name
    have chosen : firstFree (w.table.textNames ++ taken.map (·.1)) (bindingName property) =
        firstFree (w'.table.textNames ++ taken'.map (·.1)) (bindingName property) := by
      rw [tables.textNames_eq, show taken.map (·.1) = taken'.map (·.1) from others]
    have grown : SameNames (taken ++ [(firstFree (w.table.textNames ++ taken.map (·.1))
        (bindingName property), writtenValue w.pattern v)]) (taken' ++ [(firstFree
        (w'.table.textNames ++ taken'.map (·.1)) (bindingName property),
          writtenValue w'.pattern v')]) :=
      others.append (congrArg (fun n => [n]) chosen)
    obtain ⟨assigned, written⟩ := allocate_same following grown
    exact ⟨congrArg₂ (fun n a => (property, n) :: a) chosen assigned, written⟩

theorem allocateAll_same : ∀ {rs rs' : List Properties} {taken taken' : Properties},
    List.Forall₂ SameNames rs rs' → SameNames taken taken' →
      (allocateAll w rs taken).1 = (allocateAll w' rs' taken').1 ∧
        SameNames (allocateAll w rs taken).2 (allocateAll w' rs' taken').2
  | [], [], _, _, _, others => ⟨rfl, others⟩
  | record :: rest, record' :: rest', taken, taken', .cons first same, others => by
    obtain ⟨assigned, written⟩ := allocate_same tables first others
    obtain ⟨all, last⟩ := allocateAll_same same written
    exact ⟨congrArg₂ List.cons assigned all, last⟩

end allocate

/-! ### Records to insert -/

theorem sortedByName_same {ps ps' : Properties} (h : SameNames ps ps') :
    SameNames (LiveQuery.sortedByName ps) (LiveQuery.sortedByName ps') := by
  have names (ps : Properties) : (LiveQuery.sortedByName ps).map Prod.fst =
      (ps.map Prod.fst).mergeSort fun a b => !(b < a) :=
    List.map_mergeSort fun _ _ _ _ => rfl
  unfold SameNames
  rw [names, names, h]

theorem Value.TwinRecords.toInsert_same {v v' : Value} (h : v.TwinRecords v') :
    Together (List.Forall₂ SameNames) (LiveQuery.recordsToInsert v)
      (LiveQuery.recordsToInsert v') := by
  have read {xs xs' : List Value} (h : List.Forall₂ Keyed xs xs') :
      Together (List.Forall₂ SameNames)
        (xs.mapM fun record => do
          return LiveQuery.sortedByName (← propertiesOf (← mapEntries record)))
        (xs'.mapM fun record => do
          return LiveQuery.sortedByName (← propertiesOf (← mapEntries record))) :=
    .mapM h fun _ _ same => same.mapEntries_same.bind fun _ _ entries =>
      (propertiesOf_same entries).bind fun _ _ properties => .ok (sortedByName_same properties)
  cases h with
  | same v => exact .sameNames _
  | list _ _ h | tuple h => exact read h
  | one h =>
      obtain ⟨es, es', e, e', same⟩ := h
      unfold LiveQuery.recordsToInsert
      rw [e, e']
      exact read (.cons ⟨es, es', e, e', same⟩ .nil)

/-! ### Statements -/

/-- The same text, with values that are written under the same names. -/
def SameStatement (x y : Result (String × Properties)) : Prop :=
  Together (fun s t => s.1 = t.1 ∧ SameNames s.2 t.2) x y

/-- Two live queries that differ in bound values alone, and maybe in what their connection has done. -/
structure LiveQuery.Alike (l l' : LiveQuery) : Prop where
  builder : l.builder.Alike l'.builder
  number : l.number = l'.number

namespace LiveQuery

/-- A frame is beside the table of the query, and has the pattern of the grammar or the usual one. -/
theorem writeFrame_eq {l : LiveQuery} {values : List Value} {w : WriteFrame}
    (h : l.writeFrame values = .ok w) :
    w = ⟨l.builder.table, l.datePattern.getD standardPattern⟩ := by
  unfold writeFrame at h
  dsimp only at h
  cases dated : values.any isDated
  all_goals
    simp only [dated, Bool.false_eq_true, if_false, if_true] at h
    split at h
  -- what comes before the pattern is asked for
  case' false.isTrue | true.isFalse => obtain ⟨-, -, h⟩ := Result.bind_eq_ok h
  case' true.isTrue =>
    obtain ⟨-, -, h⟩ := Result.bind_eq_ok h
    obtain ⟨-, -, h⟩ := Result.bind_eq_ok h
  -- without a pattern there is the usual one, or none at all
  all_goals
    split at h
    · next pattern given =>
      rw [given]
      exact (Except.ok.inj h).symm
    · next absent =>
      rw [absent]
      first | exact (Except.ok.inj h).symm | cases h

theorem writeFrame_table {l : LiveQuery} {values : List Value} {w : WriteFrame}
    (h : l.writeFrame values = .ok w) : w.table = l.builder.table := by rw [writeFrame_eq h]

namespace Alike

variable {l l' : LiveQuery} {v v' : Value}

theorem query_eq (h : l.Alike l') : l.query = l'.query := h.builder.query

theorem statement_eq (h : l.Alike l') : l.statement = l'.statement := by
  unfold statement
  rw [h.number, h.query_eq]

theorem writeFrame_same (h : l.Alike l') (values values' : List Value) :
    Together (fun w w' => w.table.Alike w'.table) (l.writeFrame values) (l'.writeFrame values') := by
  intro w w' e e'
  rw [writeFrame_table e, writeFrame_table e']
  exact h.builder.table

theorem insertStatement_same (h : l.Alike l') (values : v.TwinRecords v') :
    SameStatement (l.insertStatement v) (l'.insertStatement v') := by
  refine values.toInsert_same.bind fun records records' same => ?_
  refine (h.writeFrame_same _ _).bind fun w w' tables => ?_
  obtain ⟨names, written⟩ := allocateAll_same tables same (.refl [])
  dsimp only
  rw [names, h.query_eq]
  exact .after _ fun _ => .after _ fun _ => .ok ⟨rfl, written⟩

theorem createStatement_same (h : l.Alike l') (values : v.Keyed v') :
    SameStatement (l.createStatement v) (l'.createStatement v') := by
  refine values.properties_same.bind fun properties properties' same => ?_
  refine (h.writeFrame_same _ _).bind fun w w' tables => ?_
  obtain ⟨names, written⟩ := allocate_same tables same (.refl [])
  dsimp only
  rw [names, h.query_eq]
  exact .after _ fun _ => .after _ fun _ => .ok ⟨rfl, written⟩

theorem updateStatement_same (h : l.Alike l') (values : v.Keyed v') :
    SameStatement (l.updateStatement v) (l'.updateStatement v') := by
  refine values.mapEntries_same.bind fun entries entries' keys => ?_
  rw [h.query_eq]
  refine .after _ fun _ => .after _ fun _ => (propertiesOf_same keys).bind fun ps ps' same => ?_
  refine (h.writeFrame_same _ _).bind fun w w' tables => ?_
  obtain ⟨names, written⟩ := allocate_same tables (same.mapNames updatedName) (.refl [])
  dsimp only
  rw [names, show ps.map (·.1) = ps'.map (·.1) from same]
  exact .after _ fun _ => .ok ⟨rfl, written⟩

end Alike

end LiveQuery

end GraphQuery
