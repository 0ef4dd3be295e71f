import GraphQuery.Binding.Table

/-! # Names without values

Which name a value is bound under, and which names are changed when a table is taken in, depends on
the names in the tables alone.

* `SameNames` : two lists of named values have the same names in the same order.
* `BindingTable.Alike` : two tables have the same names in the same buckets, in the same order.
* Every operation on tables gives tables that are alike when it is given such tables, and chooses the
  same names (`Alike.add`, `Alike.bind`, `Alike.absorb`). -/

namespace GraphQuery

open GraphQuery.Binding

section SameNames

variable {K V W : Type}

/-- The same names in the same order, whatever their values are. -/
def SameNames (row row' : List (K × V)) : Prop := row.map Prod.fst = row'.map Prod.fst

namespace SameNames

variable {row row' more more' : List (K × V)}

theorem refl (row : List (K × V)) : SameNames row row := Eq.refl _

theorem append (h : SameNames row row') (h' : SameNames more more') :
    SameNames (row ++ more) (row' ++ more') := by
  unfold SameNames at *
  rw [List.map_append, List.map_append, h, h']

theorem cons_iff {e e' : K × V} :
    SameNames (e :: row) (e' :: row') ↔ e.1 = e'.1 ∧ SameNames row row' := by
  unfold SameNames
  rw [List.map_cons, List.map_cons, List.cons.injEq]

/-- Names that are changed alike stay the same. -/
theorem mapNames (h : SameNames row row') (f : K → W) :
    SameNames (row.map fun e => (f e.1, e.2)) (row'.map fun e => (f e.1, e.2)) := by
  have both := congrArg (List.map f) h
  unfold SameNames
  rw [List.map_map, List.map_map] at both ⊢
  exact both

end SameNames

theorem SameNames.putEntry {row row' : Row} (h : SameNames row row') (k v v' : Value) :
    SameNames (putEntry k v row) (putEntry k v' row') := by
  induction row generalizing row' with
  | nil =>
      obtain rfl : row' = [] := List.map_eq_nil_iff.mp h.symm
      exact Eq.refl [k]
  | cons e rest ih =>
      cases row' with
      | nil => cases h
      | cons e' rest' =>
          obtain ⟨name, others⟩ := SameNames.cons_iff.mp h
          unfold GraphQuery.putEntry
          rw [name]
          split
          · exact SameNames.cons_iff.mpr ⟨rfl, others⟩
          · exact SameNames.cons_iff.mpr ⟨rfl, ih others⟩

theorem SameNames.put {row row' : List (String × V)} (h : SameNames row row') (k : String)
    (v v' : V) : SameNames (put k v row) (put k v' row') := by
  induction row generalizing row' with
  | nil =>
      obtain rfl : row' = [] := List.map_eq_nil_iff.mp h.symm
      exact Eq.refl [k]
  | cons e rest ih =>
      cases row' with
      | nil => cases h
      | cons e' rest' =>
          obtain ⟨name, others⟩ := SameNames.cons_iff.mp h
          unfold GraphQuery.put
          rw [name]
          split
          · exact SameNames.cons_iff.mpr ⟨rfl, others⟩
          · exact SameNames.cons_iff.mpr ⟨rfl, ih others⟩

theorem SameNames.putAll : ∀ {more more' row row' : List (String × V)}, SameNames more more' →
    SameNames row row' → SameNames (putAll row more) (putAll row' more')
  | [], more', _, _, same, h => by
    obtain rfl : more' = [] := List.map_eq_nil_iff.mp same.symm
    exact h
  | _ :: _, [], _, _, same, _ => by cases same
  | e :: rest, e' :: rest', row, row', same, h => by
    obtain ⟨name, others⟩ := SameNames.cons_iff.mp same
    have first : SameNames (GraphQuery.put e.1 e.2 row) (GraphQuery.put e'.1 e'.2 row') :=
      name ▸ h.put e.1 e.2 e'.2
    have last := SameNames.putAll others first
    exact last

end SameNames

namespace BindingTable

/-- The same names in the same buckets, in the same order. -/
def Alike (t u : BindingTable) : Prop := ∀ b, SameNames (t.bucket b) (u.bucket b)

namespace Alike

variable {t u : BindingTable}

theorem refl (t : BindingTable) : t.Alike t := fun _ => .refl _

theorem names_eq (h : t.Alike u) : t.names = u.names := by
  unfold names entries
  rw [List.map_flatMap, List.map_flatMap]
  exact congrArg (Bucket.all.flatMap ·) (funext h)

theorem textNames_eq (h : t.Alike u) : t.textNames = u.textNames := by
  unfold textNames
  rw [h.names_eq]

theorem contains_eq (h : t.Alike u) (name : Value) : t.contains name = u.contains name := by
  unfold contains
  rw [h.names_eq]

theorem uniqueName_eq (h : t.Alike u) (base : String) (reserved : List String) :
    t.uniqueName base reserved = u.uniqueName base reserved := by
  unfold uniqueName
  rw [h.textNames_eq]

theorem freshName_eq (h : t.Alike u) (base : Value) (reserved : List Value) :
    t.freshName base reserved = u.freshName base reserved := by
  unfold freshName
  rw [h.names_eq]

theorem withBucket (h : t.Alike u) {row row' : Row} (same : SameNames row row') (b : Bucket) :
    (t.withBucket row b).Alike (u.withBucket row' b) := by
  intro c
  rw [bucket_withBucket, bucket_withBucket]
  split
  · exact same
  · exact h c

theorem add (h : t.Alike u) (name v v' : Value) (b : Bucket) :
    (t.add name v b).Alike (u.add name v' b) :=
  h.withBucket ((h b).putEntry name v v') b

theorem bind (h : t.Alike u) (base : String) (v v' : Value) (b : Bucket) :
    (t.bind base v b).1 = (u.bind base v' b).1 ∧
      (t.bind base v b).2.Alike (u.bind base v' b).2 := by
  have name := h.uniqueName_eq base []
  unfold BindingTable.bind
  rw [name]
  exact ⟨rfl, h.add _ v v' b⟩

/-! ### Taking in another table -/

/-- Two tables in the course of taking others in: they are alike, and the same names have been
changed. -/
def Absorbing (acc acc' : BindingTable × Renames) : Prop := acc.1.Alike acc'.1 ∧ acc.2 = acc'.2

/-- Taking one entry in renames it in both tables or in neither. -/
theorem absorbEntry {acc acc' : BindingTable × Renames} (h : Absorbing acc acc')
    (reserved : List Value) (b : Bucket) {e e' : Value × Value} (name : e.1 = e'.1) :
    Absorbing (absorbEntry reserved b acc e) (absorbEntry reserved b acc' e') := by
  obtain ⟨tables, renames⟩ := h
  unfold BindingTable.absorbEntry
  rw [name, tables.contains_eq, tables.freshName_eq, renames]
  exact ⟨tables.add _ _ _ b, rfl⟩

theorem absorbEntries (reserved : List Value) (b : Bucket) : ∀ {row row' : Row},
    SameNames row row' → ∀ {acc acc' : BindingTable × Renames}, Absorbing acc acc' →
      Absorbing (row.foldl (BindingTable.absorbEntry reserved b) acc)
        (row'.foldl (BindingTable.absorbEntry reserved b) acc')
  | [], row', same, acc, acc', h => by
    obtain rfl : row' = [] := List.map_eq_nil_iff.mp same.symm
    exact h
  | e :: rest, [], same, _, _, _ => by cases same
  | e :: rest, e' :: rest', same, acc, acc', h => by
    obtain ⟨name, others⟩ := SameNames.cons_iff.mp same
    exact absorbEntries reserved b others (absorbEntry h reserved b name)

/-- Of tables that are alike the same names are changed. -/
theorem absorb (h : t.Alike u) {other other' : BindingTable} (h' : other.Alike other') :
    (t.absorb other).1.Alike (u.absorb other').1 ∧ (t.absorb other).2 = (u.absorb other').2 := by
  have buckets : ∀ (bs : List Bucket) {acc acc' : BindingTable × Renames}, Absorbing acc acc' →
      Absorbing (bs.foldl (absorbBucket other) acc) (bs.foldl (absorbBucket other') acc') := by
    intro bs
    induction bs with
    | nil => exact fun start => start
    | cons b rest ih =>
        intro acc acc' start
        refine ih ?_
        unfold absorbBucket
        rw [h'.names_eq]
        exact absorbEntries _ b (h' b) start
  exact buckets Bucket.all ⟨h, rfl⟩

end Alike

end BindingTable

end GraphQuery
