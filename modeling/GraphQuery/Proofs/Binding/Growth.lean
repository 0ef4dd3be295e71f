import GraphQuery.Proofs.Binding.FreshName
import GraphQuery.Proofs.Binding.Lookup

/-! # Tables that grow

* `BindingTable.bound` is the value that a statement gets for a name.
* `BindingTable.WellNamed` holds when all names are texts, not empty and different from each other.
  No name stands in two buckets then, and the flat table has as many entries as the buckets
  (`WellNamed.length_flatten`).
* `BindingTable.Grows` relates a table to a later one that still binds every name as before.
* `BindingTable.Extends` says besides where the new entries are: at the end of one bucket. -/

namespace GraphQuery.BindingTable

open GraphQuery.Binding

/-- The value that a statement gets for a name. -/
def bound (t : BindingTable) (name : String) : Option Value := entryAt? (.text name) t.flatten

/-- All names are texts that are not empty, and no two entries have the same name. -/
structure WellNamed (t : BindingTable) : Prop where
  texts : ∀ k ∈ t.names, ∃ s, k = .text s ∧ s ≠ ""
  distinct : t.names.Nodup

theorem wellNamed_empty : WellNamed empty := ⟨fun _ h => (List.not_mem_nil h).elim, List.nodup_nil⟩

theorem mem_textNames {t : BindingTable} {s : String} : s ∈ t.textNames ↔ .text s ∈ t.names :=
  mem_filterMap_text?

theorem contains_text_iff {t : BindingTable} {s : String} :
    t.contains (.text s) = true ↔ .text s ∈ t.names := text_isIn_iff s t.names

/-! ### The flat table -/

/-- A parameter is sent under a name exactly if some bucket has it. -/
theorem text_mem_flatten_iff {t : BindingTable} {s : String} :
    .text s ∈ t.flatten.map Prod.fst ↔ ∃ b, .text s ∈ (t.bucket b).map Prod.fst := by
  unfold flatten
  rw [text_mem_keys_ofEntries_iff, entries, List.map_flatMap, List.mem_flatMap]
  exact exists_congr fun b => and_iff_right b.mem_all

namespace WellNamed

theorem flatten_eq {t : BindingTable} (h : t.WellNamed) : t.flatten = t.entries :=
  ofEntries_distinct
    (distinctKeys_of_texts (fun k hk => (h.texts k hk).imp fun _ e => e.1) h.distinct)

theorem length_flatten {t : BindingTable} (h : t.WellNamed) : t.flatten.length = t.size := by
  rw [h.flatten_eq, size]

theorem bound_eq_some_iff {t : BindingTable} (h : t.WellNamed) {s : String} {v : Value} :
    t.bound s = some v ↔ (.text s, v) ∈ t.entries := by
  unfold bound
  rw [h.flatten_eq]
  exact ⟨mem_of_entryAt?_text, entryAt?_text_of_mem h.distinct⟩

theorem bound_isSome_iff {t : BindingTable} (h : t.WellNamed) {s : String} :
    (t.bound s).isSome ↔ .text s ∈ t.names := by
  rw [Option.isSome_iff_exists, names, List.mem_map]
  constructor
  · rintro ⟨v, e⟩
    exact ⟨_, (h.bound_eq_some_iff).mp e, rfl⟩
  · rintro ⟨⟨k, v⟩, inside, rfl⟩
    exact ⟨v, (h.bound_eq_some_iff).mpr inside⟩

end WellNamed

/-! ### A new name -/

theorem putEntry_bucket {t : BindingTable} {name : Value} (new : name.isIn t.names = false)
    (v : Value) (b : Bucket) : putEntry name v (t.bucket b) = t.bucket b ++ [(name, v)] := by
  apply putEntry_new
  intro e member
  exact isIn_eq_false.mp new e.1 (mem_names.mpr ⟨b, List.mem_map_of_mem member⟩)

/-- An entry under a new name stands in its bucket, after the entries that are there. -/
theorem entries_add {t : BindingTable} {name : Value} (new : name.isIn t.names = false) (v : Value)
    (b : Bucket) : ∃ before after, t.entries = before ++ after ∧
      (t.add name v b).entries = before ++ (name, v) :: after := by
  unfold add
  rw [putEntry_bucket new]
  cases b
  · exact ⟨t.patterns, _, rfl, by simp [entries, Bucket.all, bucket, withBucket]⟩
  · exact ⟨t.patterns ++ t.projections, t.filters ++ t.havings ++ t.orderings,
      by simp [entries, Bucket.all, bucket], by simp [entries, Bucket.all, bucket, withBucket]⟩
  · exact ⟨t.patterns ++ t.projections ++ t.filters, t.havings ++ t.orderings,
      by simp [entries, Bucket.all, bucket], by simp [entries, Bucket.all, bucket, withBucket]⟩
  · exact ⟨t.patterns ++ t.projections ++ t.filters ++ t.havings, t.orderings,
      by simp [entries, Bucket.all, bucket], by simp [entries, Bucket.all, bucket, withBucket]⟩
  · exact ⟨t.patterns ++ t.projections ++ t.filters ++ t.havings ++ t.orderings, [],
      by simp [entries, Bucket.all, bucket], by simp [entries, Bucket.all, bucket, withBucket]⟩

theorem mem_names_add {t : BindingTable} {name : Value} (new : name.isIn t.names = false)
    (v : Value) (b : Bucket) (k : Value) : k ∈ (t.add name v b).names ↔ k = name ∨ k ∈ t.names := by
  obtain ⟨before, after, e, e'⟩ := entries_add new v b
  simp only [names, e, e', List.map_append, List.map_cons, List.mem_append, List.mem_cons]
  exact or_left_comm

/-! ### A new text -/

theorem flatten_add {t : BindingTable} {s : String} (new : .text s ∉ t.names) (v : Value)
    (b : Bucket) : Inserted s v t.flatten (t.add (.text s) v b).flatten := by
  obtain ⟨before, after, e, e'⟩ := entries_add (text_isIn_eq_false new) v b
  unfold flatten
  rw [e, e']
  exact ofEntries_insert (by rw [← e]; exact new)

theorem bound_add_self {t : BindingTable} {s : String} (new : .text s ∉ t.names) (v : Value)
    (b : Bucket) : (t.add (.text s) v b).bound s = some v := (flatten_add new v b).entryAt?_self

theorem entryAt?_flatten_add {t : BindingTable} {s : String} (new : .text s ∉ t.names) (v : Value)
    (b : Bucket) {k : Value} (other : k ≠ .text s) :
    entryAt? k (t.add (.text s) v b).flatten = entryAt? k t.flatten :=
  (flatten_add new v b).entryAt? other

theorem WellNamed.add {t : BindingTable} (h : t.WellNamed) {s : String} (new : .text s ∉ t.names)
    (filled : s ≠ "") (v : Value) (b : Bucket) : (t.add (.text s) v b).WellNamed := by
  refine ⟨fun k hk => ?_, ?_⟩
  · rcases (mem_names_add (text_isIn_eq_false new) v b k).mp hk with rfl | old
    · exact ⟨s, rfl, filled⟩
    · exact h.texts k old
  · obtain ⟨before, after, e, e'⟩ := entries_add (text_isIn_eq_false new) v b
    have distinct := h.distinct
    unfold names at new distinct ⊢
    rw [e, List.map_append] at new distinct
    rw [e', List.map_append, List.map_cons]
    exact List.nodup_middle.mpr (List.nodup_cons.mpr ⟨new, distinct⟩)

/-! ### Growth -/

/-- The later table binds every name as the earlier one does. -/
def Grows (t u : BindingTable) : Prop :=
  ∀ k ∈ t.names, k ∈ u.names ∧ entryAt? k u.flatten = entryAt? k t.flatten

theorem Grows.refl (t : BindingTable) : t.Grows t := fun _ h => ⟨h, rfl⟩

theorem Grows.trans {t u w : BindingTable} (h : t.Grows u) (h' : u.Grows w) : t.Grows w := by
  intro k hk
  obtain ⟨inside, e⟩ := h k hk
  obtain ⟨inside', e'⟩ := h' k inside
  exact ⟨inside', e'.trans e⟩

theorem Grows.bound {t u : BindingTable} (h : t.Grows u) (named : t.WellNamed) {s : String}
    {v : Value} (e : t.bound s = some v) : u.bound s = some v := by
  have inside := (named.bound_isSome_iff).mp (Option.isSome_of_eq_some e)
  exact ((h _ inside).2).trans e

theorem grows_add {t : BindingTable} {s : String} (new : .text s ∉ t.names) (v : Value)
    (b : Bucket) : t.Grows (t.add (.text s) v b) := by
  intro k hk
  refine ⟨(mem_names_add (text_isIn_eq_false new) v b k).mpr (Or.inr hk), entryAt?_flatten_add new v b ?_⟩
  rintro rfl
  exact new hk

/-! ### Binding -/

/-- A value is bound under a name that is free. -/
theorem uniqueName_not_mem (t : BindingTable) (base : String) :
    .text (t.uniqueName base []) ∉ t.names := by
  rw [← mem_textNames]
  unfold uniqueName
  rw [List.append_nil]
  exact firstFree_not_mem _ _

theorem uniqueName_ne_empty (t : BindingTable) {base : String} (filled : base ≠ "") :
    t.uniqueName base [] ≠ "" := firstFree_ne_empty filled _

/-! ### Entries at the end of a bucket -/

/-- The table with entries at the end of a bucket, under names that were free. -/
structure Extends (t : BindingTable) (bucket : Bucket) (es : Row) (t' : BindingTable) : Prop where
  buckets : ∀ b, t'.bucket b = if b = bucket then t.bucket b ++ es else t.bucket b
  free : ∀ e ∈ es, e.1 ∉ t.names
  distinct : (es.map Prod.fst).Nodup

namespace Extends

variable {t u w : BindingTable} {bucket : Bucket} {es fs : Row}

theorem refl (t : BindingTable) (bucket : Bucket) : t.Extends bucket [] t :=
  ⟨fun b => by simp, nofun, .nil⟩

theorem mem_names (h : t.Extends bucket es u) (k : Value) :
    k ∈ u.names ↔ k ∈ t.names ∨ k ∈ es.map Prod.fst := by
  rw [BindingTable.mem_names, BindingTable.mem_names]
  constructor
  · rintro ⟨b, inside⟩
    rw [h.buckets] at inside
    split at inside
    · rw [List.map_append, List.mem_append] at inside
      exact inside.imp_left fun old => ⟨b, old⟩
    · exact Or.inl ⟨b, inside⟩
  · rintro (⟨b, old⟩ | new)
    · refine ⟨b, ?_⟩
      rw [h.buckets]
      split
      · exact List.mem_map.mpr ((List.mem_map.mp old).imp fun e found =>
          ⟨List.mem_append_left _ found.1, found.2⟩)
      · exact old
    · refine ⟨bucket, ?_⟩
      rw [h.buckets, if_pos rfl, List.map_append]
      exact List.mem_append_right _ new

theorem trans (h : t.Extends bucket es u) (h' : u.Extends bucket fs w) :
    t.Extends bucket (es ++ fs) w := by
  refine ⟨fun b => ?_, fun e inside => ?_, ?_⟩
  · rw [h'.buckets, h.buckets]
    split
    · rw [List.append_assoc]
    · rfl
  · rcases List.mem_append.mp inside with early | late
    · exact h.free e early
    · exact fun old => h'.free e late ((h.mem_names e.1).mpr (Or.inl old))
  · rw [List.map_append]
    refine List.nodup_append.mpr ⟨h.distinct, h'.distinct, ?_⟩
    rintro k early _ late rfl
    obtain ⟨e, inside, rfl⟩ := List.mem_map.mp late
    exact h'.free e inside ((h.mem_names e.1).mpr (Or.inr early))

theorem bind (t : BindingTable) (base : String) (v : Value) (bucket : Bucket) :
    t.Extends bucket [(.text (t.uniqueName base []), v)] (t.bind base v bucket).2 := by
  have new := t.uniqueName_not_mem base
  refine ⟨fun b => ?_, List.forall_mem_singleton.mpr new, List.nodup_singleton _⟩
  show (t.add (.text (t.uniqueName base [])) v bucket).bucket b = _
  rw [bucket_add]
  split
  · rw [‹bucket = b›, if_pos rfl, putEntry_bucket (text_isIn_eq_false new)]
  · rw [if_neg fun same => ‹¬ bucket = b› same.symm]

end Extends

end GraphQuery.BindingTable
