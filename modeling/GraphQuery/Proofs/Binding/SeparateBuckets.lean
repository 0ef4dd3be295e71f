import GraphQuery.Proofs.Binding.Merging
import GraphQuery.Proofs.Binding.Snapshots
import Mathlib.Data.List.Pairwise

/-! # Names that stand in one bucket

A name is looked up in the first bucket that has it, and is sent with the value of the last one.  These
are the same bucket, unless the name stands in two (`Shares`).

* `Separate` : no name stands in two buckets.
* `TextKeyed` : names are texts, and no bucket has one of them twice.
* `size_eq_length_flatten_iff` : among texts, the buckets are separate exactly if no entry gets lost in
  the flat table; what is looked up is what is sent then (`Separate.get?_eq`).
* `separate_iff_of_gains`, `separate_withBucket_iff` : only what is stored can get into a second bucket.
* `absorb_keyed` : taking another table in keeps the buckets separate, whatever the other one is. -/

namespace GraphQuery

namespace BindingTable

variable {t u other : BindingTable} {name : Value} {b : Bucket}

/-- Whether a name stands in two buckets. -/
def Shares (t : BindingTable) (name : Value) : Prop :=
  ∃ b c, b ≠ c ∧ name ∈ (t.bucket b).map Prod.fst ∧ name ∈ (t.bucket c).map Prod.fst

/-- No name stands in two buckets. -/
def Separate (t : BindingTable) : Prop := ∀ name, ¬ t.Shares name

/-- Every name is a text, and no bucket has it twice. -/
structure TextKeyed (t : BindingTable) : Prop where
  texts : ∀ k ∈ t.names, ∃ s, k = .text s
  distinct : ∀ b, ((t.bucket b).map Prod.fst).Nodup

theorem separate_empty : empty.Separate := by
  rintro name ⟨b, -, -, member, -⟩
  cases b <;> cases member

theorem textKeyed_empty : empty.TextKeyed where
  texts _ member := (List.not_mem_nil member).elim
  distinct b := by cases b <;> exact List.nodup_nil

/-! ### Looking up and sending -/

theorem TextKeyed.nodup_names_iff (keyed : t.TextKeyed) : t.names.Nodup ↔ t.Separate := by
  let Apart (b c : Bucket) := ((t.bucket b).map Prod.fst).Disjoint ((t.bucket c).map Prod.fst)
  have apart : Bucket.all.Pairwise Apart ↔ t.Separate := by
    constructor
    · rintro disjoint name ⟨b, c, differ, here, there⟩
      have symmetric : Std.Symm Apart := ⟨fun _ _ apart _ here there => apart there here⟩
      exact disjoint.forall b.mem_all c.mem_all differ here there
    · intro separate
      refine List.Nodup.pairwise_of_forall_ne (by decide) fun b _ c _ differ name here there => ?_
      exact separate name ⟨b, c, differ, here, there⟩
  unfold names entries
  rw [List.map_flatMap, List.nodup_flatMap, and_iff_right fun b _ => keyed.distinct b]
  exact apart

theorem Separate.flatten_eq (separate : t.Separate) (keyed : t.TextKeyed) : t.flatten = t.entries :=
  ofEntries_distinct (distinctKeys_of_texts keyed.texts (keyed.nodup_names_iff.mpr separate))

/-- As many values are sent as there are entries exactly if no name stands in two buckets. -/
theorem TextKeyed.size_eq_length_flatten_iff (keyed : t.TextKeyed) :
    t.size = t.flatten.length ↔ t.Separate := by
  constructor
  · intro all
    rw [← keyed.nodup_names_iff]
    by_contra repeated
    exact Nat.ne_of_lt (length_ofEntries_lt keyed.texts repeated) all.symm
  · intro separate
    rw [separate.flatten_eq keyed, size]

theorem Separate.get?_eq (separate : t.Separate) (keyed : t.TextKeyed) (name : Value) :
    t.get? name = entryAt? name t.flatten := by
  rw [separate.flatten_eq keyed, get?]

/-! ### Storing -/

/-- Only a name that is stored can stand in two buckets when it did not before. -/
theorem separate_iff_of_gains (separate : t.Separate) (stored : List Value)
    (gains : ∀ b, ∀ k ∈ (u.bucket b).map Prod.fst, k ∈ (t.bucket b).map Prod.fst ∨ k ∈ stored) :
    u.Separate ↔ ∀ k ∈ stored, ¬ u.Shares k := by
  refine ⟨fun after k _ => after k, fun apart name shared => ?_⟩
  obtain ⟨b, c, differ, here, there⟩ := shared
  by_cases own : name ∈ stored
  · exact apart name own ⟨b, c, differ, here, there⟩
  · exact separate name ⟨b, c, differ, (gains b name here).resolve_right own,
      (gains c name there).resolve_right own⟩

theorem Separate.of_fewer (separate : t.Separate)
    (fewer : ∀ b, ∀ k ∈ (u.bucket b).map Prod.fst, k ∈ (t.bucket b).map Prod.fst) : u.Separate :=
  (separate_iff_of_gains separate [] fun b k member => Or.inl (fewer b k member)).mpr nofun

theorem separate_withBucket_iff {row : Row} (separate : t.Separate) (stored : List Value)
    (gains : ∀ k ∈ row.map Prod.fst, k ∈ (t.bucket b).map Prod.fst ∨ k ∈ stored)
    (held : ∀ k ∈ stored, k ∈ row.map Prod.fst) :
    (t.withBucket row b).Separate ↔ ∀ k ∈ stored, ∀ c, c ≠ b → k ∉ (t.bucket c).map Prod.fst := by
  have own : (t.withBucket row b).bucket b = row := by simp
  have others : ∀ c, c ≠ b → (t.withBucket row b).bucket c = t.bucket c := fun c other => by
    rw [bucket_withBucket, if_neg (Ne.symm other)]
  rw [separate_iff_of_gains separate stored fun c k member => ?_]
  · refine forall₂_congr fun k member => ?_
    constructor
    · intro apart c differ inside
      exact apart ⟨c, b, differ, (others c differ).symm ▸ inside, own.symm ▸ held k member⟩
    · rintro apart ⟨c, d, differ, here, there⟩
      by_cases same : c = b
      · subst same
        exact apart d differ.symm (others d differ.symm ▸ there)
      · exact apart c same (others c same ▸ here)
  · by_cases same : c = b
    · subst same
      exact gains k (own ▸ member)
    · exact Or.inl (others c same ▸ member)

/-- A text may be stored in a bucket if no other one has it. -/
theorem separate_add_iff (separate : t.Separate) (s : String) (v : Value) (b : Bucket) :
    (t.add (.text s) v b).Separate ↔ ∀ c, c ≠ b → .text s ∉ (t.bucket c).map Prod.fst := by
  have held : .text s ∈ (putEntry (.text s) v (t.bucket b)).map Prod.fst :=
    List.mem_map_of_mem (mem_of_entryAt?_text (entryAt?_putEntry_self s v (t.bucket b)))
  unfold add
  rw [separate_withBucket_iff separate [.text s]
    (fun k member => ((mem_keys_putEntry member).symm).imp_right List.mem_singleton.mpr)
    (List.forall_mem_singleton.mpr held), List.forall_mem_singleton]

theorem Separate.add_new (separate : t.Separate) {s : String} (new : .text s ∉ t.names) (v : Value)
    (b : Bucket) : (t.add (.text s) v b).Separate :=
  (separate_add_iff separate s v b).mpr fun c _ inside => new (mem_names.mpr ⟨c, inside⟩)

theorem TextKeyed.of_buckets (keyed : t.TextKeyed) (buckets : ∀ b, u.bucket b = t.bucket b ∨
    (∀ k ∈ (u.bucket b).map Prod.fst, ∃ s, k = .text s) ∧ DistinctKeys (u.bucket b)) :
    u.TextKeyed := by
  refine ⟨fun k member => ?_, fun b => ?_⟩
  · obtain ⟨b, inside⟩ := mem_names.mp member
    rcases buckets b with same | ⟨texts, -⟩
    · exact keyed.texts k (mem_names.mpr ⟨b, same ▸ inside⟩)
    · exact texts k inside
  · rcases buckets b with same | ⟨texts, distinct⟩
    · exact same ▸ keyed.distinct b
    · exact distinct.nodup texts

theorem TextKeyed.add (keyed : t.TextKeyed) (s : String) (v : Value) (b : Bucket) :
    (t.add (.text s) v b).TextKeyed := by
  have texts : ∀ k ∈ (t.bucket b).map Prod.fst, ∃ s, k = .text s := fun k member =>
    keyed.texts k (mem_names.mpr ⟨b, member⟩)
  refine keyed.of_buckets fun c => ?_
  rw [bucket_add]
  split
  · refine Or.inr ⟨fun k member => ?_, (distinctKeys_of_texts texts (keyed.distinct b)).putEntry _ _⟩
    exact (mem_keys_putEntry member).elim (fun own => ⟨s, own⟩) (texts k)
  · exact Or.inl rfl

/-! ### Taking in another table -/

/-- A table that takes entries in, and the new names that it has given: what has one is in the table. -/
structure Taking (t : BindingTable) (acc : BindingTable × Renames) : Prop where
  keyed : acc.1.TextKeyed
  separate : t.Separate → acc.1.Separate
  texts : ∀ e ∈ acc.2, (∃ s, e.1 = .text s) ∧ ∃ s, e.2 = .text s
  present : ∀ s, .text s ∉ acc.1.names → entryAt? (.text s) acc.2 = none

/-- One entry is taken in, under a text that is new. -/
theorem Taking.step {acc : BindingTable × Renames} (h : Taking t acc) (reserved : List Value) (b : Bucket)
    (s : String) (v : Value) : Taking t (absorbEntry reserved b acc (.text s, v)) := by
  obtain ⟨u, renames⟩ := acc
  have waiting : (Value.text s).isIn u.names = false → ∀ l, (∃ r, l = .text r) →
      l.same (.text s) = true → entryAt? l renames = none := by
    intro absent l _ same
    rw [(same_text_iff s l).mp same]
    exact h.present s fun member => by simp [(text_isIn_iff s _).mpr member] at absent
  obtain ⟨name, renames', e, enters⟩ := absorbEntry_enters comparable_texts (fun s => ⟨s, rfl⟩)
    h.texts ⟨s, rfl⟩ waiting reserved b v
  obtain ⟨r, rfl⟩ := enters.comparable
  have new : .text r ∉ u.names := fun member => by simpa [(text_isIn_iff r _).mpr member] using enters.new
  rw [e]
  refine ⟨h.keyed.add r v b, fun separate => (h.separate separate).add_new new v b, enters.inside,
    fun m absent => ?_⟩
  rw [mem_names_add enters.new, not_or] at absent
  have other : (Value.text m).same (.text s) = false := by
    refine text_same_eq_false fun same => ?_
    obtain rfl := Value.text.inj same
    rcases enters.known with own | taken
    · exact absent.1 own.symm
    · exact absent.2 ((text_isIn_iff s _).mp taken)
  exact (enters.others _ ⟨m, rfl⟩ other).trans (h.present m absent.2)

theorem Taking.run (reserved : List Value) : ∀ {entries : Placed} {acc : BindingTable × Renames},
    Taking t acc → (∀ e ∈ entries, ∃ s, e.2.1 = .text s) →
      Taking t (entries.foldl (fun acc e => absorbEntry reserved e.1 acc e.2) acc)
  | [], _, h, _ => h
  | (b, (k, v)) :: rest, acc, h, texts => by
    obtain ⟨⟨s, first⟩, others⟩ := List.forall_mem_cons.mp texts
    obtain rfl : k = .text s := first
    rw [List.foldl_cons]
    exact Taking.run reserved (h.step reserved b s v) others

/-- A table that takes another one in keeps its names in one bucket each, even if the other one does
not. -/
theorem absorb_keyed (keyed : t.TextKeyed) (texts : ∀ k ∈ other.names, ∃ s, k = .text s) :
    (t.absorb other).1.TextKeyed ∧ (t.Separate → (t.absorb other).1.Separate) := by
  have start : Taking t (t, []) := ⟨keyed, id, nofun, fun _ _ => rfl⟩
  have coming : ∀ e ∈ other.placed, ∃ s, e.2.1 = .text s := by
    rintro ⟨b, e⟩ member
    exact texts e.1 (mem_names.mpr ⟨b, List.mem_map_of_mem (mem_placed.mp member)⟩)
  have taken := start.run other.names coming
  rw [← absorb_eq_foldl] at taken
  exact ⟨taken.keyed, taken.separate⟩

end BindingTable

end GraphQuery
