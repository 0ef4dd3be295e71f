import GraphQuery.Value
import Mathlib.Data.List.Induction
import Mathlib.Data.List.Nodup
import Mathlib.Data.List.Perm.Subperm

/-! # Tables with texts for keys

* `mem_of_lookup?`, `lookup?_eq_some_iff` : what is found in a table is an entry of it, and if no key is
  repeated all entries are found.
* `putAll_distinct` : entries with new and distinct keys are put behind a table.
* `lookup?_putAll`, `nodup_putAll`, `length_putAll_lt` : whatever the keys are, the last value for each of
  them is left, so there are fewer entries than were put in if a key stands among them twice. -/

namespace GraphQuery

variable {α : Type} {table extra : List (String × α)}

/-! ### Looking up -/

theorem mem_of_lookup? {α : Type} {key : String} {v : α} : ∀ {table : List (String × α)},
    lookup? key table = some v → (key, v) ∈ table
  | [], h => by cases h
  | (k, w) :: rest, h => by
    unfold lookup? at h
    split at h
    · next same =>
      obtain rfl := Option.some.inj h
      exact same ▸ List.mem_cons_self ..
    · exact List.mem_cons_of_mem _ (mem_of_lookup? h)

theorem isSome_lookup?_of_mem {α : Type} {entry : String × α} : ∀ {table : List (String × α)},
    entry ∈ table → (lookup? entry.1 table).isSome
  | (k, v) :: rest, h => by
    unfold lookup?
    split
    · rfl
    · next other =>
      rcases List.mem_cons.mp h with rfl | h
      · exact absurd rfl other
      · exact isSome_lookup?_of_mem h

theorem lookup?_eq_some_iff {key : String} {v : α} (distinct : (table.map Prod.fst).Nodup) :
    lookup? key table = some v ↔ (key, v) ∈ table := by
  refine ⟨mem_of_lookup?, fun member => ?_⟩
  obtain ⟨w, found⟩ := Option.isSome_iff_exists.mp (isSome_lookup?_of_mem member)
  have same := List.inj_on_of_nodup_map distinct (mem_of_lookup? found) member rfl
  rw [found, (Prod.mk.inj same).2]

theorem lookup?_append {key : String} {front : List (String × α)} (new : key ∉ front.map Prod.fst)
    (table : List (String × α)) : lookup? key (front ++ table) = lookup? key table := by
  induction front with
  | nil => rfl
  | cons e front ih =>
    rw [List.map_cons, List.mem_cons, not_or] at new
    rw [List.cons_append, lookup?, if_neg (Ne.symm new.1), ih new.2]

/-! ### New keys -/

theorem put_new {α : Type} {key : String} {value : α} : ∀ {table : List (String × α)},
    key ∉ table.map Prod.fst → put key value table = table ++ [(key, value)]
  | [], _ => rfl
  | (k, v) :: table, h => by
    rw [List.map_cons, List.mem_cons, not_or] at h
    rw [put, if_neg (Ne.symm h.1), put_new h.2, List.cons_append]

theorem putAll_distinct {α : Type} : ∀ {extra table : List (String × α)},
    ((table ++ extra).map Prod.fst).Nodup → putAll table extra = table ++ extra
  | [], table, _ => (List.append_nil table).symm
  | (key, value) :: extra, table, h => by
    have new : key ∉ table.map Prod.fst := by
      intro inside
      rw [List.map_append, List.map_cons] at h
      exact (List.nodup_append.mp h).2.2 _ inside _ List.mem_cons_self rfl
    rw [List.append_cons] at h ⊢
    rw [← putAll_distinct h, ← put_new new]
    rfl

theorem putAll_nil (distinct : (extra.map Prod.fst).Nodup) : putAll [] extra = extra := by
  rw [putAll_distinct (by rwa [List.nil_append]), List.nil_append]

/-! ### Keys that may be repeated -/

theorem putAll_append (extra : List (String × α)) (e : String × α) :
    putAll [] (extra ++ [e]) = put e.1 e.2 (putAll [] extra) := by
  unfold putAll
  rw [List.foldl_append]
  rfl

theorem lookup?_putAll (key : String) (extra : List (String × α)) :
    lookup? key (putAll [] extra) = lookup? key extra.reverse := by
  induction extra using List.reverseRecOn with
  | nil => rfl
  | append_singleton extra e ih =>
    rw [putAll_append, lookup?_put, ih, List.reverse_append, List.reverse_singleton, List.singleton_append,
      lookup?]

theorem mem_keys_putAll {key : String} : key ∈ (putAll [] extra).map Prod.fst ↔ key ∈ extra.map Prod.fst := by
  induction extra using List.reverseRecOn generalizing key with
  | nil => rfl
  | append_singleton extra e ih =>
    rw [putAll_append, keys_put, List.map_append, List.mem_append, List.map_singleton, List.mem_singleton]
    split
    case isTrue old =>
      rw [ih]
      exact ⟨Or.inl, fun member => member.elim id fun same => same ▸ ih.mp old⟩
    case isFalse => rw [List.mem_append, List.mem_singleton, ih]

theorem nodup_putAll (extra : List (String × α)) : ((putAll [] extra).map Prod.fst).Nodup := by
  induction extra using List.reverseRecOn with
  | nil => exact List.nodup_nil
  | append_singleton extra e ih =>
    rw [putAll_append, keys_put]
    split
    case isTrue => exact ih
    case isFalse new =>
      rw [← List.concat_eq_append]
      exact ih.concat new

theorem mem_of_mem_putAll {e : String × α} (member : e ∈ putAll [] extra) : e ∈ extra := by
  have found := (lookup?_eq_some_iff (nodup_putAll extra)).mpr member
  rw [lookup?_putAll] at found
  exact List.mem_reverse.mp (mem_of_lookup? found)

/-- With a key that stands there twice, there are fewer entries than were put in. -/
theorem length_putAll_lt (repeated : ¬ (extra.map Prod.fst).Nodup) :
    (putAll [] extra).length < extra.length := by
  have fewer : List.Subperm ((putAll [] extra).map Prod.fst) (extra.map Prod.fst) :=
    List.subperm_of_subset (nodup_putAll extra) fun n => mem_keys_putAll.mp
  have shorter : ((putAll [] extra).map Prod.fst).length < (extra.map Prod.fst).length :=
    Nat.lt_of_not_le fun all =>
      repeated ((fewer.perm_of_length_le all).nodup_iff.mp (nodup_putAll extra))
  simpa only [List.length_map] using shorter

end GraphQuery
