import GraphQuery.Binding.Table
import Mathlib.Data.List.Nodup
import Mathlib.Data.List.Perm.Subperm

/-! # Looking up what a table binds

A text agrees with itself alone (`text_same_iff`), so an entry under a new text changes nothing for
the other keys of a map, whatever kind they are of.

* `putEntry_new`, `putEntry_text_new` : storing under a new key puts the entry at the end.
* `text_mem_keys_ofEntries_iff` : the texts that are keys of a map are those of its entries.
* `distinctKeys_ofEntries`, `ofEntries_distinct` : a map has no key twice, and such entries are a map.
* `length_ofEntries_lt` : a map is shorter than the entries it is made of if a text is the key of two.
* `ofEntries_insert` : one more entry under a new text is one more entry of the map.
* `Inserted.entryAt?_self` and `Inserted.entryAt?` : it is found, and every other key as before. -/

namespace GraphQuery

/-! ### Texts as keys -/

theorem text_same_iff (s : String) (k : Value) : (Value.text s).same k = true ↔ k = .text s := by
  cases k with
  | text t =>
      show (s == t) = true ↔ _
      rw [beq_iff_eq, Value.text.injEq, eq_comm]
  | _ => exact ⟨fun h => Bool.noConfusion h, fun h => Value.noConfusion h⟩

theorem same_text_iff (s : String) (k : Value) : k.same (.text s) = true ↔ k = .text s := by
  cases k with
  | text t =>
      show (t == s) = true ↔ _
      rw [beq_iff_eq, Value.text.injEq]
  | double x =>
      refine ⟨fun h => ?_, fun h => Value.noConfusion h⟩
      change numberSame (.double x) (.text s) = true at h
      unfold numberSame at h
      cases e : (Value.double x).ratio? <;> rw [e] at h <;> exact Bool.noConfusion h
  | stream xs mark =>
      cases mark <;> exact ⟨fun h => Bool.noConfusion h, fun h => Value.noConfusion h⟩
  | path nodes links =>
      cases nodes <;> exact ⟨fun h => Bool.noConfusion h, fun h => Value.noConfusion h⟩
  | _ => exact ⟨fun h => Bool.noConfusion h, fun h => Value.noConfusion h⟩

theorem same_text_eq_false {s : String} {k : Value} (h : k ≠ .text s) :
    k.same (.text s) = false := by
  rw [Bool.eq_false_iff]
  exact fun e => h ((same_text_iff s k).mp e)

theorem text_same_eq_false {s : String} {k : Value} (h : k ≠ .text s) :
    (Value.text s).same k = false := by
  rw [Bool.eq_false_iff]
  exact fun e => h ((text_same_iff s k).mp e)

theorem isIn_iff {k : Value} {ks : List Value} : k.isIn ks = true ↔ ∃ l ∈ ks, k.same l = true := by
  unfold Value.isIn
  rw [List.any_eq_true]

theorem isIn_eq_false {k : Value} {ks : List Value} :
    k.isIn ks = false ↔ ∀ l ∈ ks, k.same l = false := by
  unfold Value.isIn
  simp only [List.any_eq_false, Bool.not_eq_true]

theorem mem_filterMap_text? {s : String} {vs : List Value} :
    s ∈ vs.filterMap Value.text? ↔ Value.text s ∈ vs := by
  rw [List.mem_filterMap]
  constructor
  · rintro ⟨v, inside, e⟩
    cases v <;> simp only [Value.text?, Option.some.injEq, reduceCtorEq] at e
    exact e ▸ inside
  · intro inside
    exact ⟨_, inside, rfl⟩

theorem text_isIn_iff (s : String) (ks : List Value) :
    (Value.text s).isIn ks = true ↔ Value.text s ∈ ks := by
  rw [isIn_iff]
  constructor
  · rintro ⟨k, hk, e⟩
    exact (text_same_iff s k).mp e ▸ hk
  · intro h
    exact ⟨_, h, (text_same_iff s _).mpr rfl⟩

theorem text_isIn_eq_false {s : String} {ks : List Value} (new : .text s ∉ ks) :
    (Value.text s).isIn ks = false := by
  rw [Bool.eq_false_iff]
  exact fun inside => new ((text_isIn_iff s ks).mp inside)

/-! ### One entry -/

theorem entryAt?_cons (k : Value) (e : Value × Value) (row : Row) :
    entryAt? k (e :: row) = if k.same e.1 then some e.2 else entryAt? k row := by
  unfold entryAt?
  rw [List.find?_cons]
  cases k.same e.1 <;> rfl

theorem entryAt?_append (k : Value) (row row' : Row) :
    entryAt? k (row ++ row') = (entryAt? k row).or (entryAt? k row') := by
  unfold entryAt?
  rw [List.find?_append]
  cases row.find? fun e => k.same e.1 <;> rfl

theorem entryAt?_text_eq_none {s : String} :
    ∀ {row : Row}, .text s ∉ row.map Prod.fst → entryAt? (.text s) row = none
  | [], _ => rfl
  | e :: row, h => by
    rw [List.map_cons, List.mem_cons, not_or] at h
    rw [entryAt?_cons, text_same_eq_false (fun c => h.1 c.symm)]
    exact entryAt?_text_eq_none h.2

theorem mem_of_entryAt?_text {s : String} {v : Value} :
    ∀ {row : Row}, entryAt? (.text s) row = some v → (.text s, v) ∈ row
  | e :: row, h => by
    rw [entryAt?_cons] at h
    split at h
    case isTrue agrees =>
      obtain ⟨k, w⟩ := e
      obtain rfl : k = .text s := (text_same_iff s k).mp agrees
      obtain rfl : w = v := Option.some.inj h
      exact List.mem_cons_self
    case isFalse => exact List.mem_cons_of_mem e (mem_of_entryAt?_text h)

theorem entryAt?_text_of_mem {s : String} {v : Value} :
    ∀ {row : Row}, (row.map Prod.fst).Nodup → (.text s, v) ∈ row → entryAt? (.text s) row = some v
  | e :: row, distinct, h => by
    rw [List.map_cons, List.nodup_cons] at distinct
    rw [entryAt?_cons]
    rcases List.mem_cons.mp h with rfl | inside
    · rw [(text_same_iff s _).mpr rfl]
      rfl
    · have other : e.1 ≠ .text s := by
        intro c
        exact distinct.1 (c ▸ List.mem_map_of_mem (f := Prod.fst) inside)
      rw [text_same_eq_false other]
      exact entryAt?_text_of_mem distinct.2 inside

/-- Storing under a key that agrees with no other one puts the entry at the end. -/
theorem putEntry_new {k v : Value} : ∀ {row : Row}, (∀ e ∈ row, k.same e.1 = false) →
    putEntry k v row = row ++ [(k, v)]
  | [], _ => rfl
  | (k', w) :: row, h => by
    obtain ⟨first, others⟩ := List.forall_mem_cons.mp h
    rw [putEntry, first, if_neg Bool.false_ne_true, putEntry_new others, List.cons_append]

theorem putEntry_text_new {s : String} {v : Value} {row : Row} (h : .text s ∉ row.map Prod.fst) :
    putEntry (.text s) v row = row ++ [(.text s, v)] :=
  putEntry_new fun _ member => text_same_eq_false fun c => h (c ▸ List.mem_map_of_mem member)

theorem entryAt?_putEntry_self (s : String) (v : Value) : ∀ row : Row,
    entryAt? (.text s) (putEntry (.text s) v row) = some v
  | [] => by
    rw [putEntry, entryAt?_cons, if_pos ((text_same_iff s _).mpr rfl)]
  | (k, w) :: row => by
    rw [putEntry]
    split
    case isTrue agrees => rw [entryAt?_cons, if_pos agrees]
    case isFalse other =>
      rw [entryAt?_cons, if_neg other]
      exact entryAt?_putEntry_self s v row

theorem entryAt?_putEntry_of_ne {s : String} {k : Value} (other : k ≠ .text s) (v : Value) :
    ∀ row : Row, entryAt? k (putEntry (.text s) v row) = entryAt? k row
  | [] => by
    rw [putEntry, entryAt?_cons, same_text_eq_false other]
    rfl
  | (k', w) :: row => by
    rw [putEntry]
    split
    case isTrue agrees =>
      obtain rfl : k' = .text s := (text_same_iff s k').mp agrees
      rw [entryAt?_cons, entryAt?_cons, same_text_eq_false other]
      rfl
    case isFalse => rw [entryAt?_cons, entryAt?_cons, entryAt?_putEntry_of_ne other v row]

/-! ### Maps out of entries -/

/-- The keys of a map after an entry was stored. -/
theorem mem_keys_putEntry {key v k : Value} : ∀ {row : Row},
    k ∈ (putEntry key v row).map Prod.fst → k = key ∨ k ∈ row.map Prod.fst
  | [], h => Or.inl (by simpa [putEntry] using h)
  | (l, w) :: row, h => by
    rw [putEntry] at h
    split at h
    · exact Or.inr (by simpa using h)
    · rw [List.map_cons, List.mem_cons] at h ⊢
      rcases h with rfl | h
      · exact Or.inr (Or.inl rfl)
      · exact (mem_keys_putEntry h).imp_right Or.inr

theorem mem_keys_putEntry_of_mem {key v k : Value} : ∀ {row : Row}, k ∈ row.map Prod.fst →
    k ∈ (putEntry key v row).map Prod.fst
  | (l, w) :: row, h => by
    rw [putEntry]
    split
    · simpa using h
    · rw [List.map_cons, List.mem_cons] at h ⊢
      exact h.imp_right mem_keys_putEntry_of_mem

/-- A map has no keys but those of its entries. -/
theorem mem_keys_ofEntries {k : Value} {entries : Row} (member : k ∈ (ofEntries entries).map Prod.fst) :
    k ∈ entries.map Prod.fst := by
  have grown : ∀ {entries row : Row}, k ∈ (entries.foldl (fun t e => putEntry e.1 e.2 t) row).map Prod.fst →
      k ∈ entries.map Prod.fst ∨ k ∈ row.map Prod.fst := by
    intro entries
    induction entries with
    | nil => exact fun h => Or.inr h
    | cons e rest ih =>
      intro row h
      rcases ih h with later | h
      · exact Or.inl (List.mem_cons_of_mem _ later)
      · refine (mem_keys_putEntry h).imp_left fun own => ?_
        exact own ▸ List.mem_cons_self
  exact (grown member).resolve_right List.not_mem_nil

theorem text_mem_keys_ofEntries_iff {s : String} {entries : Row} :
    .text s ∈ (ofEntries entries).map Prod.fst ↔ .text s ∈ entries.map Prod.fst := by
  have kept : ∀ {entries row : Row}, .text s ∈ entries.map Prod.fst ∨ .text s ∈ row.map Prod.fst →
      .text s ∈ (entries.foldl (fun t e => putEntry e.1 e.2 t) row).map Prod.fst := by
    intro entries
    induction entries with
    | nil => exact fun h => h.resolve_left List.not_mem_nil
    | cons e rest ih =>
      intro row h
      rw [List.map_cons, List.mem_cons] at h
      rcases h with (own | later) | before
      · refine ih (Or.inr ?_)
        show .text s ∈ (putEntry e.1 e.2 row).map Prod.fst
        rw [← own]
        exact List.mem_map_of_mem (mem_of_entryAt?_text (entryAt?_putEntry_self s e.2 row))
      · exact ih (Or.inl later)
      · exact ih (Or.inr (mem_keys_putEntry_of_mem before))
  exact ⟨mem_keys_ofEntries, fun h => kept (Or.inl h)⟩

/-- Entries none of whose keys agrees with one before it. -/
def DistinctKeys (row : Row) : Prop := (row.map Prod.fst).Pairwise fun k k' => k'.same k = false

theorem distinctKeys_of_texts {row : Row} (texts : ∀ k ∈ row.map Prod.fst, ∃ s, k = .text s)
    (distinct : (row.map Prod.fst).Nodup) : DistinctKeys row :=
  distinct.imp_of_mem fun _ member apart => by
    obtain ⟨s, rfl⟩ := texts _ member
    exact text_same_eq_false apart

theorem DistinctKeys.putEntry (k v : Value) : ∀ {row : Row}, DistinctKeys row →
    DistinctKeys (putEntry k v row)
  | [], _ => List.pairwise_singleton ..
  | (k', w) :: row, h => by
    obtain ⟨first, others⟩ := List.pairwise_cons.mp h
    rw [GraphQuery.putEntry]
    split
    · exact List.pairwise_cons.mpr ⟨first, others⟩
    · next apart =>
      refine List.pairwise_cons.mpr ⟨fun key member => ?_, DistinctKeys.putEntry k v others⟩
      rcases mem_keys_putEntry member with rfl | inside
      · exact Bool.not_eq_true _ ▸ apart
      · exact first key inside

theorem distinctKeys_ofEntries (entries : Row) : DistinctKeys (ofEntries entries) := by
  have grown : ∀ {entries row : Row}, DistinctKeys row →
      DistinctKeys (entries.foldl (fun t e => GraphQuery.putEntry e.1 e.2 t) row) := by
    intro entries
    induction entries with
    | nil => exact fun h => h
    | cons e rest ih => exact fun h => ih (h.putEntry e.1 e.2)
  exact grown List.Pairwise.nil

theorem foldl_putEntry_distinct : ∀ {entries row : Row}, DistinctKeys (row ++ entries) →
    entries.foldl (fun t e => putEntry e.1 e.2 t) row = row ++ entries
  | [], row, _ => (List.append_nil row).symm
  | e :: entries, row, h => by
    have new : ∀ e' ∈ row, e.1.same e'.1 = false := by
      unfold DistinctKeys at h
      rw [List.map_append, List.map_cons] at h
      exact fun e' member => (List.pairwise_append.mp h).2.2 _ (List.mem_map_of_mem member) _
        List.mem_cons_self
    rw [List.append_cons] at h ⊢
    rw [List.foldl_cons, putEntry_new new, foldl_putEntry_distinct h]

/-- Entries without a key that occurs twice are a map already. -/
theorem ofEntries_distinct {entries : Row} (h : DistinctKeys entries) : ofEntries entries = entries :=
  foldl_putEntry_distinct h

theorem DistinctKeys.nodup {row : Row} (h : DistinctKeys row)
    (texts : ∀ k ∈ row.map Prod.fst, ∃ s, k = .text s) : (row.map Prod.fst).Nodup :=
  h.imp_of_mem fun member _ apart same => by
    obtain ⟨s, rfl⟩ := texts _ member
    rw [← same, (text_same_iff s _).mpr rfl] at apart
    cases apart

/-- A map has fewer entries than it is made of, where a text is the key of two of them. -/
theorem length_ofEntries_lt {entries : Row} (texts : ∀ k ∈ entries.map Prod.fst, ∃ s, k = .text s)
    (repeated : ¬ (entries.map Prod.fst).Nodup) : (ofEntries entries).length < entries.length := by
  by_contra long
  have kept : ((ofEntries entries).map Prod.fst).Nodup :=
    (distinctKeys_ofEntries entries).nodup fun k member => texts k (mem_keys_ofEntries member)
  have part : ((ofEntries entries).map Prod.fst).Subperm (entries.map Prod.fst) :=
    List.subperm_of_subset kept fun _ => mem_keys_ofEntries
  have all := part.perm_of_length_le (by simpa only [List.length_map] using Nat.le_of_not_lt long)
  exact repeated (all.nodup_iff.mp kept)

/-- `wide` is `narrow` with an entry under a text that `narrow` does not have. -/
def Inserted (s : String) (v : Value) (narrow wide : Row) : Prop :=
  ∃ before after, narrow = before ++ after ∧ wide = before ++ (.text s, v) :: after ∧
    .text s ∉ narrow.map Prod.fst

theorem Inserted.cons {s : String} {v : Value} {narrow wide : Row} (e : Value × Value)
    (other : e.1 ≠ .text s) (h : Inserted s v narrow wide) :
    Inserted s v (e :: narrow) (e :: wide) := by
  obtain ⟨before, after, rfl, rfl, new⟩ := h
  refine ⟨e :: before, after, rfl, rfl, ?_⟩
  rw [List.map_cons, List.mem_cons, not_or]
  exact ⟨fun c => other c.symm, new⟩

theorem text_not_mem_putEntry {s : String} {k v : Value} (other : k ≠ .text s) :
    ∀ {row : Row}, .text s ∉ row.map Prod.fst → .text s ∉ (putEntry k v row).map Prod.fst
  | [], _ => by simpa [putEntry] using fun c => other c.symm
  | e :: row, h => by
    rw [List.map_cons, List.mem_cons, not_or] at h
    rw [putEntry]
    split
    · rw [List.map_cons, List.mem_cons, not_or]
      exact h
    · rw [List.map_cons, List.mem_cons, not_or]
      exact ⟨h.1, text_not_mem_putEntry other h.2⟩

/-- Storing under another key does not meet the new entry. -/
theorem Inserted.putEntry {s : String} {v k w : Value} (other : k ≠ .text s) :
    ∀ {narrow wide : Row}, Inserted s v narrow wide →
      Inserted s v (putEntry k w narrow) (GraphQuery.putEntry k w wide)
  | narrow, _, ⟨[], after, e, rfl, new⟩ => by
    obtain rfl : after = narrow := e.symm
    refine ⟨[], GraphQuery.putEntry k w after, rfl, ?_, text_not_mem_putEntry other new⟩
    rw [List.nil_append, List.nil_append, GraphQuery.putEntry, same_text_eq_false other,
      if_neg Bool.false_ne_true]
  | _, _, ⟨(k', w') :: before, after, rfl, rfl, new⟩ => by
    rw [List.cons_append, List.map_cons, List.mem_cons, not_or] at new
    rw [List.cons_append, List.cons_append, GraphQuery.putEntry, GraphQuery.putEntry]
    split
    · exact Inserted.cons _ (fun c => new.1 c.symm) ⟨before, after, rfl, rfl, new.2⟩
    · exact Inserted.cons _ (fun c => new.1 c.symm)
        (Inserted.putEntry other ⟨before, after, rfl, rfl, new.2⟩)

theorem Inserted.entryAt? {s : String} {v k : Value} (other : k ≠ .text s) {narrow wide : Row}
    (h : Inserted s v narrow wide) : entryAt? k wide = GraphQuery.entryAt? k narrow := by
  obtain ⟨before, after, rfl, rfl, -⟩ := h
  induction before with
  | nil =>
      rw [List.nil_append, List.nil_append, entryAt?_cons, same_text_eq_false other]
      rfl
  | cons e before ih =>
      rw [List.cons_append, List.cons_append, entryAt?_cons, entryAt?_cons, ih]

theorem Inserted.entryAt?_self {s : String} {v : Value} {narrow wide : Row}
    (h : Inserted s v narrow wide) : GraphQuery.entryAt? (.text s) wide = some v := by
  obtain ⟨before, after, rfl, rfl, new⟩ := h
  induction before with
  | nil =>
      rw [List.nil_append, entryAt?_cons, (text_same_iff s _).mpr rfl]
      rfl
  | cons e before ih =>
      rw [List.cons_append, List.map_cons, List.mem_cons, not_or] at new
      rw [List.cons_append, entryAt?_cons, text_same_eq_false (fun c => new.1 c.symm)]
      exact ih new.2

/-- The map of some entries does not have a text that none of them has. -/
theorem text_not_mem_foldl_putEntry {s : String} : ∀ {entries row : Row},
    .text s ∉ entries.map Prod.fst → .text s ∉ row.map Prod.fst →
      .text s ∉ (entries.foldl (fun t e => putEntry e.1 e.2 t) row).map Prod.fst
  | [], _, _, h => h
  | e :: entries, row, new, h => by
    rw [List.map_cons, List.mem_cons, not_or] at new
    rw [List.foldl_cons]
    exact text_not_mem_foldl_putEntry new.2 (text_not_mem_putEntry (fun c => new.1 c.symm) h)

theorem Inserted.foldl {s : String} {v : Value} : ∀ {entries narrow wide : Row},
    .text s ∉ entries.map Prod.fst → Inserted s v narrow wide →
      Inserted s v (entries.foldl (fun t e => GraphQuery.putEntry e.1 e.2 t) narrow)
        (entries.foldl (fun t e => GraphQuery.putEntry e.1 e.2 t) wide)
  | [], _, _, _, h => h
  | e :: entries, _, _, new, h => by
    rw [List.map_cons, List.mem_cons, not_or] at new
    rw [List.foldl_cons, List.foldl_cons]
    exact Inserted.foldl new.2 (h.putEntry fun c => new.1 c.symm)

/-- One more entry, under a text that no other entry has, is one more entry of the map. -/
theorem ofEntries_insert {s : String} {v : Value} {before after : Row}
    (new : .text s ∉ (before ++ after).map Prod.fst) :
    Inserted s v (ofEntries (before ++ after)) (ofEntries (before ++ (.text s, v) :: after)) := by
  rw [List.map_append, List.mem_append, not_or] at new
  unfold ofEntries
  rw [List.foldl_append, List.foldl_append, List.foldl_cons]
  have free : .text s ∉ (before.foldl (fun t e => putEntry e.1 e.2 t) []).map Prod.fst :=
    text_not_mem_foldl_putEntry new.1 List.not_mem_nil
  refine Inserted.foldl new.2 ?_
  rw [putEntry_text_new free]
  exact ⟨_, [], (List.append_nil _).symm, rfl, free⟩

end GraphQuery
