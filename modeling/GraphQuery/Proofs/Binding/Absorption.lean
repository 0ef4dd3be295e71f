import GraphQuery.Proofs.Binding.Growth

/-! # Taking in another table

`BindingTable.absorb` moves the bindings of a table one after another. What holds of the moved ones
is `Absorbing`, which one entry keeps (`Absorbing.step`) and so all of them together
(`Absorbing.run`). At the end every name of the other table has a name here, different names have
different ones, none of them was taken, and the values came along (`absorb_absorbed`). -/

namespace GraphQuery.BindingTable

open GraphQuery.Binding

/-! ### New names -/

namespace Renames

theorem apply_eq_self {renames : Renames} {n : String} (h : entryAt? (.text n) renames = none) :
    renames.apply n = n := by
  unfold apply
  rw [h]
  rfl

theorem apply_putEntry_self (renames : Renames) (n s : String) :
    Renames.apply (putEntry (.text n) (.text s) renames) n = s := by
  unfold apply
  rw [entryAt?_putEntry_self]
  rfl

end Renames

/-- A name that is taken gets a text, which is free. -/
theorem freshName_taken {t : BindingTable} {k : Value} (taken : k.isIn t.names = true)
    (reserved : List Value) :
    ∃ s, t.freshName k reserved = .text s ∧ .text s ∉ t.names ∧ (k.plainText ≠ "" → s ≠ "") := by
  obtain ⟨l, member, same⟩ := isIn_iff.mp taken
  have wider : k.isIn (t.names ++ reserved) = true :=
    isIn_iff.mpr ⟨l, List.mem_append_left reserved member, same⟩
  unfold freshName
  rw [if_pos wider]
  refine ⟨_, rfl, fun h => ?_, fun filled => freeFrom_ne_empty filled _ _ _⟩
  apply freeFrom_not_mem (List.length_filterMap_le Value.text? (t.names ++ reserved))
  exact List.mem_filterMap.mpr ⟨_, List.mem_append_left reserved h, rfl⟩

/-! ### One entry -/

/-- What one entry does: it is stored under a free name, which becomes the new name of its own. -/
theorem absorbEntry_text (t : BindingTable) {renames : Renames} {n : String} (filled : n ≠ "")
    (waiting : entryAt? (.text n) renames = none) (reserved : List Value) (b : Bucket) (v : Value) :
    ∃ s renames',
      absorbEntry reserved b (t, renames) (.text n, v) = (t.add (.text s) v b, renames') ∧
      .text s ∉ t.names ∧ s ≠ "" ∧ renames'.apply n = s ∧
      ∀ m, m ≠ n → entryAt? (.text m) renames' = entryAt? (.text m) renames := by
  unfold absorbEntry
  by_cases taken : .text n ∈ t.names
  · obtain ⟨s, e, free, named⟩ := freshName_taken ((text_isIn_iff n _).mpr taken) reserved
    have stored : Renames.applyTo (putEntry (.text n) (.text s) renames) (.text n) = .text s := by
      unfold Renames.applyTo
      rw [entryAt?_putEntry_self]
      rfl
    refine ⟨s, putEntry (.text n) (.text s) renames, ?_, free, named filled,
      Renames.apply_putEntry_self renames n s, fun m other => ?_⟩
    · simp only [contains_text_iff.mpr taken, if_true, e, stored]
    · exact entryAt?_putEntry_of_ne (fun c => other (Value.text.inj c)) _ _
  · have stored : Renames.applyTo renames (.text n) = .text n := by
      unfold Renames.applyTo
      rw [waiting]
      rfl
    have free : t.contains (.text n) = false := by
      rw [Bool.eq_false_iff]
      exact fun c => taken (contains_text_iff.mp c)
    refine ⟨n, renames, ?_, taken, filled, Renames.apply_eq_self waiting, fun _ _ => rfl⟩
    simp only [free, Bool.false_eq_true, if_false, stored]

/-! ### All entries -/

/-- After the entries `done` have been moved into the table `t`. -/
structure Absorbing (t : BindingTable) (done : Row) (acc : BindingTable × Renames) : Prop where
  carried : ∀ n v, (.text n, v) ∈ done →
    .text (acc.2.apply n) ∈ acc.1.names ∧ acc.1.bound (acc.2.apply n) = some v
  kept : t.Grows acc.1
  apart : ∀ n v, (.text n, v) ∈ done → .text (acc.2.apply n) ∉ t.names
  injective : ∀ m n v w, (.text m, v) ∈ done → (.text n, w) ∈ done →
    acc.2.apply m = acc.2.apply n → m = n
  waiting : ∀ n, .text n ∉ done.map Prod.fst → entryAt? (.text n) acc.2 = none
  filled : ∀ n, acc.2.apply n = "" ↔ n = ""
  named : t.WellNamed → acc.1.WellNamed

theorem absorbing_nil (t : BindingTable) : Absorbing t [] (t, []) where
  carried _ _ h := (List.not_mem_nil h).elim
  kept := .refl t
  apart _ _ h := (List.not_mem_nil h).elim
  injective _ _ _ _ h := (List.not_mem_nil h).elim
  waiting _ _ := rfl
  filled _ := Iff.rfl
  named h := h

theorem Absorbing.step {t : BindingTable} {done : Row} {acc : BindingTable × Renames}
    (h : Absorbing t done acc) {n : String} (new : .text n ∉ done.map Prod.fst) (filled : n ≠ "")
    (reserved : List Value) (b : Bucket) (v : Value) :
    Absorbing t (done ++ [(.text n, v)]) (absorbEntry reserved b acc (.text n, v)) := by
  obtain ⟨u, renames⟩ := acc
  obtain ⟨s, renames', e, free, named, own, others⟩ :=
    absorbEntry_text u filled (h.waiting n new) reserved b v
  have older : ∀ m w, (.text m, w) ∈ done → m ≠ n := by
    rintro m w inside rfl
    exact new (List.mem_map_of_mem (f := Prod.fst) inside)
  have same : ∀ m, m ≠ n → renames'.apply m = renames.apply m := by
    intro m other
    unfold Renames.apply
    rw [others m other]
  have grown := grows_add free v b
  rw [e]
  refine ⟨fun m w hm => ?_, h.kept.trans grown, fun m w hm => ?_, fun m m' w w' hm hm' agree => ?_,
    fun m hm => ?_, fun m => ?_, fun well => (h.named well).add free named v b⟩
  · rcases List.mem_append.mp hm with old | last
    · obtain ⟨inside, value⟩ := h.carried m w old
      obtain ⟨inside', value'⟩ := grown _ inside
      rw [same m (older m w old)]
      exact ⟨inside', value'.trans value⟩
    · obtain ⟨rfl, rfl⟩ : m = n ∧ w = v := by simpa using last
      rw [own]
      exact ⟨(mem_names_add (text_isIn_eq_false free) w b _).mpr (Or.inl rfl), bound_add_self free w b⟩
  · rcases List.mem_append.mp hm with old | last
    · rw [same m (older m w old)]
      exact h.apart m w old
    · obtain ⟨rfl, rfl⟩ : m = n ∧ w = v := by simpa using last
      rw [own]
      exact fun c => free (h.kept _ c).1
  · rcases List.mem_append.mp hm with old | last <;> rcases List.mem_append.mp hm' with old' | last'
    · rw [same m (older m w old), same m' (older m' w' old')] at agree
      exact h.injective m m' w w' old old' agree
    · obtain ⟨rfl, rfl⟩ : m' = n ∧ w' = v := by simpa using last'
      rw [same m (older m w old), own] at agree
      exact absurd (agree ▸ (h.carried m w old).1) free
    · obtain ⟨rfl, rfl⟩ : m = n ∧ w = v := by simpa using last
      rw [same m' (older m' w' old'), own] at agree
      exact absurd (agree ▸ (h.carried m' w' old').1) free
    · obtain ⟨rfl, -⟩ : m = n ∧ w = v := by simpa using last
      obtain ⟨rfl, -⟩ : m' = m ∧ w' = v := by simpa using last'
      rfl
  · rw [List.map_append, List.mem_append, not_or] at hm
    rw [others m fun c => hm.2 (c ▸ List.mem_singleton_self _)]
    exact h.waiting m hm.1
  · by_cases c : m = n
    · subst c
      rw [own]
      exact ⟨fun e => absurd e named, fun e => absurd e filled⟩
    · rw [same m c]
      exact h.filled m

theorem Absorbing.run {t : BindingTable} (reserved : List Value) :
    ∀ {rest : List (Bucket × (Value × Value))} {done : Row} {acc : BindingTable × Renames},
      Absorbing t done acc → (∀ e ∈ rest, ∃ n, e.2.1 = .text n ∧ n ≠ "") →
      ((done ++ rest.map Prod.snd).map Prod.fst).Nodup →
      Absorbing t (done ++ rest.map Prod.snd)
        (rest.foldl (fun acc e => absorbEntry reserved e.1 acc e.2) acc)
  | [], done, acc, h, _, _ => by simpa using h
  | (b, (k, v)) :: rest, done, acc, h, texts, distinct => by
    rw [List.forall_mem_cons] at texts
    obtain ⟨⟨n, rfl, filled⟩, others⟩ := texts
    have new : .text n ∉ done.map Prod.fst := by
      intro inside
      rw [List.map_append, List.map_cons, List.map_cons] at distinct
      exact (List.nodup_append.mp distinct).2.2 _ inside _ List.mem_cons_self rfl
    rw [List.map_cons, List.append_cons] at distinct ⊢
    exact Absorbing.run reserved (h.step new filled reserved b v) others distinct

/-- The entries of a table with the buckets they stand in. -/
def placed (t : BindingTable) : List (Bucket × (Value × Value)) :=
  Bucket.all.flatMap fun b => (t.bucket b).map fun e => (b, e)

theorem map_placed (t : BindingTable) : t.placed.map Prod.snd = t.entries := by
  unfold placed entries
  rw [List.map_flatMap]
  congr 1
  funext b
  rw [List.map_map]
  exact List.map_id _

theorem absorb_eq_foldl (t other : BindingTable) : t.absorb other =
    other.placed.foldl (fun acc e => absorbEntry other.names e.1 acc e.2) (t, []) := by
  unfold absorb absorbBucket placed
  rw [List.foldl_flatMap]
  simp only [List.foldl_map]

/-! ### The other table -/

/-- `u` is `t` with the bindings of `other` under the names that `r` gives them. -/
structure Absorbed (t other u : BindingTable) (r : String → String) : Prop where
  carried : ∀ n v, other.bound n = some v → u.bound (r n) = some v
  kept : t.Grows u
  apart : ∀ n, .text n ∈ other.names → .text (r n) ∉ t.names
  injective : ∀ m n, .text m ∈ other.names → .text n ∈ other.names → r m = r n → m = n
  filled : ∀ n, r n = "" ↔ n = ""
  named : t.WellNamed → u.WellNamed

/-- A table takes another one in, whatever it binds itself. -/
theorem absorb_absorbed (t : BindingTable) {other : BindingTable} (named : other.WellNamed) :
    Absorbed t other (t.absorb other).1 (t.absorb other).2.apply := by
  have texts : ∀ e ∈ other.placed, ∃ n, e.2.1 = .text n ∧ n ≠ "" := by
    intro e he
    refine named.texts _ (List.mem_map_of_mem (f := Prod.fst) ?_)
    rw [← map_placed]
    exact List.mem_map_of_mem (f := Prod.snd) he
  have run := (absorbing_nil t).run other.names texts
    (by rw [List.nil_append, map_placed]; exact named.distinct)
  rw [List.nil_append, map_placed, ← absorb_eq_foldl] at run
  have entry : ∀ n, .text n ∈ other.names → ∃ v, (.text n, v) ∈ other.entries := by
    intro n h
    obtain ⟨⟨k, v⟩, inside, rfl⟩ := List.mem_map.mp h
    exact ⟨v, inside⟩
  refine ⟨fun n v e => (run.carried n v (named.bound_eq_some_iff.mp e)).2, run.kept, fun n h => ?_,
    fun m n hm hn agree => ?_, run.filled, run.named⟩
  · obtain ⟨v, inside⟩ := entry n h
    exact run.apart n v inside
  · obtain ⟨v, inside⟩ := entry m hm
    obtain ⟨w, inside'⟩ := entry n hn
    exact run.injective m n v w inside inside' agree

end GraphQuery.BindingTable
