import GraphQuery.Proofs.Binding.Growth
import Mathlib.Data.List.Induction

/-! # Names that agree

A map finds a value under every key that agrees with the one it was stored under, so `1` and `true`
are the same name.  `Comparable S` says that agreement is an equivalence on the values in `S`; texts
always are comparable, and stay so together with other values (`Comparable.withTexts`).

Among comparable names a table gives for a name what stands under it last (`lastAt?`):

* `Comparable.entryAt?_putEntry` : what is found after an entry is stored;
* `Comparable.entryAt?_flatten` : what is found in the one table of all parameters;
* `lastAt?_insert_other`, `lastAt?_insert_self` : what one more entry changes. -/

namespace GraphQuery

/-- Agreement tells these values apart as equality does. -/
structure Comparable (S : Value → Prop) : Prop where
  refl : ∀ k, S k → k.same k = true
  symm : ∀ k l, S k → S l → k.same l = true → l.same k = true
  trans : ∀ k l m, S k → S l → S m → k.same l = true → l.same m = true → k.same m = true

/-! ### What stands last -/

/-- The value of the last entry under a key. -/
def lastAt? (key : Value) (entries : Row) : Option Value := entryAt? key entries.reverse

theorem lastAt?_concat (k : Value) (entries : Row) (e : Value × Value) :
    lastAt? k (entries ++ [e]) = if k.same e.1 then some e.2 else lastAt? k entries := by
  unfold lastAt?
  rw [List.reverse_append, List.reverse_singleton, List.singleton_append, entryAt?_cons]

theorem entryAt?_eq_none {k : Value} : ∀ {row : Row}, (∀ e ∈ row, k.same e.1 = false) →
    entryAt? k row = none
  | [], _ => rfl
  | e :: row, h => by
    obtain ⟨first, others⟩ := List.forall_mem_cons.mp h
    rw [entryAt?_cons, first, if_neg Bool.false_ne_true]
    exact entryAt?_eq_none others

theorem lastAt?_insert_other {k : Value} {e : Value × Value} (other : k.same e.1 = false)
    (before after : Row) : lastAt? k (before ++ e :: after) = lastAt? k (before ++ after) := by
  unfold lastAt?
  rw [List.reverse_append, List.reverse_cons, List.append_assoc, List.reverse_append,
    List.singleton_append, entryAt?_append, entryAt?_append, entryAt?_cons, other,
    if_neg Bool.false_ne_true]

theorem lastAt?_of_last {k : Value} {e : Value × Value} (own : k.same e.1 = true) {before after : Row}
    (last : ∀ f ∈ after, k.same f.1 = false) : lastAt? k (before ++ e :: after) = some e.2 := by
  unfold lastAt?
  have none : entryAt? k after.reverse = none :=
    entryAt?_eq_none fun f member => last f (List.mem_reverse.mp member)
  rw [List.reverse_append, List.reverse_cons, List.append_assoc, entryAt?_append, none,
    Option.none_or, List.singleton_append, entryAt?_cons, if_pos own]

/-- An entry under a new name is found. -/
theorem lastAt?_insert_self {k : Value} {e : Value × Value} (own : k.same e.1 = true)
    {before after : Row} (new : ∀ f ∈ before ++ after, k.same f.1 = false) :
    lastAt? k (before ++ e :: after) = some e.2 :=
  lastAt?_of_last own fun f member => new f (List.mem_append_right before member)

/-- An entry of a map after one was stored: it was there, or it has the new value under a key of the
map or under the new key. -/
theorem mem_putEntry {key v : Value} {e : Value × Value} {row : Row} (member : e ∈ putEntry key v row) :
    e ∈ row ∨ (e.2 = v ∧ (e.1 = key ∨ e.1 ∈ row.map Prod.fst)) := by
  induction row with
  | nil =>
    obtain rfl := List.mem_singleton.mp member
    exact Or.inr ⟨rfl, Or.inl rfl⟩
  | cons old row ih =>
    rw [putEntry] at member
    split at member
    case isTrue =>
      rcases List.mem_cons.mp member with rfl | old
      · exact Or.inr ⟨rfl, Or.inr List.mem_cons_self⟩
      · exact Or.inl (List.mem_cons_of_mem _ old)
    case isFalse =>
      rcases List.mem_cons.mp member with rfl | later
      · exact Or.inl List.mem_cons_self
      · refine (ih later).imp (List.mem_cons_of_mem _) (And.imp_right fun key => ?_)
        exact key.imp_right (List.mem_cons_of_mem _)

theorem exists_entryAt? {k : Value} (self : k.same k = true) : ∀ {row : Row},
    k ∈ row.map Prod.fst → ∃ v, entryAt? k row = some v
  | e :: row, member => by
    rw [entryAt?_cons]
    split
    case isTrue => exact ⟨e.2, rfl⟩
    case isFalse other =>
      rcases List.mem_cons.mp member with rfl | later
      · exact absurd self other
      · exact exists_entryAt? self later

/-! ### Comparable names -/

theorem comparable_texts : Comparable fun k => ∃ s, k = .text s where
  refl := by
    rintro k ⟨s, rfl⟩
    exact (text_same_iff s _).mpr rfl
  symm := by
    rintro k l ⟨s, rfl⟩ - h
    obtain rfl := (text_same_iff s l).mp h
    exact h
  trans := by
    rintro k l m ⟨s, rfl⟩ - - h h'
    obtain rfl := (text_same_iff s l).mp h
    exact h'

theorem int_same_iff (m n : Int) : (Value.int m).same (.int n) = true ↔ m = n := by
  show sameRatio (m, 1) (n, 1) = true ↔ _
  simp [sameRatio]

theorem comparable_ints : Comparable fun k => ∃ n, k = .int n where
  refl := by
    rintro k ⟨n, rfl⟩
    exact (int_same_iff n n).mpr rfl
  symm := by
    rintro k l ⟨m, rfl⟩ ⟨n, rfl⟩ h
    exact (int_same_iff n m).mpr ((int_same_iff m n).mp h).symm
  trans := by
    rintro k l m ⟨i, rfl⟩ ⟨j, rfl⟩ ⟨n, rfl⟩ h h'
    exact (int_same_iff i n).mpr (((int_same_iff i j).mp h).trans ((int_same_iff j n).mp h'))

namespace Comparable

variable {S : Value → Prop}

theorem mono {T : Value → Prop} (h : Comparable S) (fewer : ∀ k, T k → S k) : Comparable T where
  refl k hk := h.refl k (fewer k hk)
  symm k l hk hl := h.symm k l (fewer k hk) (fewer l hl)
  trans k l m hk hl hm := h.trans k l m (fewer k hk) (fewer l hl) (fewer m hm)

/-- A text agrees with itself alone, so texts may come to other names. -/
theorem withTexts (h : Comparable S) : Comparable fun k => S k ∨ ∃ s, k = .text s where
  refl := by
    rintro k (hk | ⟨s, rfl⟩)
    · exact h.refl k hk
    · exact (text_same_iff s _).mpr rfl
  symm := by
    intro k l hk hl same
    rcases hk with hk | ⟨s, rfl⟩
    · rcases hl with hl | ⟨s, rfl⟩
      · exact h.symm k l hk hl same
      · obtain rfl := (same_text_iff s k).mp same
        exact same
    · obtain rfl := (text_same_iff s l).mp same
      exact same
  trans := by
    intro k l m hk hl hm same same'
    rcases hk with hk | ⟨s, rfl⟩
    · rcases hm with hm | ⟨s, rfl⟩
      · rcases hl with hl | ⟨s, rfl⟩
        · exact h.trans k l m hk hl hm same same'
        · rw [(same_text_iff s k).mp same]
          exact same'
      · rw [(same_text_iff s l).mp same'] at same
        exact same
    · rw [(text_same_iff s l).mp same] at same'
      exact same'

variable (h : Comparable S) {k l m : Value} (hk : S k) (hl : S l) (hm : S m)

include h hk hl hm

theorem same_congr (same : k.same l = true) : k.same m = l.same m := by
  rw [Bool.eq_iff_iff]
  constructor
  · intro other
    exact h.trans l k m hl hk hm (h.symm k l hk hl same) other
  · intro other
    exact h.trans k l m hk hl hm same other

theorem same_eq_false (same : k.same l = true) (other : m.same l = false) : k.same m = false := by
  rw [Bool.eq_false_iff]
  intro agree
  have back := h.trans m k l hm hk hl (h.symm k m hk hm agree) same
  rw [other] at back
  exact Bool.false_ne_true back

omit hm in
theorem isIn_congr {ks : List Value} (names : ∀ x ∈ ks, S x) (same : k.same l = true) :
    k.isIn ks = l.isIn ks := by
  rw [Bool.eq_iff_iff, isIn_iff, isIn_iff]
  constructor
  · rintro ⟨x, member, agree⟩
    exact ⟨x, member, by rw [← h.same_congr hk hl (names x member) same]; exact agree⟩
  · rintro ⟨x, member, agree⟩
    exact ⟨x, member, by rw [h.same_congr hk hl (names x member) same]; exact agree⟩

omit hm in
/-- What is found after an entry is stored. -/
theorem entryAt?_putEntry (v : Value) : ∀ {row : Row}, (∀ e ∈ row, S e.1) →
    entryAt? k (putEntry l v row) = if k.same l then some v else entryAt? k row
  | [], _ => entryAt?_cons k (l, v) []
  | (x, w) :: row, names => by
    obtain ⟨hx, others⟩ := List.forall_mem_cons.mp names
    rw [putEntry]
    by_cases agree : l.same x = true
    · have same : k.same x = k.same l := by
        rw [Bool.eq_iff_iff]
        constructor
        · intro e
          exact h.trans k x l hk hx hl e (h.symm l x hl hx agree)
        · intro e
          exact h.trans k l x hk hl hx e agree
      rw [if_pos agree, entryAt?_cons, entryAt?_cons, same]
      split <;> rfl
    · have different : l.same x = false := Bool.not_eq_true _ ▸ agree
      rw [if_neg agree, entryAt?_cons, entryAt?_cons, entryAt?_putEntry v others]
      by_cases found : k.same x = true
      · have apart : k.same l = false := h.same_eq_false hk hx hl found different
        simp only [found, apart, if_true, Bool.false_eq_true, if_false]
      · simp only [found, Bool.false_eq_true, if_false]

omit hl hm in
/-- A map that is made of entries has the last one for each key. -/
theorem entryAt?_ofEntries {entries : Row} (names : ∀ e ∈ entries, S e.1) :
    entryAt? k (ofEntries entries) = lastAt? k entries ∧ ∀ e ∈ ofEntries entries, S e.1 := by
  induction entries using List.reverseRecOn with
  | nil => exact ⟨rfl, fun _ member => (List.not_mem_nil member).elim⟩
  | append_singleton entries e ih =>
    obtain ⟨before, last⟩ := List.forall_mem_append.mp names
    obtain ⟨found, inside⟩ := ih before
    have he : S e.1 := last e (List.mem_singleton_self e)
    have stored : ofEntries (entries ++ [e]) = putEntry e.1 e.2 (ofEntries entries) := by
      unfold ofEntries
      rw [List.foldl_append]
      rfl
    constructor
    · rw [stored, h.entryAt?_putEntry hk he _ inside, lastAt?_concat, found]
    · intro f member
      rw [stored] at member
      rcases mem_keys_putEntry (List.mem_map_of_mem (f := Prod.fst) member) with same | old
      · rw [same]
        exact he
      · obtain ⟨g, member', same⟩ := List.mem_map.mp old
        rw [← same]
        exact inside g member'

omit hl hm in
/-- What is found in the one table of all parameters stands last among the entries. -/
theorem entryAt?_flatten {t : BindingTable} (names : ∀ x ∈ t.names, S x) :
    entryAt? k t.flatten = lastAt? k t.entries :=
  (h.entryAt?_ofEntries hk fun _ member => names _ (List.mem_map_of_mem member)).1

omit hl hm in
/-- A name in a table is found in the one table of all parameters. -/
theorem exists_flatten {t : BindingTable} (names : ∀ x ∈ t.names, S x) (member : k ∈ t.names) :
    ∃ v, entryAt? k t.flatten = some v := by
  rw [h.entryAt?_flatten hk names]
  apply exists_entryAt? (h.refl k hk)
  rw [List.map_reverse, List.mem_reverse]
  exact member

end Comparable

end GraphQuery
