import GraphQuery.Proofs.Binding.Absorption
import GraphQuery.Proofs.Binding.Agreement
import GraphQuery.Workspace

/-! # Two tables with any names

`BindingTable.absorb` moves the entries of another table one after another, and a name may stand in
several of its buckets: then it is renamed each time it comes again, and the last new name counts,
as the last value does in the flat table. What holds after some entries is `Moving`. One entry keeps
it (`Moving.step`), so all of them do (`Moving.run`), and at the end the tables are `Merged`
(`absorb_merged`): each name of the other table has here, under its new name, the value that it had
there.

The names need not be texts. They have to be comparable, as `Comparable` says; texts are. -/

namespace GraphQuery

namespace BindingTable

variable {S : Value → Prop} {t u : BindingTable} {renames : Renames} {k name : Value}

theorem Renames.applyTo_eq_self (h : entryAt? k renames = none) : renames.applyTo k = k := by
  unfold Renames.applyTo
  rw [h]
  rfl

theorem Renames.applyTo_comparable (inside : ∀ e ∈ renames, S e.1 ∧ S e.2) (hk : S k) :
    S (renames.applyTo k) := by
  unfold Renames.applyTo entryAt?
  cases e : renames.find? fun e => k.same e.1 with
  | none => exact hk
  | some found => exact (inside found (List.mem_of_find?_eq_some e)).2

/-- What stands last under a name after an entry came under a new one. -/
theorem lastAt?_add (h : Comparable S) (names : ∀ x ∈ t.names, S x) (hk : S k) (hn : S name)
    (new : name.isIn t.names = false) (v : Value) (b : Bucket) :
    lastAt? k (t.add name v b).entries = if k.same name then some v else lastAt? k t.entries := by
  obtain ⟨before, after, narrow, wide⟩ := entries_add new v b
  rw [wide]
  by_cases own : k.same name = true
  · have apart : ∀ e ∈ before ++ after, k.same e.1 = false := by
      intro e member
      rw [← narrow] at member
      have inside : e.1 ∈ t.names := List.mem_map_of_mem member
      rw [h.same_congr hk hn (names _ inside) own]
      exact isIn_eq_false.mp new _ inside
    rw [if_pos own]
    exact lastAt?_insert_self own apart
  · rw [if_neg own, narrow]
    exact lastAt?_insert_other (Bool.not_eq_true _ ▸ own) before after

/-! ### One entry -/

/-- An entry with the name `k` comes in under `name`, which is new. It is what those names are called
from then on that agree with `k`; the others are called as before. -/
structure Entering (S : Value → Prop) (u : BindingTable) (renames : Renames) (k name : Value)
    (renames' : Renames) : Prop where
  comparable : S name
  new : name.isIn u.names = false
  own : ∀ l, S l → l.same k = true → (renames'.applyTo l).same name = true
  others : ∀ l, S l → l.same k = false → entryAt? l renames' = entryAt? l renames
  inside : ∀ e ∈ renames', S e.1 ∧ S e.2
  known : name = k ∨ k.isIn u.names = true

/-- What one entry does, when a name that is not in the table has not been renamed. -/
theorem absorbEntry_enters (h : Comparable S) (texts : ∀ s, S (.text s))
    (inside : ∀ e ∈ renames, S e.1 ∧ S e.2) (hk : S k)
    (waiting : k.isIn u.names = false → ∀ l, S l → l.same k = true → entryAt? l renames = none)
    (reserved : List Value) (b : Bucket) (v : Value) :
    ∃ name renames', absorbEntry reserved b (u, renames) (k, v) = (u.add name v b, renames') ∧
      Entering S u renames k name renames' := by
  have keys : ∀ e ∈ renames, S e.1 := fun e member => (inside e member).1
  unfold absorbEntry
  cases taken : u.contains k with
  | true =>
    obtain ⟨s, fresh, free, -⟩ := freshName_taken taken reserved
    have named : ∀ l, S l → l.same k = true →
        Renames.applyTo (putEntry k (.text s) renames) l = .text s := by
      intro l hl same
      unfold Renames.applyTo
      rw [h.entryAt?_putEntry hl hk _ keys, if_pos same]
      rfl
    refine ⟨.text s, putEntry k (.text s) renames, ?_, texts s, text_isIn_eq_false free,
      fun l hl same => ?_, fun l hl other => ?_, fun e member => ?_, Or.inr taken⟩
    · simp only [if_true, fresh, named k hk (h.refl k hk)]
    · rw [named l hl same]
      exact (text_same_iff s _).mpr rfl
    · rw [h.entryAt?_putEntry hl hk _ keys, if_neg (Bool.eq_false_iff.mp other)]
    · rcases mem_putEntry member with old | ⟨value, rfl | key⟩
      · exact inside e old
      · exact ⟨hk, value ▸ texts s⟩
      · obtain ⟨f, old, same⟩ := List.mem_map.mp key
        exact ⟨same ▸ keys f old, value ▸ texts s⟩
  | false =>
    have unnamed : ∀ l, S l → l.same k = true → renames.applyTo l = l := by
      intro l hl same
      exact Renames.applyTo_eq_self (waiting taken l hl same)
    refine ⟨k, renames, ?_, hk, taken, fun l hl same => ?_, fun _ _ _ => rfl, inside, Or.inl rfl⟩
    · simp only [Bool.false_eq_true, if_false, unnamed k hk (h.refl k hk)]
    · rw [unnamed l hl same]
      exact same

theorem isIn_concat {l : Value} {ks : List Value} :
    l.isIn (ks ++ [k]) = true ↔ l.isIn ks = true ∨ l.same k = true := by
  unfold Value.isIn
  rw [List.any_append, Bool.or_eq_true, List.any_cons, List.any_nil, Bool.or_false]

theorem isIn_names_add {l : Value} (new : name.isIn u.names = false) (v : Value) (b : Bucket) :
    l.isIn (u.add name v b).names = true ↔ l.same name = true ∨ l.isIn u.names = true := by
  simp only [isIn_iff, mem_names_add new]
  constructor
  · rintro ⟨x, rfl | inside, same⟩
    · exact Or.inl same
    · exact Or.inr ⟨x, inside, same⟩
  · rintro (same | ⟨x, inside, same⟩)
    · exact ⟨name, Or.inl rfl, same⟩
    · exact ⟨x, Or.inr inside, same⟩

/-- An entry under this name, or one that agrees with it, stands in a bucket with this value. -/
def Stands (t : BindingTable) (b : Bucket) (k v : Value) : Prop :=
  ∃ l, k.same l = true ∧ (l, v) ∈ t.bucket b

theorem Stands.add {c : Bucket} {x : Value} (h : u.Stands c k x) (new : name.isIn u.names = false)
    (v : Value) (b : Bucket) : (u.add name v b).Stands c k x := by
  obtain ⟨l, same, member⟩ := h
  refine ⟨l, same, ?_⟩
  rw [bucket_add]
  split
  · next e =>
    subst e
    rw [putEntry_bucket new]
    exact List.mem_append_left _ member
  · exact member

/-- Entries with the buckets they stand in. -/
abbrev Placed := List (Bucket × (Value × Value))

/-- The name `k` of some moved entries is in the table. What it is called now stands there with their
last value, which came out of the same bucket, and was not in the table `t` before. -/
structure Arrived (t : BindingTable) (done : Placed) (u : BindingTable) (renames : Renames)
    (k : Value) : Prop where
  seen : k.isIn u.names = true
  held : (renames.applyTo k).isIn u.names = true
  carried : ∃ b v, lastAt? k (done.map Prod.snd) = some v ∧
    lastAt? (renames.applyTo k) u.entries = some v ∧
    (∃ l, k.same l = true ∧ (b, (l, v)) ∈ done) ∧ u.Stands b (renames.applyTo k) v
  apart : (renames.applyTo k).isIn t.names = false

namespace Entering

variable {renames' : Renames} (enters : Entering S u renames k name renames')
  (order : Comparable S) (names : ∀ x ∈ u.names, S x) {l : Value} (hl : S l)

include enters order names hl

theorem same_eq_false (held : l.isIn u.names = true) : l.same name = false := by
  rw [Bool.eq_false_iff]
  intro same
  rw [order.isIn_congr hl enters.comparable names same, enters.new] at held
  exact Bool.false_ne_true held

theorem lastAt?_eq (held : l.isIn u.names = true) (v : Value) (b : Bucket) :
    lastAt? l (u.add name v b).entries = lastAt? l u.entries := by
  rw [lastAt?_add order names hl enters.comparable enters.new,
    enters.same_eq_false order names hl held, if_neg Bool.false_ne_true]

omit order names in
theorem applyTo_others (other : l.same k = false) : renames'.applyTo l = renames.applyTo l := by
  unfold Renames.applyTo
  rw [enters.others l hl other]

theorem arrived (hk : S k) (known : ∀ x, S x → x.isIn t.names = true → x.isIn u.names = true)
    (same : l.same k = true) (done : Placed) (v : Value) (b : Bucket) :
    Arrived t (done ++ [(b, (k, v))]) (u.add name v b) renames' l := by
  have own := enters.own l hl same
  have called := Renames.applyTo_comparable enters.inside hl
  have stored : (u.add name v b).Stands b (renames'.applyTo l) v := by
    refine ⟨name, own, ?_⟩
    rw [bucket_add, if_pos rfl, putEntry_bucket enters.new]
    exact List.mem_append_right _ (List.mem_singleton_self _)
  refine ⟨(isIn_names_add enters.new v b).mpr ?_, (isIn_names_add enters.new v b).mpr (Or.inl own),
    ⟨b, v, ?_, ?_, ⟨k, same, List.mem_append_right _ (List.mem_singleton_self _)⟩, stored⟩, ?_⟩
  · rcases enters.known with rfl | present
    · exact Or.inl same
    · rw [order.isIn_congr hl hk names same]
      exact Or.inr present
  · rw [List.map_append, List.map_singleton, lastAt?_concat, if_pos same]
  · rw [lastAt?_add order names called enters.comparable enters.new, if_pos own]
  · rw [Bool.eq_false_iff]
    intro taken
    have apart := enters.same_eq_false order names called (known _ called taken)
    rw [own] at apart
    exact Bool.false_ne_true apart.symm

theorem keeps {done : Placed} (h : Arrived t done u renames l) (other : l.same k = false)
    (v : Value) (b : Bucket) :
    Arrived t (done ++ [(b, (k, v))]) (u.add name v b) renames' l := by
  have called := Renames.applyTo_comparable enters.inside hl
  obtain ⟨seen, held, ⟨c, x, last, found, ⟨y, agrees, member⟩, stands⟩, apart⟩ := h
  rw [← enters.applyTo_others hl other] at held found stands apart
  refine ⟨(isIn_names_add enters.new v b).mpr (Or.inr seen),
    (isIn_names_add enters.new v b).mpr (Or.inr held),
    ⟨c, x, ?_, ?_, ⟨y, agrees, List.mem_append_left _ member⟩, stands.add enters.new v b⟩, apart⟩
  · rw [List.map_append, List.map_singleton, lastAt?_concat, other, if_neg Bool.false_ne_true, last]
  · rw [enters.lastAt?_eq order names called held, found]

/-- What has arrived is not called by the new name. -/
theorem called_otherwise {done : Placed} (h : Arrived t done u renames l) (other : l.same k = false) :
    (renames'.applyTo l).same name = false := by
  have held := h.held
  rw [← enters.applyTo_others hl other] at held
  exact enters.same_eq_false order names (Renames.applyTo_comparable enters.inside hl) held

end Entering

/-! ### All entries -/

/-- The names of entries that stand in buckets. -/
def namesOf (done : Placed) : List Value :=
  (done.map Prod.snd).map Prod.fst

/-- After the entries `done` have been moved into the table `t`. -/
structure Moving (S : Value → Prop) (t : BindingTable) (done : Placed)
    (acc : BindingTable × Renames) : Prop where
  comparable : ∀ x ∈ acc.1.names, S x
  inside : ∀ e ∈ acc.2, S e.1 ∧ S e.2
  buckets : ∀ b, ∃ moved, acc.1.bucket b = t.bucket b ++ moved ∧
    moved.map Prod.snd = (done.filter (·.1 = b)).map (·.2.2) ∧ ∀ e ∈ moved, e.1.isIn t.names = false
  waiting : ∀ k, S k → k.isIn (namesOf done) = false → entryAt? k acc.2 = none
  kept : ∀ k, S k → k.isIn t.names = true → lastAt? k acc.1.entries = lastAt? k t.entries
  arrived : ∀ k, S k → k.isIn (namesOf done) = true → Arrived t done acc.1 acc.2 k
  injective : ∀ k l, S k → S l → k.isIn (namesOf done) = true → l.isIn (namesOf done) = true →
    (acc.2.applyTo k).same (acc.2.applyTo l) = true → k.same l = true

theorem moving_nil (names : ∀ x ∈ t.names, S x) : Moving S t [] (t, []) where
  comparable := names
  inside _ member := (List.not_mem_nil member).elim
  buckets _ := ⟨[], (List.append_nil _).symm, rfl, fun _ none => (List.not_mem_nil none).elim⟩
  waiting _ _ _ := rfl
  kept _ _ _ := rfl
  arrived _ _ none := absurd none Bool.false_ne_true
  injective _ _ _ _ none := absurd none Bool.false_ne_true

namespace Moving

variable {done : Placed}

theorem isIn_names (h : Moving S t done (u, renames)) (held : k.isIn t.names = true) :
    k.isIn u.names = true := by
  obtain ⟨x, member, same⟩ := isIn_iff.mp held
  obtain ⟨b, inside⟩ := mem_names.mp member
  obtain ⟨moved, e, -, -⟩ := h.buckets b
  have later : x ∈ (u.bucket b).map Prod.fst := by
    rw [show u.bucket b = _ from e, List.map_append]
    exact List.mem_append_left _ inside
  exact isIn_iff.mpr ⟨x, mem_names.mpr ⟨b, later⟩, same⟩

/-- A name that is not in the table has not been moved, nor one that agrees with it. -/
theorem not_renamed (h : Moving S t done (u, renames)) (order : Comparable S) (hk : S k)
    (absent : k.isIn u.names = false) {l : Value} (hl : S l) (same : l.same k = true) :
    entryAt? l renames = none := by
  refine h.waiting l hl (Bool.eq_false_iff.mpr fun moved => ?_)
  have present := (h.arrived l hl moved).seen
  rw [order.isIn_congr hl hk h.comparable same, absent] at present
  exact Bool.false_ne_true present

theorem step (h : Moving S t done (u, renames)) (order : Comparable S) (texts : ∀ s, S (.text s))
    (hk : S k) (reserved : List Value) (b : Bucket) (v : Value) :
    Moving S t (done ++ [(b, (k, v))]) (absorbEntry reserved b (u, renames) (k, v)) := by
  obtain ⟨name, renames', e, enters⟩ := absorbEntry_enters order texts h.inside hk
    (fun absent l hl same => h.not_renamed order hk absent hl same) reserved b v
  have moved : ∀ l : Value, l.isIn (namesOf (done ++ [(b, (k, v))])) = true ↔
      l.isIn (namesOf done) = true ∨ l.same k = true := by
    intro l
    unfold namesOf
    rw [List.map_append, List.map_append]
    exact isIn_concat
  have earlier : ∀ l : Value, l.isIn (namesOf (done ++ [(b, (k, v))])) = true →
      l.same k = false → l.isIn (namesOf done) = true := by
    intro l here other
    exact ((moved l).mp here).resolve_right (Bool.eq_false_iff.mp other)
  have arrived : ∀ l, S l → l.isIn (namesOf (done ++ [(b, (k, v))])) = true →
      Arrived t (done ++ [(b, (k, v))]) (u.add name v b) renames' l := by
    intro l hl here
    cases same : l.same k with
    | true =>
      exact enters.arrived order h.comparable hl hk (fun _ _ held => h.isIn_names held) same _ v b
    | false => exact enters.keeps order h.comparable hl (h.arrived l hl (earlier l here same)) same v b
  rw [e]
  refine ⟨fun x member => ?comparable, enters.inside, fun c => ?buckets, fun l hl none => ?waiting,
    fun l hl held => ?kept, fun l hl here => ?arrived, fun l m hl hm here here' agree => ?injective⟩
  case comparable =>
    rcases (mem_names_add enters.new v b x).mp member with rfl | old
    · exact enters.comparable
    · exact h.comparable x old
  case buckets =>
    obtain ⟨entries, bucket, values, free⟩ := h.buckets c
    change u.bucket c = _ at bucket
    rw [bucket_add]
    by_cases same : b = c
    · subst same
      refine ⟨entries ++ [(name, v)], ?_, ?_, ?_⟩
      · rw [if_pos rfl, putEntry_bucket enters.new, bucket, List.append_assoc]
      · simp [values]
      · intro e member
        rcases List.mem_append.mp member with old | last
        · exact free e old
        · obtain rfl := List.mem_singleton.mp last
          exact Bool.eq_false_iff.mpr fun taken =>
            Bool.eq_false_iff.mp enters.new (h.isIn_names taken)
    · refine ⟨entries, ?_, ?_, free⟩
      · rw [if_neg same, bucket]
      · simp [values, same]
  case waiting =>
    rw [Bool.eq_false_iff, Ne, moved, not_or, Bool.not_eq_true, Bool.not_eq_true] at none
    exact (enters.others l hl none.2).trans (h.waiting l hl none.1)
  case kept =>
    exact (enters.lastAt?_eq order h.comparable hl (h.isIn_names held) v b).trans (h.kept l hl held)
  case arrived => exact arrived l hl here
  case injective =>
    have called : S (renames'.applyTo l) := Renames.applyTo_comparable enters.inside hl
    have called' : S (renames'.applyTo m) := Renames.applyTo_comparable enters.inside hm
    cases first : l.same k with
    | true =>
      cases second : m.same k with
      | true => exact order.trans l k m hl hk hm first (order.symm m k hm hk second)
      | false =>
        have apart := enters.called_otherwise order h.comparable hm
          (h.arrived m hm (earlier m here' second)) second
        rw [order.same_congr called' called enters.comparable
          (order.symm _ _ called called' agree), enters.own l hl first] at apart
        exact absurd apart.symm Bool.false_ne_true
    | false =>
      have before := h.arrived l hl (earlier l here first)
      cases second : m.same k with
      | true =>
        have apart := enters.called_otherwise order h.comparable hl before first
        rw [order.same_congr called called' enters.comparable agree, enters.own m hm second] at apart
        exact absurd apart.symm Bool.false_ne_true
      | false =>
        refine h.injective l m hl hm (earlier l here first) (earlier m here' second) ?_
        change (renames.applyTo l).same (renames.applyTo m) = true
        rw [← enters.applyTo_others hl first, ← enters.applyTo_others hm second]
        exact agree

theorem run (order : Comparable S) (texts : ∀ s, S (.text s)) (reserved : List Value) :
    ∀ {rest done : Placed} {acc : BindingTable × Renames},
      Moving S t done acc → (∀ x ∈ namesOf rest, S x) →
      Moving S t (done ++ rest) (rest.foldl (fun acc e => absorbEntry reserved e.1 acc e.2) acc)
  | [], done, _, h, _ => by
    rw [List.append_nil]
    exact h
  | (b, (k, v)) :: rest, done, (u, renames), h, names => by
    obtain ⟨first, others⟩ := List.forall_mem_cons.mp names
    rw [List.append_cons, List.foldl_cons]
    exact run order texts reserved (h.step order texts first reserved b v) others

end Moving

/-! ### The other table -/

/-- `u` is `t` with the entries of `other`, each in its bucket. A name of `other` has here, as `r` calls
it, the value that it had there, out of the same bucket. -/
structure Merged (t other u : BindingTable) (r : Value → Value) : Prop where
  carried : ∀ k ∈ other.names, ∃ b v, entryAt? k other.flatten = some v ∧
    entryAt? (r k) u.flatten = some v ∧ other.Stands b k v ∧ u.Stands b (r k) v
  kept : ∀ k ∈ t.names, ∃ v, entryAt? k t.flatten = some v ∧ entryAt? k u.flatten = some v
  apart : ∀ k ∈ other.names, (r k).isIn t.names = false
  injective : ∀ k ∈ other.names, ∀ l ∈ other.names, (r k).same (r l) = true → k.same l = true
  size : u.size = t.size + other.size
  buckets : ∀ b, ∃ moved, u.bucket b = t.bucket b ++ moved ∧
    moved.map Prod.snd = (other.bucket b).map Prod.snd ∧ ∀ e ∈ moved, e.1.isIn t.names = false

theorem size_eq (t : BindingTable) : t.size = (t.bucket .pattern).length +
    (t.bucket .projection).length + (t.bucket .filter).length + (t.bucket .having).length +
    (t.bucket .ordering).length := by
  simp only [size, entries, Bucket.all, List.flatMap_cons, List.flatMap_nil, List.length_append,
    List.length_nil]
  omega

theorem mem_placed {b : Bucket} {e : Value × Value} : (b, e) ∈ t.placed ↔ e ∈ t.bucket b := by
  unfold placed
  rw [List.mem_flatMap]
  constructor
  · rintro ⟨c, -, member⟩
    obtain ⟨f, inside, same⟩ := List.mem_map.mp member
    obtain ⟨rfl, rfl⟩ := Prod.mk.inj same
    exact inside
  · intro inside
    exact ⟨b, Bucket.mem_all b, List.mem_map_of_mem inside⟩

theorem placed_filter (t : BindingTable) (b : Bucket) :
    (t.placed.filter (·.1 = b)).map (·.2.2) = (t.bucket b).map Prod.snd := by
  have own : ∀ c : Bucket, (((t.bucket c).map fun e => (c, e)).filter (·.1 = b)).map (·.2.2) =
      if c = b then (t.bucket c).map Prod.snd else [] := by
    intro c
    rw [List.filter_map]
    by_cases same : c = b
    · simp [same, Function.comp_def]
    · simp [same, Function.comp_def]
  simp only [placed, Bucket.all, List.flatMap_cons, List.flatMap_nil, List.filter_append,
    List.map_append, own, List.append_nil]
  cases b <;> simp

/-- After all entries of the other table the two are merged. -/
theorem Moving.merged {other : BindingTable} (h : Moving S t other.placed (u, renames))
    (order : Comparable S) (own : ∀ x ∈ t.names, S x) (others : ∀ x ∈ other.names, S x) :
    Merged t other u renames.applyTo := by
  have moved : ∀ x ∈ other.names, x.isIn (namesOf other.placed) = true := by
    intro x member
    refine isIn_iff.mpr ⟨x, ?_, order.refl x (others x member)⟩
    unfold namesOf
    rw [map_placed]
    exact member
  have buckets : ∀ b, ∃ entries, u.bucket b = t.bucket b ++ entries ∧
      entries.map Prod.snd = (other.bucket b).map Prod.snd ∧
      ∀ e ∈ entries, e.1.isIn t.names = false := by
    intro b
    obtain ⟨entries, bucket, values, free⟩ := h.buckets b
    exact ⟨entries, bucket, values.trans (placed_filter other b), free⟩
  refine ⟨fun k member => ?carried, fun k member => ?kept, fun k member => ?apart,
    fun k member l member' agree => ?injective, ?size, buckets⟩
  case carried =>
    have hk := others k member
    obtain ⟨b, v, last, found, ⟨l, same, inside⟩, stands⟩ := (h.arrived k hk (moved k member)).carried
    rw [map_placed, ← order.entryAt?_flatten hk others] at last
    rw [← order.entryAt?_flatten (Renames.applyTo_comparable h.inside hk) h.comparable] at found
    exact ⟨b, v, last, found, ⟨l, same, mem_placed.mp inside⟩, stands⟩
  case kept =>
    have hk := own k member
    obtain ⟨v, found⟩ := order.exists_flatten hk own member
    refine ⟨v, found, ?_⟩
    have kept := h.kept k hk (isIn_iff.mpr ⟨k, member, order.refl k hk⟩)
    rw [← order.entryAt?_flatten hk own, found, ← order.entryAt?_flatten hk h.comparable] at kept
    exact kept
  case apart => exact (h.arrived k (others k member) (moved k member)).apart
  case injective =>
    exact h.injective k l (others k member) (others l member') (moved k member) (moved l member') agree
  case size =>
    have longer : ∀ b, (u.bucket b).length = (t.bucket b).length + (other.bucket b).length := by
      intro b
      obtain ⟨entries, bucket, values, -⟩ := buckets b
      have lengths := congrArg List.length values
      rw [List.length_map, List.length_map] at lengths
      rw [bucket, List.length_append, lengths]
    rw [size_eq u, size_eq t, size_eq other]
    simp only [longer]
    omega

/-- A table takes another one in, whatever the names of the two are and wherever they stand. -/
theorem absorb_merged {other : BindingTable}
    (order : Comparable fun k => k ∈ t.names ∨ k ∈ other.names) :
    Merged t other (t.absorb other).1 (t.absorb other).2.applyTo := by
  have coming : ∀ x ∈ namesOf other.placed,
      (x ∈ t.names ∨ x ∈ other.names) ∨ ∃ s, x = .text s := by
    intro x member
    unfold namesOf at member
    rw [map_placed] at member
    exact Or.inl (Or.inr member)
  have run := (moving_nil fun x member => Or.inl (Or.inl member)).run order.withTexts
    (fun s => Or.inr ⟨s, rfl⟩) other.names coming
  rw [List.nil_append, ← absorb_eq_foldl] at run
  exact run.merged order.withTexts (fun x member => Or.inl (Or.inl member))
    fun x member => Or.inl (Or.inr member)

end BindingTable

namespace Workspace

open BindingTable

/-- One table takes another one in. Every name of the other one has here, as it is called now, the
value that it had there; different names are called differently, and none as a name that the table
had. Its own names keep their values, each entry stands in the bucket it came from, and no other
table changes. -/
theorem absorbTable_merged {w : Workspace} {n m : Nat} (apart : n ≠ m) (found : n < w.tables.length)
    (order : Comparable fun k => k ∈ (w.table n).names ∨ k ∈ (w.table m).names) :
    ∃ renames w', (absorbTable n m).outcome w = (.ok renames, w') ∧
      Merged (w.table n) (w.table m) (w'.table n) renames.applyTo ∧
      ∀ i, i ≠ n → w'.table i = w.table i := by
  refine ⟨((w.table n).absorb (w.table m)).2, w.setTable n ((w.table n).absorb (w.table m)).1,
    ?_, ?_, fun i other => ?_⟩
  · unfold absorbTable
    rw [if_neg apart]
    rfl
  · have stored : (w.setTable n ((w.table n).absorb (w.table m)).1).table n =
        ((w.table n).absorb (w.table m)).1 := by
      unfold Workspace.table setTable
      rw [List.getElem?_set_self found]
      rfl
    rw [stored]
    exact absorb_merged order
  · unfold Workspace.table setTable
    rw [List.getElem?_set_ne (Ne.symm other)]

/-- A name in two buckets of the other table is renamed twice, past a name that is still to come. -/
theorem absorbTable_merged_twice : ∃ w w' : Workspace, ∃ renames : Renames,
    (w.table 0).entries = [(.text "age", .int 18)] ∧
    (w.table 1).entries =
      [(.text "age", .int 1), (.text "age", .int 2), (.text "age_2", .int 3)] ∧
    (absorbTable 0 1).outcome w = (.ok renames, w') ∧
    (renames.applyTo (.text "age")).text? = some "age_4" ∧
    Merged (w.table 0) (w.table 1) (w'.table 0) renames.applyTo ∧
    ∀ i, i ≠ 0 → w'.table i = w.table i := by
  let w : Workspace := { Workspace.empty with tables :=
    [⟨[], [], [(.text "age", .int 18)], [], []⟩,
      ⟨[(.text "age", .int 1)], [], [(.text "age", .int 2), (.text "age_2", .int 3)], [], []⟩] }
  have order : Comparable fun k => k ∈ (w.table 0).names ∨ k ∈ (w.table 1).names := by
    refine comparable_texts.mono fun k member => ?_
    have texts : ∀ x ∈ (w.table 0).names ++ (w.table 1).names, ∃ s, x = .text s := by
      intro x inside
      simp [w, Workspace.table, names, entries, Bucket.all, bucket] at inside
      rcases inside with rfl | rfl
      · exact ⟨_, rfl⟩
      · exact ⟨_, rfl⟩
    exact texts k (List.mem_append.mpr member)
  obtain ⟨renames, w', ran, merged, others⟩ :=
    absorbTable_merged (w := w) (n := 0) (m := 1) (by decide) (by decide) order
  refine ⟨w, w', renames, rfl, rfl, ran, ?_, merged, others⟩
  have called : (((absorbTable 0 1).outcome w).1.toOption.map fun r =>
      (Renames.applyTo r (.text "age")).text?) = some (some "age_4") := by decide +kernel
  rw [ran] at called
  exact Option.some.inj called

end Workspace

end GraphQuery
