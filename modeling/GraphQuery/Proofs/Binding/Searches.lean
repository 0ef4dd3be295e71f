import GraphQuery.Proofs.Binding.Growth
import Mathlib.Data.Nat.Find
import Mathlib.Logic.Function.Iterate

/-! # Searches for names

A name that comes from a base and is not taken is searched for in two ways.  One counts: unless the base
itself is free, it looks for the first number from two on that makes a free name behind the base
(`CountsTo`).  The other one tries names: it starts at the base, and as long as the name it is at is
taken, it goes on to the one with the next number (`TriesTo`).  Neither loop has a bound.

* `Loop.ends_iff` : what it is for a loop to end;
* `countsTo_iff`, `triesTo_iff` : both end at the first free candidate, if there is one (`IsFirstFree`);
* `exists_isFirstFree` : there is one where the names that are taken are among finitely many;
* `Value.Reserves` : a collection that can be asked for the names it reserves, which are finitely many
  (`Value.Reserves.exists_few`);
* `BindingTable.Gives` : the name that a table gives beside reserved names, whether it is asked for it,
  binds a value or takes another table in.  It is the first free candidate (`gives_candidate`). -/

namespace GraphQuery.Binding

/-! ### Loops -/

/-- A loop: whether it goes on from a state, and to which one. -/
structure Loop (σ : Type) where
  goesOn : σ → Prop
  next : σ → σ

namespace Loop

variable {σ : Type} {l : Loop σ} {s e : σ}

/-- Started in a state, a loop ends in another one: the first from which it does not go on. -/
inductive Ends (l : Loop σ) : σ → σ → Prop
  | here {s : σ} : ¬ l.goesOn s → Ends l s s
  | later {s e : σ} : l.goesOn s → Ends l (l.next s) e → Ends l s e

/-- A loop ends after some number of steps: it goes on before, and not then. -/
theorem ends_iff : l.Ends s e ↔
    ∃ n, e = l.next^[n] s ∧ ¬ l.goesOn e ∧ ∀ m < n, l.goesOn (l.next^[m] s) := by
  constructor
  · intro h
    induction h with
    | here stops => exact ⟨0, rfl, stops, by simp⟩
    | later on _ ih =>
      obtain ⟨n, last, stops, before⟩ := ih
      refine ⟨n + 1, last, stops, ?_⟩
      intro m earlier
      cases m with
      | zero => exact on
      | succ m => exact before m (by omega)
  · rintro ⟨n, rfl, stops, before⟩
    induction n generalizing s with
    | zero => exact .here stops
    | succ n ih =>
      refine .later (before 0 (by omega)) (ih stops ?_)
      intro m earlier
      exact before (m + 1) (by omega)

end Loop

/-! ### The first free candidate -/

section searches

variable {taken taken' : String → Prop} {base name : String} {m n : Nat}

/-- The first candidate that is not taken. -/
structure IsFirstFree (taken : String → Prop) (base : String) (n : Nat) : Prop where
  free : ¬ taken (candidate base n)
  passed : ∀ m < n, taken (candidate base m)

namespace IsFirstFree

theorem unique (h : IsFirstFree taken base m) (h' : IsFirstFree taken base n) : m = n := by
  rcases Nat.lt_trichotomy m n with before | same | after
  · exact absurd (h'.passed m before) h.free
  · exact same
  · exact absurd (h.passed n after) h'.free

theorem congr (h : IsFirstFree taken base n) (same : ∀ s, taken s ↔ taken' s) :
    IsFirstFree taken' base n := by
  refine ⟨?_, ?_⟩
  · intro later
    exact h.free ((same _).mpr later)
  · intro m earlier
    exact (same _).mp (h.passed m earlier)

end IsFirstFree

/-- Where the candidates that are taken are among a few names, one of the first is free. -/
theorem exists_isFirstFree {few : List String}
    (covered : ∀ n, taken (candidate base n) → candidate base n ∈ few) :
    ∃ n ≤ few.length, IsFirstFree taken base n := by
  classical
  obtain ⟨i, -, within, outside⟩ :=
    exists_candidate_not_mem base 0 (Nat.le_refl few.length)
  have free : ¬ taken (candidate base i) := fun h => outside (covered i h)
  have found : ∃ n, ¬ taken (candidate base n) := ⟨i, free⟩
  have least : Nat.find found ≤ i := Nat.find_min' found free
  refine ⟨Nat.find found, by omega, Nat.find_spec found, ?_⟩
  intro m earlier
  exact not_not.mp (Nat.find_min found earlier)

theorem IsFirstFree.le_length {few : List String} (h : IsFirstFree taken base n)
    (covered : ∀ n, taken (candidate base n) → candidate base n ∈ few) : n ≤ few.length := by
  obtain ⟨m, within, first⟩ := exists_isFirstFree covered
  rw [h.unique first]
  exact within

/-- A search with enough tries finds the first free candidate. -/
theorem IsFirstFree.freeFrom_eq {names : List String} (first : IsFirstFree (· ∈ names) base m) :
    ∀ {n tries : Nat}, n ≤ m → m ≤ n + tries → freeFrom names base n tries = candidate base m
  | n, 0, low, high => by
    obtain rfl : n = m := by omega
    rfl
  | n, tries + 1, low, high => by
    unfold freeFrom
    by_cases last : n = m
    · subst last
      rw [if_neg first.free]
    · rw [if_pos (first.passed n (by omega))]
      exact first.freeFrom_eq (by omega) (by omega)

/-! ### Counting -/

/-- A base with a number behind it. -/
def withNumber (base : String) (number : Nat) : String := base ++ "_" ++ toString number

/-- Goes on to the next number as long as the name with the number is taken. -/
def counting (taken : String → Prop) (base : String) : Loop Nat where
  goesOn number := taken (withNumber base number)
  next number := number + 1

/-- The search that counts: it gives the base if that is free, and otherwise the first number from two on
behind it with which it is. -/
inductive CountsTo (taken : String → Prop) (base : String) : String → Prop
  | base : ¬ taken base → CountsTo taken base base
  | number {number : Nat} : taken base → (counting taken base).Ends 2 number →
      CountsTo taken base (withNumber base number)

theorem counting_steps (n : Nat) : (counting taken base).next^[n] 2 = n + 2 := by
  induction n with
  | zero => rfl
  | succ n ih =>
    rw [Function.iterate_succ_apply', ih]
    rfl

theorem countsTo_iff : CountsTo taken base name ↔
    ∃ n, IsFirstFree taken base n ∧ name = candidate base n := by
  constructor
  · intro h
    cases h with
    | base free => exact ⟨0, ⟨free, by simp⟩, rfl⟩
    | number occupied ends =>
      obtain ⟨n, rfl, stops, before⟩ := Loop.ends_iff.mp ends
      rw [counting_steps] at stops ⊢
      refine ⟨n + 1, ⟨stops, ?_⟩, rfl⟩
      intro m earlier
      cases m with
      | zero => exact occupied
      | succ m =>
        have on := before m (by omega)
        rwa [counting_steps] at on
  · rintro ⟨n, first, rfl⟩
    cases n with
    | zero => exact .base first.free
    | succ n =>
      have occupied : taken base := first.passed 0 (by omega)
      refine .number occupied (Loop.ends_iff.mpr ⟨n, (counting_steps n).symm, first.free, ?_⟩)
      intro m earlier
      rw [counting_steps]
      exact first.passed (m + 1) (by omega)

/-! ### Trying -/

/-- Goes on to the name with the next number as long as the name is taken. -/
def trying (taken : String → Prop) (base : String) : Loop (String × Nat) where
  goesOn state := taken state.1
  next state := (withNumber base state.2, state.2 + 1)

/-- The search that tries names: it starts at the base, with two for the next number, and ends at a name
that is free. -/
def TriesTo (taken : String → Prop) (base name : String) : Prop :=
  ∃ number, (trying taken base).Ends (base, 2) (name, number)

theorem trying_steps (n : Nat) :
    (trying taken base).next^[n] (base, 2) = (candidate base n, n + 2) := by
  induction n with
  | zero => rfl
  | succ n ih =>
    rw [Function.iterate_succ_apply', ih]
    rfl

/-- Trying candidates ends at the first free one, as counting does. -/
theorem triesTo_iff : TriesTo taken base name ↔
    ∃ n, IsFirstFree taken base n ∧ name = candidate base n := by
  constructor
  · rintro ⟨number, ends⟩
    obtain ⟨n, last, stops, before⟩ := Loop.ends_iff.mp ends
    rw [trying_steps] at last
    obtain ⟨rfl, -⟩ := Prod.mk.inj last
    refine ⟨n, ⟨stops, ?_⟩, rfl⟩
    intro m earlier
    have on := before m earlier
    rwa [trying_steps] at on
  · rintro ⟨n, first, rfl⟩
    refine ⟨n + 2, Loop.ends_iff.mpr ⟨n, (trying_steps n).symm, first.free, ?_⟩⟩
    intro m earlier
    rw [trying_steps]
    exact first.passed m earlier

end searches

end GraphQuery.Binding

namespace GraphQuery

open GraphQuery.Binding

/-! ### Reserved names -/

section reserved

variable {c : Value} {names : List String}

/-- A collection that reserves some names: it can be asked for any text, as often as one likes, and has
those names and no others. -/
structure Value.Reserves (c : Value) (names : List String) : Prop where
  answers : ∀ s, c.holds (.text s) = .ok (decide (s ∈ names))
  lasts : ∀ s, c.afterSearch (.text s) = c

theorem Value.reserves_members (xs : List Value)
    (searched : ∀ s, c.holds (.text s) = .ok ((Value.text s).isIn xs))
    (lasts : ∀ s, c.afterSearch (.text s) = c) : c.Reserves (xs.filterMap Value.text?) := by
  refine ⟨?_, lasts⟩
  intro s
  rw [searched s]
  congr 1
  rw [Bool.eq_iff_iff, decide_eq_true_iff, mem_filterMap_text?]
  exact text_isIn_iff s xs

theorem Value.reserves_nothing : (Value.tuple []).Reserves [] :=
  Value.reserves_members [] (fun _ => rfl) fun _ => rfl

theorem Value.reserves_ofProperties (properties : Properties) :
    (Value.ofProperties properties).Reserves (properties.map Prod.fst) := by
  have keys : ((properties.map fun p => (Value.text p.1, p.2)).map Prod.fst).filterMap Value.text? =
      properties.map Prod.fst := by
    simp [Function.comp_def, Value.text?]
  rw [← keys]
  exact Value.reserves_members _ (fun _ => rfl) fun _ => rfl

theorem Value.mem_members_of_holds {s : String} (found : c.holds (.text s) = .ok true)
    (noText : ∀ t, c ≠ .text t) : .text s ∈ c.members?.getD [] := by
  unfold Value.holds at found
  split at found
  case h_1 | h_2 => exact absurd rfl (noText _)
  case h_3 | h_4 | h_5 | h_6 | h_7 => contradiction
  case h_8 =>
    split at found
    · next xs listed =>
      rw [listed]
      split at found
      · exact (text_isIn_iff s xs).mp (Except.ok.inj found)
      · exact (text_isIn_iff s xs).mp (Except.ok.inj found)
    · cases found

/-- The parts of a text that are not empty, by where they begin and how long they are. -/
def partsOf (cs : List Char) : List String :=
  (List.range cs.length).flatMap fun start =>
    (List.range cs.length).map fun more => String.ofList ((cs.drop start).take (more + 1))

theorem length_partsOf (cs : List Char) : (partsOf cs).length = cs.length * cs.length := by
  simp [partsOf, List.length_flatMap]

theorem mem_partsOf {s : String} {cs : List Char} (inside : s.toList <:+: cs) (filled : s ≠ "") :
    s ∈ partsOf cs := by
  obtain ⟨front, back, rfl⟩ := inside
  have long : 0 < s.toList.length := by
    rw [List.length_pos_iff]
    intro empty
    exact filled (String.toList_injective empty)
  have part : String.ofList (((front ++ s.toList ++ back).drop front.length).take
      (s.toList.length - 1 + 1)) = s := by
    rw [Nat.sub_add_cancel long, List.append_assoc, List.drop_left, List.take_left,
      String.ofList_toList]
  unfold partsOf
  rw [List.mem_flatMap]
  refine ⟨front.length, ?_, List.mem_map.mpr ⟨s.toList.length - 1, ?_, part⟩⟩
  · simp only [List.length_append, List.mem_range]
    omega
  · simp only [List.length_append, List.mem_range]
    omega

/-- A collection reserves no more names than it is counted for, the empty one apart. -/
theorem Value.Reserves.exists_few (own : c.Reserves names) : ∃ few : List String,
    few.length ≤ BindingTable.reservedCount c ∧ ∀ s ∈ names, s ≠ "" → s ∈ few := by
  have found : ∀ s ∈ names, c.holds (.text s) = .ok true := by
    intro s inside
    rw [own.answers s, decide_eq_true inside]
  by_cases isText : ∃ t, c = .text t
  · obtain ⟨t, rfl⟩ := isText
    refine ⟨partsOf t.toList, ?_, ?_⟩
    · have counted : BindingTable.reservedCount (.text t) = t.toList.length * t.toList.length := by
        simp [BindingTable.reservedCount, Value.members?]
      rw [counted, length_partsOf]
    · intro s inside filled
      refine mem_partsOf ?_ filled
      by_contra apart
      have missed := Except.ok.inj (found s inside)
      rw [Text.splitAtLastText_eq_none apart] at missed
      cases missed
  · have noText : ∀ t, c ≠ .text t := fun t same => isText ⟨t, same⟩
    refine ⟨(c.members?.getD []).filterMap Value.text?, ?_, ?_⟩
    · have counted : BindingTable.reservedCount c = (c.members?.getD []).length := by
        unfold BindingTable.reservedCount
        split
        · exact absurd rfl (noText _)
        · cases c.members? <;> rfl
      rw [counted]
      exact List.length_filterMap_le _ _
    · intro s inside _
      exact mem_filterMap_text?.mpr (mem_members_of_holds (found s inside) noText)

end reserved

/-! ### Asking a table -/

namespace BindingTable

variable {t : BindingTable} {base name : String} {names : List String} {m : Nat} {reserved : Value}

/-- A name that is in some bucket of a table, or reserved. -/
def Occupied (t : BindingTable) (names : List String) (s : String) : Prop :=
  (∃ b, .text s ∈ (t.bucket b).map Prod.fst) ∨ s ∈ names

theorem occupied_iff {s : String} : t.Occupied names s ↔ s ∈ t.textNames ++ names := by
  rw [List.mem_append, mem_textNames, mem_names]
  rfl

instance (t : BindingTable) (names : List String) (s : String) : Decidable (t.Occupied names s) :=
  decidable_of_iff _ occupied_iff.symm

theorem length_textNames_le (t : BindingTable) : t.textNames.length ≤ t.size := by
  have fewer := List.length_filterMap_le Value.text? t.names
  rwa [BindingTable.names, List.length_map] at fewer

/-- Whatever a table holds and whatever is reserved, there is a free candidate. -/
theorem exists_isFirstFree (t : BindingTable) (base : String) (names : List String) :
    ∃ n ≤ t.size + names.length, IsFirstFree (t.Occupied names) base n := by
  have covered (n : Nat) (occupied : t.Occupied names (candidate base n)) :
      candidate base n ∈ t.textNames ++ names := occupied_iff.mp occupied
  obtain ⟨n, within, first⟩ := Binding.exists_isFirstFree covered
  have fewer := t.length_textNames_le
  rw [List.length_append] at within
  exact ⟨n, by omega, first⟩

theorem isTaken_eq (own : reserved.Reserves names) (s : String) :
    t.isTaken reserved (.text s) = .ok (decide (t.Occupied names s), reserved) := by
  unfold isTaken
  by_cases inTable : .text s ∈ t.names
  · have occupied : t.Occupied names s := Or.inl (mem_names.mp inTable)
    rw [if_pos (contains_text_iff.mpr inTable), decide_eq_true occupied]
  · have occupied : t.Occupied names s ↔ s ∈ names := by
      rw [Occupied, ← mem_names, or_iff_right inTable]
    rw [if_neg fun held => inTable (contains_text_iff.mp held), own.answers s, own.lasts s,
      decide_eq_decide.mpr occupied]
    rfl

section first

variable (first : IsFirstFree (t.Occupied names) base m)
include first

theorem freeBesides_eq (own : reserved.Reserves names) : ∀ {n tries : Nat}, n ≤ m → m ≤ n + tries →
    t.freeBesides base n tries reserved = .ok (.text (candidate base m), reserved)
  | n, 0, low, high => by
    obtain rfl : n = m := by omega
    rfl
  | n, tries + 1, low, high => by
    rw [freeBesides, isTaken_eq own]
    by_cases last : n = m
    · subst last
      rw [decide_eq_false first.free]
      rfl
    · rw [decide_eq_true (first.passed n (by omega))]
      exact freeBesides_eq own (by omega) (by omega)

theorem le_tries (own : reserved.Reserves names) : m ≤ t.size + reservedCount reserved + 1 := by
  obtain ⟨few, counted, covers⟩ := own.exists_few
  -- the empty name stands apart: it is a part of every text, and not counted among the parts
  have within : m ≤ ("" :: (t.textNames ++ few)).length := by
    refine first.le_length ?_
    intro n occupied
    by_cases empty : candidate base n = ""
    · rw [empty]
      exact List.mem_cons_self
    · refine List.mem_cons_of_mem _ (List.mem_append.mpr ?_)
      rcases List.mem_append.mp (occupied_iff.mp occupied) with inTable | inNames
      · exact Or.inl inTable
      · exact Or.inr (covers _ inNames empty)
  have fewer := t.length_textNames_le
  rw [List.length_cons, List.length_append] at within
  omega

/-- A table that is asked for a name beside reserved ones gives the first free candidate. -/
theorem nameBesides_eq (own : reserved.Reserves names) :
    t.nameBesides (.text base) reserved = .ok (.text (candidate base m), reserved) := by
  have looked : t.nameBesides (.text base) reserved = (t.isTaken reserved (.text base) >>= fun r =>
      if r.1 then t.freeBesides base 1 (t.size + reservedCount reserved + 1) r.2
      else .ok (.text base, r.2)) := rfl
  have within := le_tries first own
  rw [looked, isTaken_eq own]
  cases m with
  | zero =>
    have free : ¬ t.Occupied names base := first.free
    rw [decide_eq_false free]
    rfl
  | succ m =>
    have occupied : t.Occupied names base := first.passed 0 (by omega)
    rw [decide_eq_true occupied]
    exact freeBesides_eq first own (by omega) (by omega)

/-- A search that goes through a list of all names that are taken. -/
theorem freeFrom_listed {n tries : Nat} (low : n ≤ m)
    (enough : (t.textNames ++ names).length ≤ tries) :
    freeFrom (t.textNames ++ names) base n tries = candidate base m := by
  have listed : IsFirstFree (· ∈ t.textNames ++ names) base m := first.congr fun _ => occupied_iff
  have within : m ≤ (t.textNames ++ names).length := listed.le_length fun _ inside => inside
  exact listed.freeFrom_eq low (by omega)

theorem uniqueName_eq : t.uniqueName base names = candidate base m :=
  freeFrom_listed first (Nat.zero_le m) (Nat.le_refl _)

theorem freshName_eq {others : List Value} (reserve : others.filterMap Value.text? = names) :
    t.freshName (.text base) others = .text (candidate base m) := by
  have texts : (t.names ++ others).filterMap Value.text? = t.textNames ++ names := by
    rw [List.filterMap_append, reserve]
    rfl
  have fewer := List.length_filterMap_le Value.text? (t.names ++ others)
  rw [texts] at fewer
  have looked : (Value.text base).isIn (t.names ++ others) = true ↔ t.Occupied names base := by
    rw [text_isIn_iff, ← mem_filterMap_text?, texts, occupied_iff]
  unfold freshName
  dsimp only
  cases m with
  | zero =>
    rw [if_neg (mt looked.mp first.free)]
    rfl
  | succ m =>
    rw [if_pos (looked.mpr (first.passed 0 (by omega))), texts]
    exact congrArg Value.text (freeFrom_listed first (by omega) fewer)

end first

/-- The name that a table gives for a base beside reserved names, in whatever way it comes to one. -/
structure Gives (t : BindingTable) (base : String) (names : List String) (name : String) : Prop where
  counted : CountsTo (t.Occupied names) base name
  asked : ∀ reserved : Value, reserved.Reserves names →
    t.nameBesides (.text base) reserved = .ok (.text name, reserved)
  binding : t.uniqueName base names = name
  absorbing : ∀ others : List Value, others.filterMap Value.text? = names →
    t.freshName (.text base) others = .text name

theorem gives_candidate (first : IsFirstFree (t.Occupied names) base m) :
    t.Gives base names (candidate base m) where
  counted := countsTo_iff.mpr ⟨m, first, rfl⟩
  asked _ own := nameBesides_eq first own
  binding := uniqueName_eq first
  absorbing _ reserve := freshName_eq first reserve

theorem gives_uniqueName (t : BindingTable) (base : String) (names : List String) :
    t.Gives base names (t.uniqueName base names) := by
  obtain ⟨m, -, first⟩ := t.exists_isFirstFree base names
  rw [uniqueName_eq first]
  exact gives_candidate first

/-- Trying names would come to the same one. -/
theorem Gives.triesTo (h : t.Gives base names name) : TriesTo (t.Occupied names) base name :=
  triesTo_iff.mpr (countsTo_iff.mp h.counted)

end BindingTable

end GraphQuery
