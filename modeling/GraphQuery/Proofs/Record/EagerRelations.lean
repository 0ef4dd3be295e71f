import GraphQuery.Proofs.Binding.Agreement
import GraphQuery.Proofs.Record.Attaching
import GraphQuery.Proofs.Record.RowRecords
import Mathlib.Data.Nat.Find

/-! # What parents hold

* `attachedKept_slot` : a parent with an identity holds the records that are put into its slot, each
  once, or the last of them.
* `ownerOf?_of_last` : the last parent with an identity is the one that counts.
* `attachRelated_attaches` : that parent gets all records of the pairs with its identity, and with it
  whoever has its very map of relations; other parents with that identity get none. -/

namespace GraphQuery

/-! ### Records that are put into one slot -/

/-- What a parent holds of related records: each of them once, in the order of their first appearance,
or the last one. -/
def eagerRelation (many : Bool) (related : List Value) : Value :=
  if many then .ofList (related.eraseDupsBy fun v w => sameIdentity w v) else related.getLastD .null

/-- The records that are put into a slot. -/
def depositedIn (parents : List Value) (pairs : List (Value × Value)) (slot : RelationSlot) : List Value :=
  ((pairs.filterMap (depositOf (parentIndex parents))).filter fun d => slotAt parents d.1 = slot).map
    Prod.snd

/-- The record that a pair puts into a slot. -/
def takenInto (parents : List Value) (slot : RelationSlot) (pair : Value × Value) : Option Value :=
  ((depositOf (parentIndex parents) pair).filter fun d => decide (slotAt parents d.1 = slot)).map Prod.snd

theorem depositedIn_eq_filterMap (parents : List Value) (pairs : List (Value × Value))
    (slot : RelationSlot) :
    depositedIn parents pairs slot = pairs.filterMap (takenInto parents slot) := by
  unfold depositedIn
  rw [List.filter_filterMap, List.map_filterMap]
  rfl

theorem takenInto_eq (parents : List Value) (slot : RelationSlot) (pair : Value × Value) :
    takenInto parents slot pair =
      if (ownerOf? (parentIndex parents) pair.1).any (fun place => decide (slotAt parents place = slot)) &&
        !pair.2.isNull then some pair.2 else none := by
  unfold takenInto depositOf
  cases pair.2.isNull with
  | true => rw [if_pos rfl, Bool.not_true, Bool.and_false]; rfl
  | false =>
    rw [if_neg Bool.false_ne_true, Bool.not_false, Bool.and_true]
    cases ownerOf? (parentIndex parents) pair.1 with
    | none => rfl
    | some place =>
      rw [Option.map_some, Option.any_some, Option.filter_some]
      split <;> rfl

theorem mem_depositedIn {parents : List Value} {pairs : List (Value × Value)} {slot : RelationSlot}
    {v : Value} (member : v ∈ depositedIn parents pairs slot) : ∃ pair ∈ pairs, pair.2 = v := by
  rw [depositedIn_eq_filterMap] at member
  obtain ⟨pair, inside, taken⟩ := List.mem_filterMap.mp member
  rw [takenInto_eq] at taken
  split at taken
  · exact ⟨pair, inside, Option.some.inj taken⟩
  · cases taken

theorem foldl_withRelated : ∀ (related xs : List Value), related.foldl withRelated xs =
    xs ++ (related.filter fun v => !xs.any (sameIdentity · v)).eraseDupsBy fun v w => sameIdentity w v
  | [], xs => (List.append_nil xs).symm
  | v :: related, xs => by
    rw [List.foldl_cons, foldl_withRelated related, List.filter_cons]
    unfold withRelated
    cases known : xs.any (sameIdentity · v) with
    | true => rfl
    | false =>
      have later : (related.filter fun w => !(xs ++ [v]).any (sameIdentity · w)) =
          (related.filter fun w => !xs.any (sameIdentity · w)).filter
            fun w => decide (sameIdentity v w = false) := by
        rw [List.filter_filter]
        refine List.filter_congr fun w _ => ?_
        rw [List.any_append, List.any_cons, List.any_nil, Bool.or_false, Bool.not_or, Bool.and_comm]
        cases sameIdentity v w <;> rfl
      rw [if_neg Bool.false_ne_true, Bool.not_false, if_pos rfl, List.eraseDupsBy_cons, later,
        List.append_assoc, List.singleton_append]

/-- Adding records one after the other keeps each of them once. -/
theorem foldl_withRelated_nil (related : List Value) :
    related.foldl withRelated [] = related.eraseDupsBy fun v w => sameIdentity w v := by
  have all : (related.filter fun v => !([] : List Value).any (sameIdentity · v)) = related :=
    List.filter_eq_self.mpr fun _ _ => rfl
  rw [foldl_withRelated, all, List.nil_append]

theorem foldl_nextHeld (many : Bool) (related : List Value) :
    related.foldl (fun held v => some (nextHeld many (held.getD .null) v))
      (some (initialRelation many)) = some (eagerRelation many related) := by
  cases many with
  | true =>
    have grown : ∀ xs, related.foldl (fun held v => some (nextHeld true (held.getD .null) v))
        (some (.ofList xs)) = some (.ofList (related.foldl withRelated xs)) := by
      induction related with
      | nil => exact fun _ => rfl
      | cons v related ih => exact fun xs => ih (withRelated xs v)
    rw [show initialRelation true = .ofList [] from rfl, grown, foldl_withRelated_nil]
    rfl
  | false =>
    have last : ∀ x, related.foldl (fun held v => some (nextHeld false (held.getD .null) v)) (some x) =
        some (related.getLastD x) := by
      induction related with
      | nil => exact fun _ => rfl
      | cons v related ih => exact fun x => (ih v).trans (by rw [List.getLastD_cons])
    exact last .null

section

variable {parents : List Value} {name : String} {many : Bool} {pairs : List (Value × Value)}

/-- What the slots hold in the end depends on the records that are put into each of them. -/
theorem attachedKept_congr {pairs' : List (Value × Value)}
    (same : ∀ slot, depositedIn parents pairs slot = depositedIn parents pairs' slot) :
    attachedKept parents many pairs = attachedKept parents many pairs' := by
  funext slot
  have records := same slot
  unfold depositedIn at records
  rw [attachedKept, attachedKept, foldl_deposit_slot, foldl_deposit_slot, records]

/-- In the end the slot of a parent with an identity holds the records that are put into it. -/
theorem attachedKept_slot {place : Nat} {p k : Value} (there : parents[place]? = some p)
    (own : p.identity? = some k) : attachedKept parents many pairs (p.slot place) =
      some (eagerRelation many (depositedIn parents pairs (p.slot place))) := by
  have opened : openedKept parents many (p.slot place) = some (initialRelation many) := by
    rw [← slotAt_eq there]
    exact openedKept_of_mem (e := (k, place)) (mem_identified.mpr ⟨p, there, own⟩)
  rw [attachedKept, foldl_deposit_slot, opened, foldl_nextHeld]
  rfl

theorem getElem?_attached {place : Nat} {p k : Value} (there : parents[place]? = some p)
    (own : p.identity? = some k) :
    (attachedAt name (attachedKept parents many pairs) parents)[place]? =
      some (p.attached name (eagerRelation many (depositedIn parents pairs (p.slot place)))) := by
  rw [getElem?_attachedAt, there, Option.map_some, keeping_some (attachedKept_slot there own)]

/-! ### The parent that counts -/

/-- An entry of the index as an entry of a map. -/
def indexEntry (e : Value × Nat) : Value × Value := (e.1, .int e.2)

theorem map_notePlace (k : Value) (place : Nat) : ∀ index : ParentIndex,
    (notePlace k place index).map indexEntry = putEntry k (.int place) (index.map indexEntry)
  | [] => rfl
  | (l, other) :: index => by
    rw [notePlace, List.map_cons, indexEntry, putEntry]
    split
    · rfl
    · rw [List.map_cons, map_notePlace k place index]
      rfl

theorem map_parentIndex (parents : List Value) : (parentIndex parents).map indexEntry =
    ofEntries ((identified parents.zipIdx).map indexEntry) := by
  have grown : ∀ heads index : ParentIndex, (indexed index heads).map indexEntry =
      (heads.map indexEntry).foldl (fun t e => putEntry e.1 e.2 t) (index.map indexEntry) := by
    intro heads
    induction heads with
    | nil => exact fun _ => rfl
    | cons h heads ih =>
      intro index
      rw [List.map_cons, List.foldl_cons]
      show (indexed (notePlace h.1 h.2 index) heads).map indexEntry = _
      rw [ih, map_notePlace]
      rfl
  exact grown _ []

theorem entryAt?_map_indexEntry (k : Value) (index : ParentIndex) :
    entryAt? k (index.map indexEntry) = (index.find? fun e => k.same e.1).map fun e => .int e.2 := by
  unfold entryAt?
  rw [List.find?_map, Option.map_map]
  rfl

theorem key_of_mem_parentIndex {e : Value × Nat} (member : e ∈ parentIndex parents) :
    ∃ p ∈ parents, p.identity? = some e.1 := by
  have key : e.1 ∈ ((identified parents.zipIdx).map indexEntry).map Prod.fst := by
    refine mem_keys_ofEntries ?_
    rw [← map_parentIndex, List.map_map]
    exact List.mem_map_of_mem (f := Prod.fst ∘ indexEntry) member
  obtain ⟨f, inside, same⟩ := List.mem_map.mp key
  obtain ⟨h, head, rfl⟩ := List.mem_map.mp inside
  obtain ⟨p, there, own⟩ := mem_identified.mp head
  exact ⟨p, List.mem_of_getElem? there, own.trans (congrArg some same)⟩

/-- The parent at a place is the last one with an identity. -/
def LastWith (parents : List Value) (k : Value) (place : Nat) : Prop :=
  (∃ p l, parents[place]? = some p ∧ p.identity? = some l ∧ l.same k = true) ∧
    ∀ later p l, place < later → parents[later]? = some p → p.identity? = some l → l.same k = false

theorem exists_lastWith {k l p : Value} {place : Nat} (there : parents[place]? = some p)
    (own : p.identity? = some l) (same : l.same k = true) : ∃ last, LastWith parents k last := by
  classical
  let has : Nat → Prop := fun i => ∃ p l, parents[i]? = some p ∧ p.identity? = some l ∧ l.same k = true
  have inside : place ≤ parents.length := Nat.le_of_lt (List.getElem?_eq_some_iff.mp there).1
  refine ⟨Nat.findGreatest has parents.length, ?_, fun later q m after there' own' => ?_⟩
  · exact Nat.findGreatest_spec (P := has) inside ⟨p, l, there, own, same⟩
  · have inside' : later ≤ parents.length := Nat.le_of_lt (List.getElem?_eq_some_iff.mp there').1
    rw [Bool.eq_false_iff]
    exact fun same' => Nat.findGreatest_is_greatest after inside' ⟨q, m, there', own', same'⟩

section

variable {S : Value → Prop} (comparable : Comparable S)
  (known : ∀ p ∈ parents, ∀ k, p.identity? = some k → S k)

include comparable known

/-- The place that is found for an identity is the last one that was noted for it. -/
theorem ownerOf?_eq_lastAt? {v i : Value} (own : v.identity? = some i) (hi : S i) :
    (ownerOf? (parentIndex parents) v).map (fun place : Nat => Value.int place) =
      lastAt? i ((identified parents.zipIdx).map indexEntry) := by
  have names : ∀ e ∈ (identified parents.zipIdx).map indexEntry, S e.1 := by
    intro e member
    obtain ⟨h, head, rfl⟩ := List.mem_map.mp member
    obtain ⟨p, there, own⟩ := mem_identified.mp head
    exact known p (List.mem_of_getElem? there) _ own
  rw [ownerOf?_eq (identity?_eq_some.mp own).1, Option.map_map,
    ← (comparable.entryAt?_ofEntries hi names).1, ← map_parentIndex, entryAt?_map_indexEntry]
  rfl

theorem ownerOf?_of_last {v i k : Value} (own : v.identity? = some i) (hi : S i) (hk : S k)
    (same : i.same k = true) {last : Nat} (counts : LastWith parents k last) :
    ownerOf? (parentIndex parents) v = some last := by
  obtain ⟨⟨p, l, there, own', agrees⟩, later⟩ := counts
  have inside : last < parents.length := (List.getElem?_eq_some_iff.mp there).1
  have hl : S l := known p (List.mem_of_getElem? there) l own'
  have cut : parents = parents.take last ++ p :: parents.drop (last + 1) := by
    rw [← (List.getElem?_eq_some_iff.mp there).2, ← List.drop_eq_getElem_cons inside,
      List.take_append_drop]
  have heads : (identified parents.zipIdx).map indexEntry =
      (identified (parents.take last).zipIdx).map indexEntry ++ (l, .int last) ::
        (identified ((parents.drop (last + 1)).zipIdx (last + 1))).map indexEntry := by
    have size : (parents.take last).length = last := List.length_take_of_le (Nat.le_of_lt inside)
    conv_lhs => rw [cut, List.zipIdx_append, List.zipIdx_cons, Nat.zero_add, size]
    unfold identified
    rw [List.filterMap_append, List.filterMap_cons, own', List.map_append]
    rfl
  have others : ∀ f ∈ (identified ((parents.drop (last + 1)).zipIdx (last + 1))).map indexEntry,
      i.same f.1 = false := by
    intro f member
    obtain ⟨e, head, rfl⟩ := List.mem_map.mp member
    obtain ⟨⟨q, place⟩, found, noted⟩ := List.mem_filterMap.mp head
    obtain ⟨m, own'', rfl⟩ := Option.map_eq_some_iff.mp noted
    obtain ⟨after, found⟩ := List.mk_mem_zipIdx_iff_le_and_getElem?_sub.mp found
    rw [List.getElem?_drop, Nat.add_sub_cancel' after] at found
    have hm : S m := known q (List.mem_of_getElem? found) m own''
    have apart : m.same k = false := later place q m after found own''
    exact comparable.same_eq_false hi hk hm same apart
  have found := ownerOf?_eq_lastAt? comparable known own hi
  rw [heads, lastAt?_of_last (e := (l, .int last)) (comparable.trans i k l hi hk hl same
    (comparable.symm l k hl hk agrees)) others] at found
  obtain ⟨place, owner, place'⟩ := Option.map_eq_some_iff.mp found
  obtain rfl := Int.ofNat.inj (Value.int.inj place')
  exact owner

theorem identity_of_ownerOf? {v i : Value} (own : v.identity? = some i) (hi : S i) {place : Nat}
    (found : ownerOf? (parentIndex parents) v = some place) :
    ∃ p l, parents[place]? = some p ∧ p.identity? = some l ∧ i.same l = true := by
  have last := ownerOf?_eq_lastAt? comparable known own hi
  rw [found, Option.map_some, lastAt?, entryAt?] at last
  obtain ⟨f, looked, place'⟩ := Option.map_eq_some_iff.mp last.symm
  obtain ⟨e, head, rfl⟩ := List.mem_map.mp (List.mem_reverse.mp (List.mem_of_find?_eq_some looked))
  obtain rfl := Int.ofNat.inj (Value.int.inj place')
  obtain ⟨p, there, own'⟩ := mem_identified.mp head
  exact ⟨p, e.1, there, own', List.find?_some (p := fun e : Value × Value => i.same e.1) looked⟩

omit comparable known in
/-- Nothing but null agrees with null. -/
theorem isNull_of_same {k l : Value} (null : k.isNull = true) (same : k.same l = true) :
    l.isNull = true := by
  cases k with
  | null => cases l <;> first | rfl | cases same
  | _ => cases null

omit comparable known in
theorem ownerOf?_eq_none {v k : Value} (own : identityOf v = .ok k) (null : k.isNull = true) :
    ownerOf? (parentIndex parents) v = none := by
  have nothing : (parentIndex parents).find? (fun e => k.same e.1) = none := by
    rw [List.find?_eq_none]
    intro e member same
    obtain ⟨p, -, own⟩ := key_of_mem_parentIndex member
    have present := (identity?_eq_some.mp own).2
    rw [isNull_of_same null same] at present
    cases present
  rw [ownerOf?_eq own, nothing]
  rfl

end

/-- The related records of the pairs whose parent has an identity, in the order of the pairs. -/
def relatedOf (k : Value) (pairs : List (Value × Value)) : List Value :=
  (pairs.filter fun p => p.1.identity?.any (·.same k) && !p.2.isNull).map Prod.snd

section

variable {S : Value → Prop} (comparable : Comparable S)
  (known : ∀ p ∈ parents, ∀ k, p.identity? = some k → S k) {k : Value} (hk : S k) {slot : RelationSlot}
  (alone : ∀ place q l, parents[place]? = some q → q.identity? = some l →
    slotAt parents place = slot → l.same k = true) {last : Nat} (counts : LastWith parents k last)

include comparable known hk alone counts

/-- Where only parents of one identity have a slot, a pair is led to it if it has that identity and the
slot is that of the last parent with it. -/
theorem ownerOf?_any_slot {v : Value} (own : ∃ i, identityOf v = .ok i)
    (inside : ∀ i, v.identity? = some i → S i) :
    ((ownerOf? (parentIndex parents) v).any fun place => decide (slotAt parents place = slot)) =
      (decide (slotAt parents last = slot) && v.identity?.any (·.same k)) := by
  obtain ⟨i, own⟩ := own
  cases null : i.isNull with
  | true =>
    rw [ownerOf?_eq_none own null, identity?_eq_none own null, Option.any_none, Option.any_none,
      Bool.and_false]
  | false =>
    have identity := identity?_eq_some.mpr ⟨own, null⟩
    have hi : S i := inside i identity
    rw [identity, Option.any_some]
    cases same : i.same k with
    | true =>
      rw [ownerOf?_of_last comparable known identity hi hk same counts, Option.any_some, Bool.and_true]
    | false =>
      -- a parent with this slot that is found all the same would have both identities
      rw [Bool.and_false, Bool.eq_false_iff, Ne, Option.any_eq_true]
      rintro ⟨place, found, here⟩
      obtain ⟨q, l, there, own', agrees⟩ := identity_of_ownerOf? comparable known identity hi found
      have hl : S l := known q (List.mem_of_getElem? there) l own'
      have back : l.same k = true := alone place q l there own' (of_decide_eq_true here)
      rw [comparable.trans i l k hi hl hk agrees back] at same
      cases same

/-- Where a parent has its relations to itself, or shares them with parents of its identity alone, the
records that are put there are those of the pairs with that identity, if it is the slot of the last
parent with it; otherwise there are none. -/
theorem depositedIn_eq (identified : ∀ pair ∈ pairs, (∃ i, identityOf pair.1 = .ok i) ∧
      ∀ i, pair.1.identity? = some i → S i) :
    depositedIn parents pairs slot = if slotAt parents last = slot then relatedOf k pairs else [] := by
  have each : ∀ pair ∈ pairs, takenInto parents slot pair =
      if decide (slotAt parents last = slot) && pair.1.identity?.any (·.same k) && !pair.2.isNull then
        some pair.2 else none := by
    intro pair member
    obtain ⟨own, inside⟩ := identified pair member
    rw [takenInto_eq, ownerOf?_any_slot comparable known hk alone counts own inside]
  rw [depositedIn_eq_filterMap, List.filterMap_congr each]
  unfold relatedOf
  split
  case isTrue here =>
    rw [← List.filterMap_eq_map, List.filterMap_filter, decide_eq_true here]
    simp only [Bool.true_and]
    rfl
  case isFalse elsewhere =>
    rw [decide_eq_false elsewhere]
    simp only [Bool.false_and, Bool.false_eq_true, if_false, List.filterMap_none]

end

/-! ### What every parent holds -/

theorem exists_identityOf {p : Value} (holds : p.HasRelations) : ∃ k, identityOf p = .ok k := by
  cases p <;> first | exact ⟨_, rfl⟩ | cases holds

/-- What can be asked for its identity can be looked up, if all identities can. -/
theorem isKey_of_identityOf {S : Value → Prop} (keys : ∀ k, S k → k.isKey = true) {v k : Value}
    (own : identityOf v = .ok k) (inside : ∀ i, v.identity? = some i → S i) : k.isKey = true := by
  cases null : k.isNull with
  | true => cases k <;> first | rfl | cases null
  | false => exact keys k (inside k (identity?_eq_some.mpr ⟨own, null⟩))

theorem same_of_slotAt {S : Value → Prop} (comparable : Comparable S) {place : Nat} {p k : Value}
    (there : parents[place]? = some p) (own : p.identity? = some k) (hk : S k)
    (alone : ∀ q ∈ parents, p.sharesRelations q = true → ∀ l, q.identity? = some l → l.same k = true)
    {other : Nat} {q l : Value} (there' : parents[other]? = some q) (own' : q.identity? = some l)
    (here : slotAt parents other = p.slot place) : l.same k = true := by
  rw [slotAt_eq there'] at here
  rcases slot_eq_iff.mp here.symm with shares | ⟨-, -, rfl⟩
  · exact alone q (List.mem_of_getElem? there') shares l own'
  · obtain rfl := Option.some.inj (there.symm.trans there')
    obtain rfl := Option.some.inj (own.symm.trans own')
    exact comparable.refl k hk

variable {r : Registry} {rows : List Value → Result (List Value)} {parentColumn relatedColumn : Value}

/-- Each parent with an identity holds the related records of the pairs with that identity, if it is the
last parent that has it or has the same map of relations; any other parent with that identity holds none.
This says nothing about a parent that shares its map of relations with one of another identity. -/
def HoldRelated (name : String) (many : Bool) (parents : List Value) (pairs : List (Value × Value))
    (final : List Value) : Prop :=
  ∀ place p k, parents[place]? = some p → p.identity? = some k →
    (∀ q ∈ parents, p.sharesRelations q = true → ∀ l, q.identity? = some l → l.same k = true) →
    ∃ q last, final[place]? = some q ∧ LastWith parents k last ∧
      getRelation q (.text name) = eagerRelation many
        (if slotAt parents last = slotAt parents place then relatedOf k pairs else [])

/-- Attaching succeeds, and then the last parent with each identity holds all that belongs to it. -/
theorem attachRelated_attaches {S : Value → Prop} (comparable : Comparable S)
    (keys : ∀ k, S k → k.isKey = true) (one : OneRow parents) (holders : ∀ p ∈ parents, p.HasRelations)
    (known : ∀ p ∈ parents, ∀ k, p.identity? = some k → S k)
    (read : (rows (startedParents name many parents)).bind (r.pairs parentColumn relatedColumn) = .ok pairs)
    (related : ∀ pair ∈ pairs, ∀ k, pair.1.identity? = some k → S k) :
    ∃ final, (attachRelated r rows (.text name) parentColumn relatedColumn many).outcome parents =
        (.ok (), final) ∧ final.length = parents.length ∧ HoldRelated name many parents pairs final := by
  have fit : ∀ p ∈ parents, p.Attachable := by
    intro p member
    obtain ⟨k, own⟩ := exists_identityOf (holders p member)
    exact ⟨k, own, fun _ => ⟨isKey_of_identityOf keys own (known p member), holders p member⟩⟩
  obtain ⟨l, -, read'⟩ := Result.bind_eq_ok read
  have identities := identities_of_pairs read'
  have identified : ∀ pair ∈ pairs, IsIdentified pair := by
    intro pair member
    obtain ⟨⟨k, own⟩, other⟩ := identities pair member
    exact ⟨⟨k, own, isKey_of_identityOf keys own (related pair member)⟩, other⟩
  refine ⟨_, outcome_attachRelated one fit read identified, length_attachedAt .., ?_⟩
  intro place p k there own alone
  have member : p ∈ parents := List.mem_of_getElem? there
  have hk : S k := known p member k own
  obtain ⟨last, counts⟩ := exists_lastWith there own (comparable.refl k hk)
  refine ⟨_, last, getElem?_attached there own, counts, ?_⟩
  rw [getRelation_attached (holders p member), slotAt_eq there, depositedIn_eq comparable known hk
    (fun _ _ _ there' own' here => same_of_slotAt comparable there own hk alone there' own' here) counts
    fun pair member => ⟨(identities pair member).1, related pair member⟩]

/-- A record of a node with a label, of which nothing else is known; a mark tells its relations apart. -/
def labelled (id : Int) (label : String) (relations : Row) (mark : Option Nat) : Value :=
  .record ⟨some id, [label], [], relations, mark, none, ["id", "labels", "properties"]⟩

/-- A row with a user and a post. -/
def postRow (user post : Int) : Value :=
  .ofPairs [(.text "user", driverNode user "User"), (.text "post", driverNode post "Post")]

/-- One user, who occurs twice, has two posts, one of which is in two rows; another one has none. -/
theorem attachRelated_attaches_twice :
    let parents := [labelled 1 "User" [] (some 0), labelled 2 "User" [] (some 1),
      labelled 1 "User" [] (some 0)]
    let rows : List Value → Result (List Value) := fun _ => .ok [postRow 1 10, postRow 1 11, postRow 1 11]
    let pair : Int → Value × Value := fun post => (labelled 1 "User" [] none, labelled post "Post" [] none)
    let pairs := [pair 10, pair 11, pair 11]
    let isInt : Value → Prop := fun k => ∃ n, k = .int n
    Comparable isInt ∧ (∀ k, isInt k → k.isKey = true) ∧ OneRow parents ∧
      (∀ p ∈ parents, p.HasRelations) ∧ (∀ p ∈ parents, ∀ k, p.identity? = some k → isInt k) ∧
      (rows (startedParents "posts" true parents)).bind
        (Registry.empty.pairs (.text "user") (.text "post")) = .ok pairs ∧
      (∀ pair ∈ pairs, ∀ k, pair.1.identity? = some k → isInt k) ∧
      ∃ final, (attachRelated Registry.empty rows (.text "posts") (.text "user") (.text "post")
          true).outcome parents = (.ok (), final) ∧ final.length = parents.length ∧
        HoldRelated "posts" true parents pairs final := by
  intro parents rows pair pairs isInt
  have isInt_of : ∀ {id label relations mark k}, (labelled id label relations mark).identity? = some k →
      isInt k := fun own => ⟨_, (Except.ok.inj (identity?_eq_some.mp own).1).symm⟩
  have each : ∀ p ∈ parents, ∃ id mark, p = labelled id "User" [] mark := by
    simp only [parents, List.forall_mem_cons]
    exact ⟨⟨_, _, rfl⟩, ⟨_, _, rfl⟩, ⟨_, _, rfl⟩, fun _ member => (List.not_mem_nil member).elim⟩
  have one : OneRow parents := .of_rowless fun v member => by
    obtain ⟨i, m, rfl⟩ := each v member
    rfl
  have keys : ∀ k, isInt k → k.isKey = true := by
    rintro k ⟨n, rfl⟩
    rfl
  have holders : ∀ p ∈ parents, p.HasRelations := by
    intro p member
    obtain ⟨i, m, rfl⟩ := each p member
    rfl
  have known : ∀ p ∈ parents, ∀ k, p.identity? = some k → isInt k := by
    intro p member k own
    obtain ⟨i, m, rfl⟩ := each p member
    exact isInt_of own
  have read : (rows (startedParents "posts" true parents)).bind
      (Registry.empty.pairs (.text "user") (.text "post")) = .ok pairs := by
    with_unfolding_all rfl
  have related : ∀ pair ∈ pairs, ∀ k, pair.1.identity? = some k → isInt k := by
    simp only [pairs, pair, List.forall_mem_cons]
    exact ⟨fun _ => isInt_of, fun _ => isInt_of, fun _ => isInt_of, fun _ member =>
      (List.not_mem_nil member).elim⟩
  exact ⟨comparable_ints, keys, one, holders, known, read, related,
    attachRelated_attaches comparable_ints keys one holders known read related⟩

/-- Of two parents with one identity the first one is left with nothing, although there is a post of that
identity. -/
theorem attachRelated_repeated :
    let rows : List Value → Result (List Value) := fun _ => .ok [postRow 1 10]
    (attachRelated Registry.empty rows (.text "posts") (.text "user") (.text "post") true).outcome
        [labelled 1 "User" [] (some 0), labelled 1 "User" [] (some 1)] =
      (.ok (), [labelled 1 "User" [(.text "posts", .ofList [])] (some 0),
        labelled 1 "User" [(.text "posts", .ofList [labelled 10 "Post" [] none])] (some 1)]) := by
  with_unfolding_all rfl

end

end GraphQuery
