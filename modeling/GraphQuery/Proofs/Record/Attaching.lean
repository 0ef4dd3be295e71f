import GraphQuery.Proofs.Outcome
import GraphQuery.Proofs.Record.Slots

/-! # What attaching related records does

Attaching goes through the parents, giving each one with an identity its initial relation, and then
through the pairs, each of which puts its record into the slot of one parent. Both are folds over what
the slots hold:

* `outcome_startParents` : the first phase, as a fold over the parents with an identity.
* `outcome_attachPairs` : the second phase, as a fold over the records that find a parent.
* `foldl_deposit_slot` : what a slot holds in the end depends only on the records put into it. -/

namespace GraphQuery

/-! ### Identities -/

/-- The identity of a value, if it has one. -/
def Value.identity? (v : Value) : Option Value := (identityOf v).toOption.filter fun k => !k.isNull

theorem identity?_eq_some {v k : Value} :
    v.identity? = some k ↔ identityOf v = .ok k ∧ k.isNull = false := by
  unfold Value.identity?
  rw [Option.filter_eq_some_iff, Bool.not_eq_true']
  refine and_congr_left fun _ => ⟨Result.of_toOption, fun found => ?_⟩
  rw [found]
  rfl

theorem identity?_eq_none {v k : Value} (found : identityOf v = .ok k) (null : k.isNull = true) :
    v.identity? = none := by
  unfold Value.identity?
  rw [found]
  show Option.filter _ (some k) = none
  rw [Option.filter_some, null]
  rfl

/-- Something can be attached to a parent, if it has an identity. -/
def Value.Attachable (v : Value) : Prop :=
  ∃ k, identityOf v = .ok k ∧ (k.isNull = false → k.isKey = true ∧ v.HasRelations)

theorem Value.Attachable.hasRelations {v k : Value} (fit : v.Attachable) (own : v.identity? = some k) :
    v.HasRelations := by
  obtain ⟨l, found, rest⟩ := fit
  obtain ⟨own, present⟩ := identity?_eq_some.mp own
  obtain rfl := Except.ok.inj (found.symm.trans own)
  exact (rest present).2

theorem needKey_eq_ok {k : Value} : Result.ofFailure k.needKey = .ok () ↔ k.isKey = true := by
  unfold Value.needKey
  split
  case isTrue key => exact iff_of_true rfl key
  case isFalse other => exact iff_of_false (fun h => by cases h) other

/-! ### The first phase -/

/-- The identities of parents, with the places of the parents. -/
def identified (parents : List (Value × Nat)) : ParentIndex :=
  parents.filterMap fun p => p.1.identity?.map fun k => (k, p.2)

/-- An index in which the places of some more identities are noted. -/
def indexed (index heads : ParentIndex) : ParentIndex :=
  heads.foldl (fun index h => notePlace h.1 h.2 index) index

/-- The slot of the parent at a place. -/
def slotAt (parents : List Value) (place : Nat) : RelationSlot := ((parents[place]?).getD .null).slot place

/-- What slots hold when some more parents have their initial relation. -/
def opened (parents : List Value) (many : Bool) (kept : Kept) (heads : ParentIndex) : Kept :=
  heads.foldl (fun kept h => Function.update kept (slotAt parents h.2) (some (initialRelation many))) kept

section

variable {parents : List Value} {name : String} {many : Bool} {kept : Kept}

theorem slotAt_eq {place : Nat} {p : Value} (found : parents[place]? = some p) :
    slotAt parents place = p.slot place := by
  unfold slotAt
  rw [found, Option.getD_some]

theorem outcome_startParents_succ {place count : Nat} {index : ParentIndex} {p : Value}
    (found : parents[place]? = some p) :
    (startParents (.text name) many place (count + 1) index).outcome (attachedAt name kept parents) =
      (Exec.ofResult (identityOf p) >>= fun k =>
        if k.isNull then startParents (.text name) many (place + 1) count index
        else Exec.ofResult (Result.ofFailure k.needKey) >>= fun _ =>
          Exec.ofResult (setRelation (p.keeping name kept place) (.text name) (initialRelation many)) >>=
            fun started => set (setParent place started (attachedAt name kept parents)) >>= fun _ =>
              startParents (.text name) many (place + 1) count (notePlace k place index)).outcome
        (attachedAt name kept parents) := by
  rw [startParents, Exec.outcome_bind_ok (x := get) (a := attachedAt name kept parents) rfl,
    getElem?_attachedAt, found, Option.map_some, Option.getD_some]
  dsimp only
  rw [identityOf_keeping]

theorem outcome_startParents_null {place count : Nat} {index : ParentIndex} {p k : Value}
    (found : parents[place]? = some p) (own : identityOf p = .ok k) (null : k.isNull = true) :
    (startParents (.text name) many place (count + 1) index).outcome (attachedAt name kept parents) =
      (startParents (.text name) many (place + 1) count index).outcome (attachedAt name kept parents) := by
  rw [outcome_startParents_succ found, own,
    Exec.outcome_bind_ok (Exec.outcome_ofResult (.ok k) _), if_pos null]

theorem outcome_startParents_noted (one : OneRow parents) {place count : Nat} {index : ParentIndex}
    {p k : Value} (found : parents[place]? = some p) (own : p.identity? = some k)
    (key : k.isKey = true) (holds : p.HasRelations) :
    (startParents (.text name) many place (count + 1) index).outcome (attachedAt name kept parents) =
      (startParents (.text name) many (place + 1) count (notePlace k place index)).outcome
        (attachedAt name (Function.update kept (slotAt parents place) (some (initialRelation many)))
          parents) := by
  obtain ⟨own, present⟩ := identity?_eq_some.mp own
  have holds' : (p.keeping name kept place).HasRelations := by
    rw [hasRelations_keeping]
    exact holds
  rw [outcome_startParents_succ found, own, Exec.outcome_bind_ok (Exec.outcome_ofResult (.ok k) _),
    if_neg (by rw [present]; exact Bool.false_ne_true),
    Exec.outcome_bind_ok (a := ()) (by rw [needKey_eq_ok.mpr key]; rfl),
    setRelation_of_hasRelations holds', keeping_attached,
    Exec.outcome_bind_ok (Exec.outcome_ofResult (.ok _) _),
    setParent_attachedAt one found holds, ← slotAt_eq found]
  rfl

theorem drop_eq_cons {place count : Nat} (size : place + (count + 1) = parents.length) :
    ∃ p, parents[place]? = some p ∧ parents.drop place = p :: parents.drop (place + 1) := by
  have inside : place < parents.length := by omega
  exact ⟨parents[place], List.getElem?_eq_getElem inside, List.drop_eq_getElem_cons inside⟩

/-- Every parent with an identity gets its initial relation and a place in the index. -/
theorem outcome_startParents (one : OneRow parents) (fit : ∀ p ∈ parents, p.Attachable) :
    ∀ {place count : Nat} {index : ParentIndex} {kept : Kept}, place + count = parents.length →
    (startParents (.text name) many place count index).outcome (attachedAt name kept parents) =
      (.ok (indexed index (identified ((parents.drop place).zipIdx place))),
        attachedAt name (opened parents many kept (identified ((parents.drop place).zipIdx place)))
          parents)
  | place, 0, index, kept, size => by
    rw [List.drop_of_length_le (by omega)]
    rfl
  | place, count + 1, index, kept, size => by
    obtain ⟨p, found, next⟩ := drop_eq_cons size
    obtain ⟨k, own, rest⟩ := fit p (List.mem_of_getElem? found)
    rw [next, List.zipIdx_cons, identified, List.filterMap_cons]
    cases null : k.isNull with
    | true =>
      rw [outcome_startParents_null found own null, outcome_startParents one fit (by omega),
        identity?_eq_none own null]
      rfl
    | false =>
      obtain ⟨key, holds⟩ := rest null
      have identity := identity?_eq_some.mpr ⟨own, null⟩
      rw [outcome_startParents_noted one found identity key holds,
        outcome_startParents one fit (by omega), identity]
      rfl

theorem attachable_of_startParents (one : OneRow parents) :
    ∀ {place count : Nat} {index index' : ParentIndex} {kept : Kept} {s : List Value},
    place + count = parents.length →
    (startParents (.text name) many place count index).outcome (attachedAt name kept parents) =
      (.ok index', s) → ∀ p ∈ parents.drop place, p.Attachable
  | place, 0, index, index', kept, s, size, _ => by
    rw [List.drop_of_length_le (by omega)]
    exact fun p member => (List.not_mem_nil member).elim
  | place, count + 1, index, index', kept, s, size, ended => by
    obtain ⟨p, found, next⟩ := drop_eq_cons size
    have went := ended
    rw [outcome_startParents_succ found] at went
    obtain ⟨k, own, went⟩ := Exec.ofResult_bind_eq_ok went
    rw [next]
    refine List.forall_mem_cons.mpr ?_
    cases null : k.isNull with
    | true =>
      rw [outcome_startParents_null found own null] at ended
      refine ⟨⟨k, own, fun present => ?_⟩, attachable_of_startParents one (by omega) ended⟩
      rw [null] at present
      cases present
    | false =>
      rw [null, if_neg Bool.false_ne_true] at went
      obtain ⟨⟨⟩, key, went⟩ := Exec.ofResult_bind_eq_ok went
      obtain ⟨started, set, -⟩ := Exec.ofResult_bind_eq_ok went
      have holds : p.HasRelations := by
        rw [← hasRelations_keeping name kept place p]
        exact hasRelations_of_setRelation ((identityOf_keeping ..).trans own) null set
      have isKey := needKey_eq_ok.mp key
      rw [outcome_startParents_noted one found (identity?_eq_some.mpr ⟨own, null⟩) isKey holds] at ended
      exact ⟨⟨k, own, fun _ => ⟨isKey, holds⟩⟩, attachable_of_startParents one (by omega) ended⟩

/-! ### The second phase -/

/-- Whether two values have one identity. -/
def sameIdentity (v w : Value) : Bool :=
  match identityOf v, identityOf w with
  | .ok i, .ok j => i.same j
  | _, _ => false

/-- The members of what a slot holds, if that is a list. -/
def listed : Value → List Value
  | .list xs _ => xs
  | _ => []

/-- A list of records with one more, unless one has its identity. -/
def withRelated (xs : List Value) (v : Value) : List Value :=
  if xs.any (sameIdentity · v) then xs else xs ++ [v]

/-- What a slot holds after one more record. -/
def nextHeld (many : Bool) (held v : Value) : Value :=
  if many then .ofList (withRelated (listed held) v) else v

/-- The place of the parent that has the identity of a value. -/
def ownerOf? (index : ParentIndex) (v : Value) : Option Nat :=
  (identityOf v).toOption.bind fun k => (index.find? fun e => k.same e.1).map Prod.snd

/-- The record of a pair, with the place of the parent that it goes to. -/
def depositOf (index : ParentIndex) (pair : Value × Value) : Option (Nat × Value) :=
  if pair.2.isNull then none else (ownerOf? index pair.1).map fun place => (place, pair.2)

/-- What the slots hold after one more record. -/
def deposit (parents : List Value) (many : Bool) (kept : Kept) (d : Nat × Value) : Kept :=
  Function.update kept (slotAt parents d.1)
    (some (nextHeld many ((kept (slotAt parents d.1)).getD .null) d.2))

/-- Both sides of a pair can be asked for their identity, and the parent can be looked up. -/
def IsIdentified (pair : Value × Value) : Prop :=
  (∃ k, identityOf pair.1 = .ok k ∧ k.isKey = true) ∧ ∃ k, identityOf pair.2 = .ok k

/-- Every parent of the index has got its initial relation, and has no records but such with an
identity. -/
def IsOpen (parents : List Value) (many : Bool) (index : ParentIndex) (kept : Kept) : Prop :=
  ∀ e ∈ index, ∃ held, kept (slotAt parents e.2) = some held ∧
    (many = true → ∀ v ∈ listed held, ∃ k, identityOf v = .ok k)

theorem holdsIdentity_eq {v k : Value} (own : identityOf v = .ok k) : ∀ {xs : List Value},
    (∀ x ∈ xs, ∃ l, identityOf x = .ok l) → holdsIdentity k xs = .ok (xs.any (sameIdentity · v))
  | [], _ => rfl
  | x :: xs, identified => by
    obtain ⟨⟨l, first⟩, others⟩ := List.forall_mem_cons.mp identified
    have same : sameIdentity x v = l.same k := by
      unfold sameIdentity
      rw [first, own]
    rw [holdsIdentity, first, List.any_cons, same]
    show (if l.same k = true then .ok true else holdsIdentity k xs) = _
    cases l.same k with
    | true => rfl
    | false => exact holdsIdentity_eq own others

theorem addRelated_eq {xs : List Value} {v k : Value} (own : identityOf v = .ok k)
    (identified : ∀ x ∈ xs, ∃ l, identityOf x = .ok l) : addRelated xs v = .ok (withRelated xs v) := by
  unfold addRelated
  rw [own]
  show holdsIdentity k xs >>= _ = _
  rw [holdsIdentity_eq own identified]
  rfl

theorem mem_withRelated {xs : List Value} {v w : Value} (member : w ∈ withRelated xs v) :
    w ∈ xs ∨ w = v := by
  unfold withRelated at member
  split at member
  · exact Or.inl member
  · simpa using member

theorem nextRelation_attached {p held v k : Value} (holds : p.HasRelations) (own : identityOf v = .ok k)
    (identified : many = true → ∀ x ∈ listed held, ∃ l, identityOf x = .ok l) :
    nextRelation (p.attached name held) (.text name) v many = .ok (nextHeld many held v) := by
  unfold nextRelation nextHeld
  cases many with
  | false => rfl
  | true =>
    have current : relatedList (p.attached name held) (.text name) = listed held := by
      unfold relatedList
      rw [getRelation_attached holds]
      rfl
    rw [current, addRelated_eq own (identified rfl)]
    rfl

theorem IsOpen.deposit {index : ParentIndex} (opened : IsOpen parents many index kept) {d : Nat × Value}
    {k : Value} (own : identityOf d.2 = .ok k) :
    IsOpen parents many index (GraphQuery.deposit parents many kept d) := by
  intro e member
  obtain ⟨held, found, identified⟩ := opened e member
  unfold GraphQuery.deposit
  by_cases same : slotAt parents e.2 = slotAt parents d.1
  · rw [same, Function.update_self]
    refine ⟨_, rfl, fun several v inside => ?_⟩
    rw [← same, found, Option.getD_some] at inside
    unfold nextHeld at inside
    rw [if_pos several] at inside
    rcases mem_withRelated inside with old | rfl
    · exact identified several v old
    · exact ⟨k, own⟩
  · rw [Function.update_of_ne same]
    exact ⟨held, found, identified⟩

section

variable {index : ParentIndex} {pair : Value × Value} {rest : List (Value × Value)}

theorem ownerOf?_eq {v k : Value} (own : identityOf v = .ok k) :
    ownerOf? index v = (index.find? fun e => k.same e.1).map Prod.snd := by
  unfold ownerOf?
  rw [own]
  rfl

theorem snd_of_depositOf {d : Nat × Value} (found : depositOf index pair = some d) : d.2 = pair.2 := by
  unfold depositOf at found
  split at found
  · cases found
  · obtain ⟨place, -, rfl⟩ := Option.map_eq_some_iff.mp found
    rfl

/-- A record that finds a parent is put into the slot of that parent; another one goes nowhere. -/
theorem outcome_attachPairs_cons (one : OneRow parents)
    (sound : ∀ e ∈ index, ∃ p, parents[e.2]? = some p ∧ p.HasRelations)
    (identified : IsIdentified pair) (opened : IsOpen parents many index kept) :
    (attachPairs (.text name) many index (pair :: rest)).outcome (attachedAt name kept parents) =
      (attachPairs (.text name) many index rest).outcome
        (attachedAt name ((depositOf index pair).elim kept (deposit parents many kept)) parents) := by
  obtain ⟨parent, related⟩ := pair
  obtain ⟨⟨k, own, key⟩, l, other⟩ := identified
  have looked : depositOf index (parent, related) = if related.isNull then none else
      ((index.find? fun e => k.same e.1).map Prod.snd).map fun place => (place, related) := by
    rw [← ownerOf?_eq own]
    rfl
  replace own : identityOf parent = .ok k := own
  rw [attachPairs, own, Exec.outcome_bind_ok (Exec.outcome_ofResult (.ok k) _),
    Exec.outcome_bind_ok (a := ()) (by rw [needKey_eq_ok.mpr key]; rfl), looked]
  split
  case h_1 nowhere =>
    rw [nowhere, Option.map_none, Option.map_none, ite_self]
    rfl
  case h_2 => rfl
  case h_3 v _ _ k' place found present =>
    have given : v.isNull = false := by
      cases v <;> first | rfl | exact (present rfl).elim
    obtain ⟨p, there, holds⟩ := sound _ (List.mem_of_find?_eq_some found)
    obtain ⟨held, open', identified⟩ := opened _ (List.mem_of_find?_eq_some found)
    have owner : (attachedAt name kept parents)[place]? = some (p.attached name held) := by
      rw [getElem?_attachedAt, there, Option.map_some, keeping_some ((slotAt_eq there).symm ▸ open')]
    have owned : (p.attached name held).HasRelations := by
      unfold Value.attached
      rw [hasRelations_withRelations]
      exact holds
    rw [given, if_neg Bool.false_ne_true, found, Exec.outcome_bind_ok (x := get) rfl]
    dsimp only
    rw [owner, Option.getD_some, nextRelation_attached holds other identified,
      Exec.outcome_bind_ok (Exec.outcome_ofResult (.ok _) _), setRelation_of_hasRelations owned,
      attached_attached, Exec.outcome_bind_ok (Exec.outcome_ofResult (.ok _) _),
      setParent_attachedAt one there holds, ← slotAt_eq there]
    show _ = (attachPairs _ many index rest).outcome
      (attachedAt name (deposit parents many kept (place, v)) parents)
    unfold deposit
    rw [open', Option.getD_some]
    rfl

/-- Every record that finds a parent is put into the slot of that parent, in the order of the pairs. -/
theorem outcome_attachPairs (one : OneRow parents)
    (sound : ∀ e ∈ index, ∃ p, parents[e.2]? = some p ∧ p.HasRelations) :
    ∀ {pairs : List (Value × Value)} {kept : Kept}, (∀ pair ∈ pairs, IsIdentified pair) →
    IsOpen parents many index kept →
    (attachPairs (.text name) many index pairs).outcome (attachedAt name kept parents) =
      (.ok (), attachedAt name
        ((pairs.filterMap (depositOf index)).foldl (deposit parents many) kept) parents)
  | [], _, _, _ => rfl
  | pair :: pairs, kept, identified, opened => by
    obtain ⟨first, others⟩ := List.forall_mem_cons.mp identified
    rw [outcome_attachPairs_cons one sound first opened, List.filterMap_cons]
    cases found : depositOf index pair with
    | none => exact outcome_attachPairs one sound others opened
    | some d =>
      obtain ⟨k, own⟩ := first.2
      have same : d.2 = pair.2 := snd_of_depositOf found
      exact outcome_attachPairs one sound others (opened.deposit (same ▸ own))

theorem isIdentified_of_attachPairs (one : OneRow parents)
    (sound : ∀ e ∈ index, ∃ p, parents[e.2]? = some p ∧ p.HasRelations) :
    ∀ {pairs : List (Value × Value)} {kept : Kept} {s : List Value},
    (∀ pair ∈ pairs, (∃ k, identityOf pair.1 = .ok k) ∧ ∃ k, identityOf pair.2 = .ok k) →
    IsOpen parents many index kept →
    (attachPairs (.text name) many index pairs).outcome (attachedAt name kept parents) = (.ok (), s) →
    ∀ pair ∈ pairs, IsIdentified pair
  | [], _, _, _, _, _ => fun _ member => (List.not_mem_nil member).elim
  | pair :: pairs, kept, s, identified, opened, ended => by
    obtain ⟨⟨⟨k, own⟩, related⟩, others⟩ := List.forall_mem_cons.mp identified
    have went := ended
    rw [attachPairs] at went
    obtain ⟨k', own', went⟩ := Exec.ofResult_bind_eq_ok went
    obtain ⟨⟨⟩, key, -⟩ := Exec.ofResult_bind_eq_ok went
    have first : IsIdentified pair := ⟨⟨k', own', needKey_eq_ok.mp key⟩, related⟩
    refine List.forall_mem_cons.mpr ⟨first, ?_⟩
    rw [outcome_attachPairs_cons one sound first opened] at ended
    cases found : depositOf index pair with
    | none =>
      rw [found] at ended
      exact isIdentified_of_attachPairs one sound others opened ended
    | some d =>
      rw [found] at ended
      obtain ⟨l, other⟩ := related
      have same : d.2 = pair.2 := snd_of_depositOf found
      exact isIdentified_of_attachPairs one sound others (opened.deposit (same ▸ other)) ended

end

/-! ### Both phases -/

/-- The index of all parents. -/
def parentIndex (parents : List Value) : ParentIndex := indexed [] (identified parents.zipIdx)

/-- What the slots hold when every parent with an identity has its initial relation. -/
def openedKept (parents : List Value) (many : Bool) : Kept :=
  opened parents many (fun _ => none) (identified parents.zipIdx)

/-- The parents when every one with an identity has its initial relation. -/
def startedParents (name : String) (many : Bool) (parents : List Value) : List Value :=
  attachedAt name (openedKept parents many) parents

/-- What the slots hold in the end. -/
def attachedKept (parents : List Value) (many : Bool) (pairs : List (Value × Value)) : Kept :=
  (pairs.filterMap (depositOf (parentIndex parents))).foldl (deposit parents many)
    (openedKept parents many)

/-- Only slots of parents with an identity hold something. -/
def KeepsWithin (parents : List Value) (kept : Kept) : Prop :=
  ∀ slot, (∀ h ∈ identified parents.zipIdx, slotAt parents h.2 ≠ slot) → kept slot = none

theorem mem_identified {e : Value × Nat} : e ∈ identified parents.zipIdx ↔
    ∃ p, parents[e.2]? = some p ∧ p.identity? = some e.1 := by
  unfold identified
  rw [List.mem_filterMap]
  constructor
  · rintro ⟨⟨p, place⟩, member, found⟩
    obtain ⟨k, own, rfl⟩ := Option.map_eq_some_iff.mp found
    exact ⟨p, List.mk_mem_zipIdx_iff_getElem?.mp member, own⟩
  · rintro ⟨p, there, own⟩
    exact ⟨(p, e.2), List.mk_mem_zipIdx_iff_getElem?.mpr there, by rw [own]; rfl⟩

theorem mem_notePlace {k : Value} {place : Nat} {e : Value × Nat} : ∀ {index : ParentIndex},
    e ∈ notePlace k place index → e.2 = place ∨ e ∈ index
  | [], member => by
    obtain rfl := List.mem_singleton.mp member
    exact Or.inl rfl
  | (l, other) :: index, member => by
    rw [notePlace] at member
    split at member
    · rcases List.mem_cons.mp member with rfl | old
      · exact Or.inl rfl
      · exact Or.inr (List.mem_cons_of_mem _ old)
    · rcases List.mem_cons.mp member with rfl | later
      · exact Or.inr List.mem_cons_self
      · exact (mem_notePlace later).imp_right (List.mem_cons_of_mem _)

theorem mem_indexed {e : Value × Nat} : ∀ (heads : ParentIndex) {index : ParentIndex},
    e ∈ indexed index heads → (∃ h ∈ heads, h.2 = e.2) ∨ e ∈ index
  | [], _, member => Or.inr member
  | h :: heads, index, member => by
    rcases mem_indexed heads member with ⟨h', later, same⟩ | member
    · exact Or.inl ⟨h', List.mem_cons_of_mem _ later, same⟩
    · refine (mem_notePlace member).imp_left fun same => ⟨h, List.mem_cons_self, same.symm⟩

theorem mem_parentIndex {e : Value × Nat} (member : e ∈ parentIndex parents) :
    ∃ h ∈ identified parents.zipIdx, h.2 = e.2 := (mem_indexed _ member).resolve_right List.not_mem_nil

theorem sound_parentIndex (fit : ∀ p ∈ parents, p.Attachable) :
    ∀ e ∈ parentIndex parents, ∃ p, parents[e.2]? = some p ∧ p.HasRelations := by
  intro e member
  obtain ⟨h, head, same⟩ := mem_parentIndex member
  obtain ⟨p, there, own⟩ := mem_identified.mp head
  exact ⟨p, same ▸ there, (fit p (List.mem_of_getElem? there)).hasRelations own⟩

theorem opened_of_not_mem {slot : RelationSlot} : ∀ (heads : ParentIndex) {kept : Kept},
    (∀ h ∈ heads, slotAt parents h.2 ≠ slot) → opened parents many kept heads slot = kept slot
  | [], _, _ => rfl
  | h :: heads, kept, apart => by
    obtain ⟨first, others⟩ := List.forall_mem_cons.mp apart
    exact (opened_of_not_mem heads others).trans (Function.update_of_ne first.symm ..)

theorem opened_of_mem {slot : RelationSlot} : ∀ (heads : ParentIndex) {kept : Kept},
    (∃ h ∈ heads, slotAt parents h.2 = slot) →
    opened parents many kept heads slot = some (initialRelation many)
  | h :: heads, kept, ⟨h', member, same⟩ => by
    by_cases later : ∃ h ∈ heads, slotAt parents h.2 = slot
    · exact opened_of_mem heads later
    · obtain rfl : h' = h :=
        (List.mem_cons.mp member).resolve_right fun inside => later ⟨h', inside, same⟩
      refine (opened_of_not_mem heads fun h member same => later ⟨h, member, same⟩).trans ?_
      show Function.update kept (slotAt parents h'.2) _ slot = _
      rw [same, Function.update_self]

/-- The first phase forgets what slots of parents with an identity held. -/
theorem opened_eq (within : KeepsWithin parents kept) :
    opened parents many kept (identified parents.zipIdx) = openedKept parents many := by
  funext slot
  by_cases head : ∃ h ∈ identified parents.zipIdx, slotAt parents h.2 = slot
  · rw [openedKept, opened_of_mem _ head, opened_of_mem _ head]
  · have apart : ∀ h ∈ identified parents.zipIdx, slotAt parents h.2 ≠ slot :=
      fun h member same => head ⟨h, member, same⟩
    rw [openedKept, opened_of_not_mem _ apart, opened_of_not_mem _ apart, within slot apart]

theorem openedKept_of_mem {e : Value × Nat} (member : e ∈ identified parents.zipIdx) :
    openedKept parents many (slotAt parents e.2) = some (initialRelation many) :=
  opened_of_mem _ ⟨e, member, rfl⟩

theorem isOpen_openedKept : IsOpen parents many (parentIndex parents) (openedKept parents many) := by
  intro e member
  obtain ⟨h, head, same⟩ := mem_parentIndex member
  refine ⟨_, same ▸ openedKept_of_mem head, fun several v inside => ?_⟩
  unfold initialRelation at inside
  rw [if_pos several] at inside
  exact (List.not_mem_nil inside).elim

/-- What a slot holds after some more records depends on those that are put into it. -/
theorem foldl_deposit_slot (slot : RelationSlot) : ∀ (ds : List (Nat × Value)) (kept : Kept),
    ds.foldl (deposit parents many) kept slot =
      ((ds.filter fun d => slotAt parents d.1 = slot).map Prod.snd).foldl
        (fun held v => some (nextHeld many (held.getD .null) v)) (kept slot)
  | [], _ => rfl
  | d :: ds, kept => by
    rw [List.foldl_cons, foldl_deposit_slot slot ds, List.filter_cons]
    unfold deposit
    by_cases here : slotAt parents d.1 = slot
    · rw [if_pos (decide_eq_true here), List.map_cons, List.foldl_cons, here, Function.update_self]
    · rw [if_neg (by rw [decide_eq_false here]; exact Bool.false_ne_true),
        Function.update_of_ne (Ne.symm here)]

theorem mem_of_depositOf {index : ParentIndex} {pair : Value × Value} {d : Nat × Value}
    (found : depositOf index pair = some d) : ∃ e ∈ index, e.2 = d.1 := by
  unfold depositOf at found
  split at found
  · cases found
  · obtain ⟨place, owner, rfl⟩ := Option.map_eq_some_iff.mp found
    obtain ⟨k, -, owner⟩ := Option.bind_eq_some_iff.mp owner
    obtain ⟨e, looked, rfl⟩ := Option.map_eq_some_iff.mp owner
    exact ⟨e, List.mem_of_find?_eq_some looked, rfl⟩

/-- Nothing is put anywhere else than into slots of parents with an identity. -/
theorem attachedKept_within (pairs : List (Value × Value)) :
    KeepsWithin parents (attachedKept parents many pairs) := by
  intro slot apart
  have nowhere : (pairs.filterMap (depositOf (parentIndex parents))).filter
      (fun d => slotAt parents d.1 = slot) = [] := by
    rw [List.filter_eq_nil_iff]
    intro d member
    obtain ⟨pair, -, found⟩ := List.mem_filterMap.mp member
    obtain ⟨e, inside, same⟩ := mem_of_depositOf found
    obtain ⟨h, head, place⟩ := mem_parentIndex inside
    rw [decide_eq_true_iff, ← same, ← place]
    exact apart h head
  rw [attachedKept, foldl_deposit_slot, nowhere]
  exact opened_of_not_mem _ apart

variable {r : Registry} {rows : List Value → Result (List Value)} {parentColumn relatedColumn : Value}
  {pairs : List (Value × Value)}

theorem outcome_startParents_all (one : OneRow parents) (fit : ∀ p ∈ parents, p.Attachable)
    (within : KeepsWithin parents kept) :
    (startParents (.text name) many 0 parents.length []).outcome (attachedAt name kept parents) =
      (.ok (parentIndex parents), startedParents name many parents) := by
  rw [outcome_startParents one fit (Nat.zero_add _), List.drop_zero, opened_eq within]
  rfl

/-- Attaching succeeds if something can be attached to all parents with an identity and all pairs can be
read. Whatever was attached under the name before is forgotten. -/
theorem outcome_attachRelated_over (one : OneRow parents) (fit : ∀ p ∈ parents, p.Attachable)
    (within : KeepsWithin parents kept)
    (read : (rows (startedParents name many parents)).bind (r.pairs parentColumn relatedColumn) = .ok pairs)
    (identified : ∀ pair ∈ pairs, IsIdentified pair) :
    (attachRelated r rows (.text name) parentColumn relatedColumn many).outcome
        (attachedAt name kept parents) =
      (.ok (), attachedAt name (attachedKept parents many pairs) parents) := by
  rw [attachRelated, Exec.outcome_bind_ok (x := get) (a := attachedAt name kept parents) rfl,
    length_attachedAt, Exec.outcome_bind_ok (outcome_startParents_all one fit within),
    Exec.outcome_bind_ok (x := get) rfl]
  show (Exec.ofResult ((rows (startedParents name many parents)).bind _) >>= _).outcome _ = _
  rw [read, Exec.outcome_bind_ok (Exec.outcome_ofResult (.ok pairs) _)]
  exact outcome_attachPairs one (sound_parentIndex fit) identified isOpen_openedKept

theorem outcome_attachRelated (one : OneRow parents) (fit : ∀ p ∈ parents, p.Attachable)
    (read : (rows (startedParents name many parents)).bind (r.pairs parentColumn relatedColumn) = .ok pairs)
    (identified : ∀ pair ∈ pairs, IsIdentified pair) :
    (attachRelated r rows (.text name) parentColumn relatedColumn many).outcome parents =
      (.ok (), attachedAt name (attachedKept parents many pairs) parents) := by
  have ended := outcome_attachRelated_over one fit (fun _ _ => rfl) read identified
  rwa [attachedAt_none] at ended

/-! ### The pairs of rows -/

theorem exists_identityOf_toRecord {v w : Value} (converted : toRecord v = .ok w) :
    ∃ k, identityOf w = .ok k := by
  cases v with
  | node n =>
    obtain ⟨n', -, rfl⟩ := Result.map_eq_ok converted
    exact ⟨_, rfl⟩
  | link l =>
    obtain ⟨l', -, rfl⟩ := Result.map_eq_ok converted
    exact ⟨_, rfl⟩
  | path nodes links =>
    obtain ⟨nodes', -, converted⟩ := Result.bind_eq_ok converted
    obtain ⟨links', -, converted⟩ := Result.bind_eq_ok converted
    cases converted
    exact ⟨_, rfl⟩
  | list xs m | tuple xs | map es m =>
    obtain ⟨members, -, converted⟩ := Result.bind_eq_ok converted
    cases converted
    exact ⟨_, rfl⟩
  | _ =>
    cases converted
    exact ⟨_, rfl⟩

theorem exists_identityOf_hydrate {chosen w x : Value} (own : ∃ k, identityOf w = .ok k)
    (hydrated : r.hydrate chosen w = .ok x) : ∃ k, identityOf x = .ok k := by
  cases w with
  | record n =>
    obtain ⟨class?, -, as⟩ := Result.bind_eq_ok hydrated
    cases class? with
    | none =>
      cases as
      exact ⟨_, rfl⟩
    | some c =>
      obtain ⟨e, -, rfl⟩ := Result.map_eq_ok as
      exact ⟨_, rfl⟩
  | _ =>
    cases hydrated
    exact own

/-- The pair of a row, where it has one. -/
def Registry.pairOf? (r : Registry) (parentColumn relatedColumn row : Value) : Option (Value × Value) :=
  (r.pairOfRow parentColumn relatedColumn row).toOption.bind id

theorem pairOf?_eq {row : Value} {p : Option (Value × Value)}
    (found : r.pairOfRow parentColumn relatedColumn row = .ok p) :
    r.pairOf? parentColumn relatedColumn row = p := by
  unfold Registry.pairOf?
  rw [found]
  cases p <;> rfl

theorem pairs_eq_ok_iff : ∀ {rows : List Value} {pairs : List (Value × Value)},
    r.pairs parentColumn relatedColumn rows = .ok pairs ↔
      (∀ row ∈ rows, ∃ p, r.pairOfRow parentColumn relatedColumn row = .ok p) ∧
        pairs = rows.filterMap (r.pairOf? parentColumn relatedColumn)
  | [], pairs => by
    refine ⟨fun found => ⟨fun row member => (List.not_mem_nil member).elim, ?_⟩, fun found => ?_⟩
    · exact (Except.ok.inj found).symm
    · rw [found.2]
      rfl
  | row :: rows, pairs => by
    rw [List.forall_mem_cons, List.filterMap_cons]
    constructor
    · intro found
      obtain ⟨p, first, found⟩ := Result.bind_eq_ok found
      obtain ⟨others, rest, found⟩ := Result.bind_eq_ok found
      obtain ⟨readable, rfl⟩ := pairs_eq_ok_iff.mp rest
      obtain rfl := Except.ok.inj found
      refine ⟨⟨⟨p, first⟩, readable⟩, ?_⟩
      rw [pairOf?_eq first]
      cases p <;> rfl
    · rintro ⟨⟨⟨p, first⟩, readable⟩, rfl⟩
      rw [Registry.pairs, first, pairs_eq_ok_iff.mpr ⟨readable, rfl⟩, pairOf?_eq first]
      cases p <;> rfl

theorem identities_of_pairOfRow {row : Value} {pair : Value × Value}
    (found : r.pairOfRow parentColumn relatedColumn row = .ok (some pair)) :
    (∃ k, identityOf pair.1 = .ok k) ∧ ∃ k, identityOf pair.2 = .ok k := by
  obtain ⟨inside, -, found⟩ := Result.bind_eq_ok found
  split at found
  · cases found
  · obtain ⟨v, -, found⟩ := Result.bind_eq_ok found
    obtain ⟨w, converted, found⟩ := Result.bind_eq_ok found
    obtain ⟨parent, hydrated, found⟩ := Result.bind_eq_ok found
    obtain ⟨entries, -, found⟩ := Result.bind_eq_ok found
    obtain ⟨⟨⟩, -, found⟩ := Result.bind_eq_ok found
    have own := exists_identityOf_hydrate (exists_identityOf_toRecord converted) hydrated
    split at found
    · cases found
      exact ⟨own, _, rfl⟩
    · obtain ⟨x, converted', found⟩ := Result.bind_eq_ok found
      obtain ⟨y, hydrated', found⟩ := Result.bind_eq_ok found
      cases found
      exact ⟨own, exists_identityOf_hydrate (exists_identityOf_toRecord converted') hydrated'⟩

theorem identities_of_pairs {rows : List Value}
    (found : r.pairs parentColumn relatedColumn rows = .ok pairs) :
    ∀ pair ∈ pairs, (∃ k, identityOf pair.1 = .ok k) ∧ ∃ k, identityOf pair.2 = .ok k := by
  obtain ⟨readable, rfl⟩ := pairs_eq_ok_iff.mp found
  intro pair member
  obtain ⟨row, inside, own⟩ := List.mem_filterMap.mp member
  obtain ⟨p, found⟩ := readable row inside
  rw [pairOf?_eq found] at own
  exact identities_of_pairOfRow (own ▸ found)

/-- When attaching succeeds, something can be attached to all parents with an identity, the rows can be
read, and the slots hold in the end what the pairs put into them. -/
theorem attachRelated_eq_ok (one : OneRow parents) {final : List Value}
    (ended : (attachRelated r rows (.text name) parentColumn relatedColumn many).outcome parents =
      (.ok (), final)) :
    (∀ p ∈ parents, p.Attachable) ∧ ∃ l pairs, rows (startedParents name many parents) = .ok l ∧
      r.pairs parentColumn relatedColumn l = .ok pairs ∧ (∀ pair ∈ pairs, IsIdentified pair) ∧
      final = attachedAt name (attachedKept parents many pairs) parents := by
  have whole : attachedAt name (fun _ => none) parents = parents := attachedAt_none name parents
  have went := ended
  rw [attachRelated, Exec.outcome_bind_ok (x := get) (a := parents) rfl, Exec.outcome_bind] at went
  have fit : ∀ p ∈ parents, p.Attachable := by
    split at went
    case h_2 => cases went
    case h_1 index s started =>
      rw [← whole, length_attachedAt] at started
      exact attachable_of_startParents one (Nat.zero_add _) started
  have started : (startParents (.text name) many 0 parents.length []).outcome parents =
      (.ok (parentIndex parents), startedParents name many parents) := by
    rw [← outcome_startParents_all one fit fun _ _ => rfl, whole]
  rw [started] at went
  dsimp only at went
  rw [Exec.outcome_bind_ok (x := get) rfl] at went
  obtain ⟨pairs, read, attached⟩ := Exec.ofResult_bind_eq_ok went
  obtain ⟨l, rows', read'⟩ := Result.bind_eq_ok read
  have identified := isIdentified_of_attachPairs one (sound_parentIndex fit) (identities_of_pairs read')
    isOpen_openedKept attached
  have known := ended.symm.trans (outcome_attachRelated one fit read identified)
  exact ⟨fit, l, pairs, rows', read', identified, (Prod.mk.inj known).2⟩

end

end GraphQuery
