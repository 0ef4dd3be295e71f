import GraphQuery.Proofs.Record.EagerRelations

/-! # Attaching again, and in another order

* `attachRelated_again` : attaching the same rows once more changes nothing.
* `attachRelated_reordered` : neither does another order of the rows, as long as the rows of each parent
  keep theirs.
* `pairwise_otherIdentities` : no parent gets two records with one identity.
* `attachRelated_laws` : all of this about one run, which changes nothing but what is attached under its
  name. -/

namespace GraphQuery

section

variable {parents : List Value} {name : String} {many : Bool} {r : Registry}
  {rows : List Value → Result (List Value)} {parentColumn relatedColumn : Value}

/-! ### Once more -/

/-- After a run another run over the same rows ends where it began. -/
theorem attachRelated_again (one : OneRow parents) {final : List Value}
    (ended : (attachRelated r rows (.text name) parentColumn relatedColumn many).outcome parents =
      (.ok (), final)) :
    (attachRelated r rows (.text name) parentColumn relatedColumn many).outcome final =
      (.ok (), final) := by
  obtain ⟨fit, l, pairs, rows', read, identified, rfl⟩ := attachRelated_eq_ok one ended
  refine outcome_attachRelated_over one fit (attachedKept_within pairs) ?_ identified
  rw [rows']
  exact read

/-! ### In another order -/

/-- Whether a row has a parent with an identity. -/
def Registry.isRowOf (r : Registry) (parentColumn relatedColumn k row : Value) : Bool :=
  (r.pairOf? parentColumn relatedColumn row).any fun pair => pair.1.identity?.any (·.same k)

/-- The same rows, and for each parent the rows with its identity in the same order. -/
structure Reordered (r : Registry) (parentColumn relatedColumn : Value)
    (parents first second : List Value) : Prop where
  perm : first.Perm second
  kept : ∀ p ∈ parents, ∀ k, p.identity? = some k →
    first.filter (r.isRowOf parentColumn relatedColumn k) =
      second.filter (r.isRowOf parentColumn relatedColumn k)

/-- No two of the parents that rows are attached to have one map of relations. -/
def SlotsApart (parents : List Value) : Prop :=
  ((parentIndex parents).map fun e => slotAt parents e.2).Nodup

theorem exists_owner_of_takenInto {slot : RelationSlot} {pair : Value × Value} {v : Value}
    (taken : takenInto parents slot pair = some v) : ∃ e ∈ parentIndex parents,
      slotAt parents e.2 = slot ∧ pair.1.identity?.any (·.same e.1) = true := by
  rw [takenInto_eq] at taken
  split at taken
  case isFalse => cases taken
  case isTrue found =>
    obtain ⟨place, owner, here⟩ := (Option.any_eq_true ..).mp (Bool.and_eq_true_iff.mp found).1
    obtain ⟨k, own, looked⟩ := Option.bind_eq_some_iff.mp owner
    obtain ⟨e, agrees, rfl⟩ := Option.map_eq_some_iff.mp looked
    have own := Result.of_toOption own
    refine ⟨e, List.mem_of_find?_eq_some agrees, of_decide_eq_true here, ?_⟩
    cases null : k.isNull with
    | true =>
      rw [ownerOf?_eq_none own null] at owner
      cases owner
    | false =>
      rw [identity?_eq_some.mpr ⟨own, null⟩, Option.any_some]
      exact List.find?_some (p := fun e : Value × Nat => k.same e.1) agrees

/-- The record that a row puts into a slot. -/
def Registry.takenFrom (r : Registry) (parentColumn relatedColumn : Value) (parents : List Value)
    (slot : RelationSlot) (row : Value) : Option Value :=
  (r.pairOf? parentColumn relatedColumn row).bind (takenInto parents slot)

theorem exists_owner_of_takenFrom {slot : RelationSlot} {row v : Value}
    (taken : r.takenFrom parentColumn relatedColumn parents slot row = some v) :
    ∃ e ∈ parentIndex parents, slotAt parents e.2 = slot ∧
      r.isRowOf parentColumn relatedColumn e.1 row = true := by
  obtain ⟨pair, own, taken⟩ := Option.bind_eq_some_iff.mp taken
  obtain ⟨e, member, here, identity⟩ := exists_owner_of_takenInto taken
  refine ⟨e, member, here, ?_⟩
  unfold Registry.isRowOf
  rw [own]
  exact identity

/-- Where one parent alone has a slot, the rows that count for it are the rows of that parent. -/
theorem filterMap_takenFrom_of_mem (apart : SlotsApart parents) {e : Value × Nat}
    (member : e ∈ parentIndex parents) (l : List Value) :
    l.filterMap (r.takenFrom parentColumn relatedColumn parents (slotAt parents e.2)) =
      (l.filter (r.isRowOf parentColumn relatedColumn e.1)).filterMap
        (r.takenFrom parentColumn relatedColumn parents (slotAt parents e.2)) := by
  rw [List.filterMap_filter]
  refine List.filterMap_congr fun row _ => ?_
  cases taken : r.takenFrom parentColumn relatedColumn parents (slotAt parents e.2) row with
  | none => rw [ite_self]
  | some v =>
    obtain ⟨e', member', here, own⟩ := exists_owner_of_takenFrom taken
    obtain rfl : e' = e := List.inj_on_of_nodup_map apart member' member here
    rw [if_pos own]

theorem filterMap_takenFrom_of_not {slot : RelationSlot}
    (nobody : ¬ ∃ e ∈ parentIndex parents, slotAt parents e.2 = slot) (l : List Value) :
    l.filterMap (r.takenFrom parentColumn relatedColumn parents slot) = [] := by
  rw [List.filterMap_eq_nil_iff]
  intro row _
  rw [Option.eq_none_iff_forall_ne_some]
  intro v taken
  obtain ⟨e, member, here, -⟩ := exists_owner_of_takenFrom taken
  exact nobody ⟨e, member, here⟩

theorem depositedIn_filterMap (slot : RelationSlot) (l : List Value) :
    depositedIn parents (l.filterMap (r.pairOf? parentColumn relatedColumn)) slot =
      l.filterMap (r.takenFrom parentColumn relatedColumn parents slot) := by
  rw [depositedIn_eq_filterMap, List.filterMap_filterMap]
  rfl

/-- Each slot gets the same records in another order of the rows. -/
theorem depositedIn_reordered {first second : List Value} (apart : SlotsApart parents)
    (reordered : Reordered r parentColumn relatedColumn parents first second) (slot : RelationSlot) :
    depositedIn parents (first.filterMap (r.pairOf? parentColumn relatedColumn)) slot =
      depositedIn parents (second.filterMap (r.pairOf? parentColumn relatedColumn)) slot := by
  rw [depositedIn_filterMap, depositedIn_filterMap]
  by_cases some : ∃ e ∈ parentIndex parents, slotAt parents e.2 = slot
  case pos =>
    obtain ⟨e, member, rfl⟩ := some
    obtain ⟨p, parent, own⟩ := key_of_mem_parentIndex member
    rw [filterMap_takenFrom_of_mem apart member, reordered.kept p parent e.1 own,
      ← filterMap_takenFrom_of_mem apart member]
  case neg => rw [filterMap_takenFrom_of_not some, filterMap_takenFrom_of_not some]

/-- Rows in another order attach the same, as long as the rows of each parent keep theirs. -/
theorem attachRelated_reordered (one : OneRow parents) {final : List Value}
    (ended : (attachRelated r rows (.text name) parentColumn relatedColumn many).outcome parents =
      (.ok (), final)) (apart : SlotsApart parents) {rows' : List Value → Result (List Value)}
    {first second : List Value} (read : rows (startedParents name many parents) = .ok first)
    (read' : rows' (startedParents name many parents) = .ok second)
    (reordered : Reordered r parentColumn relatedColumn parents first second) :
    (attachRelated r rows' (.text name) parentColumn relatedColumn many).outcome parents =
      (.ok (), final) := by
  obtain ⟨fit, l, pairs, found, paired, identified, rfl⟩ := attachRelated_eq_ok one ended
  obtain rfl : l = first := Except.ok.inj (found.symm.trans read)
  obtain ⟨readable, rfl⟩ := pairs_eq_ok_iff.mp paired
  have paired' : r.pairs parentColumn relatedColumn second =
      .ok (second.filterMap (r.pairOf? parentColumn relatedColumn)) :=
    pairs_eq_ok_iff.mpr ⟨fun row member => readable row (reordered.perm.mem_iff.mpr member), rfl⟩
  have both : (rows' (startedParents name many parents)).bind (r.pairs parentColumn relatedColumn) =
      .ok (second.filterMap (r.pairOf? parentColumn relatedColumn)) := by
    rw [read']
    exact paired'
  have identified' : ∀ pair ∈ second.filterMap (r.pairOf? parentColumn relatedColumn),
      IsIdentified pair := fun pair member =>
    identified pair ((reordered.perm.filterMap _).mem_iff.mpr member)
  rw [outcome_attachRelated one fit both identified',
    attachedKept_congr (depositedIn_reordered apart reordered)]

/-! ### No record twice -/

/-- Two values with different identities. -/
def OtherIdentities (v w : Value) : Prop :=
  ∃ i j, identityOf v = .ok i ∧ identityOf w = .ok j ∧ i.same j = false

theorem pairwise_withRelated {xs : List Value} {v k : Value} (own : identityOf v = .ok k)
    (identified : ∀ x ∈ xs, ∃ l, identityOf x = .ok l) (apart : xs.Pairwise OtherIdentities) :
    (withRelated xs v).Pairwise OtherIdentities := by
  unfold withRelated
  split
  case isTrue => exact apart
  case isFalse new =>
    refine List.pairwise_append.mpr ⟨apart, List.pairwise_singleton .., fun x inside w last => ?_⟩
    obtain rfl := List.mem_singleton.mp last
    obtain ⟨l, own'⟩ := identified x inside
    refine ⟨l, k, own', own, ?_⟩
    rw [Bool.eq_false_iff]
    intro same
    refine new (List.any_eq_true.mpr ⟨x, inside, ?_⟩)
    unfold sameIdentity
    rw [own', own]
    exact same

theorem pairwise_otherIdentities : ∀ (related : List Value) {xs : List Value},
    (∀ v ∈ related, ∃ k, identityOf v = .ok k) → (∀ x ∈ xs, ∃ l, identityOf x = .ok l) →
    xs.Pairwise OtherIdentities → (related.foldl withRelated xs).Pairwise OtherIdentities
  | [], _, _, _, apart => apart
  | v :: related, xs, identified, before, apart => by
    obtain ⟨⟨k, own⟩, others⟩ := List.forall_mem_cons.mp identified
    refine pairwise_otherIdentities related others (fun x inside => ?_)
      (pairwise_withRelated own before apart)
    rcases mem_withRelated inside with old | rfl
    · exact before x old
    · exact ⟨k, own⟩

theorem eagerRelation_pairwise (related : List Value)
    (identified : ∀ v ∈ related, ∃ k, identityOf v = .ok k) :
    ∃ xs, eagerRelation true related = .ofList xs ∧ xs.Pairwise OtherIdentities := by
  refine ⟨_, rfl, ?_⟩
  rw [← foldl_withRelated_nil]
  exact pairwise_otherIdentities related identified (fun _ inside => (List.not_mem_nil inside).elim) .nil

/-! ### All laws -/

/-- What holds of a run of attaching that has ended. -/
structure Settled (r : Registry) (rows : List Value → Result (List Value)) (name : String)
    (parentColumn relatedColumn : Value) (many : Bool) (parents final : List Value) : Prop where
  /-- Another run over the same rows changes nothing. -/
  again : (attachRelated r rows (.text name) parentColumn relatedColumn many).outcome final =
    (.ok (), final)
  /-- The rows may be in another order. -/
  reordered : ∀ (rows' : List Value → Result (List Value)) first second, SlotsApart parents →
    rows (startedParents name many parents) = .ok first →
    rows' (startedParents name many parents) = .ok second →
    Reordered r parentColumn relatedColumn parents first second →
    (attachRelated r rows' (.text name) parentColumn relatedColumn many).outcome parents = (.ok (), final)
  /-- No parent gets two records with one identity. -/
  once : many = true → ∀ (place : Nat) (p k : Value), parents[place]? = some p → p.identity? = some k →
    ∃ q xs, final[place]? = some q ∧ getRelation q (.text name) = .ofList xs ∧ xs.Pairwise OtherIdentities
  /-- Nothing else changes than what is attached under the name. -/
  frame : final.map (Value.without name) = parents.map (Value.without name)

/-- Attaching settles: the parents are the same after another run, and after a run over the rows in
another order if no two of the parents that rows are attached to have one map of relations. -/
theorem attachRelated_settled (one : OneRow parents) {final : List Value}
    (ended : (attachRelated r rows (.text name) parentColumn relatedColumn many).outcome parents =
      (.ok (), final)) : Settled r rows name parentColumn relatedColumn many parents final where
  again := attachRelated_again one ended
  reordered _ _ _ apart read read' reordered :=
    attachRelated_reordered one ended apart read read' reordered
  once := by
    rintro rfl place p k there own
    obtain ⟨fit, l, pairs, -, -, identified, rfl⟩ := attachRelated_eq_ok one ended
    obtain ⟨xs, held, apart⟩ := eagerRelation_pairwise (depositedIn parents pairs (p.slot place))
      fun v member => by
        obtain ⟨pair, inside, rfl⟩ := mem_depositedIn member
        exact (identified pair inside).2
    have holds : p.HasRelations := (fit p (List.mem_of_getElem? there)).hasRelations own
    refine ⟨_, xs, getElem?_attached there own, ?_, apart⟩
    rw [getRelation_attached holds, held]
  frame := by
    obtain ⟨-, l, pairs, -, -, -, rfl⟩ := attachRelated_eq_ok one ended
    exact without_attachedAt ..

end

/-- A relation of users with these posts. -/
def posts (ids : List Int) : Row :=
  [(.text "posts", .ofList (ids.map fun id => labelled id "Post" [] none))]

/-- Two users, and rows that can change places. -/
theorem attachRelated_settled_two :
    let parents := [labelled 1 "User" [] (some 0), labelled 2 "User" [] (some 1)]
    let rows : List Value → Result (List Value) := fun _ => .ok [postRow 1 10, postRow 2 20, postRow 1 10]
    let final := [labelled 1 "User" (posts [10]) (some 0), labelled 2 "User" (posts [20]) (some 1)]
    OneRow parents ∧ (attachRelated Registry.empty rows (.text "posts") (.text "user") (.text "post")
        true).outcome parents = (.ok (), final) ∧
      Settled Registry.empty rows "posts" (.text "user") (.text "post") true parents final := by
  intro parents rows final
  have one : OneRow parents := .of_rowless (by simp [parents, labelled, Value.relationRow,
    Value.relations?, Value.entries?])
  have ended : (attachRelated Registry.empty rows (.text "posts") (.text "user") (.text "post")
      true).outcome parents = (.ok (), final) := by
    with_unfolding_all rfl
  exact ⟨one, ended, attachRelated_settled one ended⟩

/-- Where two users have one map of relations, the order of the rows shows. -/
theorem attachRelated_shared :
    let parents := [labelled 1 "User" [] (some 0), labelled 2 "User" [] (some 0)]
    let first := [postRow 1 10, postRow 2 20]
    let second := [postRow 2 20, postRow 1 10]
    let run := fun rows => (attachRelated Registry.empty (fun _ => .ok rows) (.text "posts") (.text "user")
      (.text "post") true).outcome parents
    let both := fun relations =>
      [labelled 1 "User" relations (some 0), labelled 2 "User" relations (some 0)]
    OneRow parents ∧ Reordered Registry.empty (.text "user") (.text "post") parents first second ∧
      run first = (.ok (), both (posts [10, 20])) ∧ run second = (.ok (), both (posts [20, 10])) := by
  intro parents first second run both
  have one : OneRow parents := .of_rowless (by simp [parents, labelled, Value.relationRow,
    Value.relations?, Value.entries?])
  have kept : ∀ p ∈ parents, ∀ k, p.identity? = some k →
      first.filter (Registry.empty.isRowOf (.text "user") (.text "post") k) =
        second.filter (Registry.empty.isRowOf (.text "user") (.text "post") k) := by
    simp only [parents, List.forall_mem_cons]
    refine ⟨fun k own => ?_, fun k own => ?_, fun _ member => (List.not_mem_nil member).elim⟩
    · obtain rfl := Option.some.inj own
      with_unfolding_all rfl
    · obtain rfl := Option.some.inj own
      with_unfolding_all rfl
  exact ⟨one, ⟨.swap .., kept⟩, by with_unfolding_all rfl, by with_unfolding_all rfl⟩

end GraphQuery
