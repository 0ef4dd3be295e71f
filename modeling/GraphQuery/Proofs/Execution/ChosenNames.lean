import GraphQuery.Command.Run
import GraphQuery.Execution.Write
import GraphQuery.Proofs.Binding.Searches

/-! # The names that writes choose

A write chooses the names for its values one after another, by trying, and each name that it has chosen is
taken from then on.  A table is asked for a name beside reserved ones, and counts.

* `allocate_uniqueName` : for each property the name is the one that the table gives beside those that
  are taken by then;
* `outcome_uniqueName` : a caller that asks for a name gets it, and nothing changes;
* `nameSearches_agree` : every search ends, and what it ends at is the first free candidate. -/

namespace GraphQuery

open GraphQuery.Binding

/-! ### Choosing one name after another -/

section allocate

variable (w : WriteFrame)

theorem allocate_cons (property : String) (v : Value) (rest taken : Properties) :
    let name := w.table.uniqueName (bindingName property) (taken.map Prod.fst)
    let others := allocate w rest (taken ++ [(name, writtenValue w.pattern v)])
    allocate w ((property, v) :: rest) taken = ((property, name) :: others.1, others.2) := rfl

theorem names_allocate (properties taken : Properties) : (allocate w properties taken).2.map Prod.fst =
    taken.map Prod.fst ++ (allocate w properties taken).1.map Prod.snd := by
  induction properties generalizing taken with
  | nil => simp [allocate]
  | cons p rest ih =>
    rw [allocate_cons]
    dsimp only
    rw [ih, List.map_append, List.append_assoc]
    rfl

/-- Later properties do not change the names for earlier ones. -/
theorem allocate_take (properties taken : Properties) (i : Nat) :
    (allocate w (properties.take i) taken).1 = (allocate w properties taken).1.take i := by
  induction properties generalizing taken i with
  | nil => simp [allocate]
  | cons p rest ih =>
    cases i with
    | zero => rfl
    | succ i =>
      rw [List.take_succ_cons, allocate_cons, allocate_cons]
      dsimp only
      rw [ih, List.take_succ_cons]

/-- The name for a property is given beside those that are taken after the properties before it. -/
theorem allocate_uniqueName {property : String} {v : Value} : ∀ {properties taken : Properties} {i : Nat},
    properties[i]? = some (property, v) → (allocate w properties taken).1[i]? =
      some (property, w.table.uniqueName (bindingName property)
        ((allocate w (properties.take i) taken).2.map Prod.fst))
  | [], _, _, there => by cases there
  | p :: rest, taken, 0, there => by
    obtain rfl := Option.some.inj there
    rfl
  | p :: rest, taken, i + 1, there => by
    rw [List.take_succ_cons, allocate_cons, allocate_cons]
    exact allocate_uniqueName there

end allocate

/-! ### Asking for a name -/

/-- A collection that can be asked as often as one likes is left as it is. -/
theorem Workspace.leave_self {reserved : Value} {names : List String} (own : reserved.Reserves names)
    (w : Workspace) : (Workspace.leave reserved reserved).outcome w = (.ok (), w) := by
  cases reserved with
  | stream xs mark =>
    have lasts : Value.ofStream (streamAfter (.text "") xs) = .stream xs mark := own.lasts ""
    obtain ⟨-, rfl⟩ := Value.stream.inj lasts
    rfl
  | _ => rfl

theorem outcome_uniqueName (w : Workspace) (k : Nat) (base : String) {names : List String}
    {reserved : Value} (own : reserved.Reserves names) :
    (Command.runPlain (w.object (.table k)) "unique_name" ⟨w, [.text base, reserved], []⟩).outcome w =
      (.ok (.value (.text ((w.table k).uniqueName base names))), w) := by
  have asked := ((w.table k).gives_uniqueName base names).asked reserved own
  show ((Exec.ofResult ((w.table k).nameBesides (.text base) reserved) >>= fun p =>
    Workspace.leave reserved p.2 >>= fun _ => pure (.value p.1) : Command.Step).outcome w) = _
  rw [asked, Exec.outcome_bind, Exec.outcome_ofResult]
  dsimp only
  rw [Exec.outcome_bind, Workspace.leave_self own]
  rfl

/-! ### All searches -/

/-- Whatever a table holds and whatever is reserved, the search for a name ends, within as many steps as
there are names in the table and reserved ones, at the first candidate that is in no bucket and not
reserved; and for each property of a write, where names are tried one after another, the name that is
chosen is the one that the table gives beside the names that are taken by then. -/
theorem nameSearches_agree :
    (∀ (t : BindingTable) (base : String) (names : List String), ∃ n ≤ t.size + names.length,
      IsFirstFree (t.Occupied names) base n ∧ t.Gives base names (candidate base n)) ∧
    (∀ (w : Workspace) (k : Nat) (base : String) (names : List String) (reserved : Value),
      reserved.Reserves names → (Command.runPlain (w.object (.table k)) "unique_name"
        ⟨w, [.text base, reserved], []⟩).outcome w =
          (.ok (.value (.text ((w.table k).uniqueName base names))), w)) ∧
    ∀ (w : WriteFrame) (properties taken : Properties) (i : Nat) (property : String) (v : Value),
      properties[i]? = some (property, v) →
        let assigned := (allocate w properties taken).1
        let before := (allocate w (properties.take i) taken).2
        before.map Prod.fst = taken.map Prod.fst ++ (assigned.take i).map Prod.snd ∧
        ∃ name, assigned[i]? = some (property, name) ∧
          TriesTo (w.table.Occupied (before.map Prod.fst)) (bindingName property) name ∧
          w.table.Gives (bindingName property) (before.map Prod.fst) name ∧
          w.table.nameBesides (.text (bindingName property)) (.ofProperties before) =
            .ok (.text name, .ofProperties before) := by
  refine ⟨?_, fun w k base names reserved own => outcome_uniqueName w k base own, ?_⟩
  · intro t base names
    obtain ⟨n, within, first⟩ := t.exists_isFirstFree base names
    exact ⟨n, within, first, BindingTable.gives_candidate first⟩
  · intro w properties taken i property v there assigned before
    have gives := w.table.gives_uniqueName (bindingName property) (before.map Prod.fst)
    refine ⟨?_, _, allocate_uniqueName w there, gives.triesTo, gives, ?_⟩
    · rw [names_allocate, allocate_take]
    · exact gives.asked _ (Value.reserves_ofProperties before)

/-- A table with the base and a number in different buckets, a number that is reserved, and two properties
with one base. -/
theorem nameSearches_agree_crowded :
    let t : BindingTable := ⟨[(.text "age", .int 1)], [], [(.text "age_2", .int 2)], [], []⟩
    let reserved : Value := .set [.text "age_3", .int 4]
    let properties : Properties := [("age", .int 5), ("age!", .int 6)]
    let w : Workspace := { Workspace.empty with tables := [t] }
    reserved.Reserves ["age_3"] ∧
    (∃ n ≤ 3, IsFirstFree (t.Occupied ["age_3"]) "age" n ∧ candidate "age" n = "age_4") ∧
    (Command.runPlain (w.object (.table 0)) "unique_name" ⟨w, [.text "age", reserved], []⟩).outcome w =
      (.ok (.value (.text "age_4")), w) ∧
    properties[1]? = some ("age!", .int 6) ∧
    (allocate ⟨t, standardPattern⟩ properties []).1[1]? = some ("age!", "age_4") ∧
    TriesTo (t.Occupied ["age_3"]) "age" "age_4" ∧
    t.nameBesides (.text "age") (.ofProperties [("age_3", .int 5)]) =
      .ok (.text "age_4", .ofProperties [("age_3", .int 5)]) := by
  intro t reserved properties w
  have own : reserved.Reserves ["age_3"] :=
    Value.reserves_members [.text "age_3", .int 4] (fun _ => rfl) fun _ => rfl
  obtain ⟨searches, commands, writes⟩ := nameSearches_agree
  obtain ⟨n, within, first, gives⟩ := searches t "age" ["age_3"]
  have named : t.uniqueName "age" ["age_3"] = "age_4" := by decide
  obtain ⟨-, name, chosen, tries, -, asked⟩ :=
    writes ⟨t, standardPattern⟩ properties [] 1 "age!" (.int 6) rfl
  have last : (allocate ⟨t, standardPattern⟩ properties []).1[1]? = some ("age!", "age_4") := by decide
  obtain ⟨-, rfl⟩ := Prod.mk.inj (Option.some.inj (chosen.symm.trans last))
  have answered := commands w 0 "age" ["age_3"] reserved own
  rw [show w.table 0 = t from rfl, named] at answered
  exact ⟨own, ⟨n, within, first, gives.binding.symm.trans named⟩, answered, rfl, last, tries, asked⟩

end GraphQuery
