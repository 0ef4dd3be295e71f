import GraphQuery.Proofs.Outcome
import GraphQuery.Proofs.Value.Places
import GraphQuery.Record.Hydration

/-! # What driver values are read as

A node that a driver hands out is read as a record, and a relationship as an edge, wherever it stands in a
list, a tuple or a map.  A path is read as a map of both.

* `Value.IsAnswer`, `Value.IsReadBack` : what values consist of before and after.
* `ReadAs` : what becomes of a value apart from its parts.
* `at?_toRecord`, `readAs_toRecord` : what stands at a place is read and stands there afterwards.
* `throughout_toRecord` : nothing of the driver is left.
* `toRecord_readBack` : what was read is not read again.
* `toRecord_places` : the three together. -/

namespace GraphQuery

variable {u v w : Value}

namespace Value

/-- What the answer of a driver consists of. -/
inductive IsAnswer : Value → Prop
  | scalar {v : Value} : v.IsScalar → IsAnswer v
  | date (d : Date) : IsAnswer (.date d)
  | moment (m : Moment) : IsAnswer (.moment m)
  | list (xs : List Value) (mark : Option Nat) : IsAnswer (.list xs mark)
  | tuple (xs : List Value) : IsAnswer (.tuple xs)
  | map {es : Row} (mark : Option Nat) : HasTextKeys es → IsAnswer (.map es mark)
  | node (n : NodeData Value) : IsAnswer (.node n)
  | link (l : LinkData Value) : IsAnswer (.link l)
  | path (nodes : List (Option (NodeData Value))) (links : List (LinkData Value)) :
      IsAnswer (.path nodes links)

/-- What a value that was read consists of: new lists and maps, and records and edges for what was the
driver's. -/
inductive IsReadBack : Value → Prop
  | scalar {v : Value} : v.IsScalar → IsReadBack v
  | date (d : Date) : IsReadBack (.date d)
  | moment (m : Moment) : IsReadBack (.moment m)
  | list (xs : List Value) : IsReadBack (.ofList xs)
  | map {es : Row} : HasTextKeys es → IsReadBack (.ofPairs es)
  | record (r : Record) : IsReadBack (.record r)
  | edge (e : Edge) : IsReadBack (.edge e)

end Value

/-- What a value is read as, apart from its parts. -/
inductive ReadAs : Value → Value → Prop
  | scalar {v : Value} : v.IsScalar → ReadAs v v
  | date (d : Date) : ReadAs (.date d) (.date d)
  | moment (m : Moment) : ReadAs (.moment m) (.moment m)
  | list {xs ys : List Value} {mark : Option Nat} : ys.length = xs.length →
      ReadAs (.list xs mark) (.ofList ys)
  | tuple {xs ys : List Value} : ys.length = xs.length → ReadAs (.tuple xs) (.ofList ys)
  | map {es fs : Row} {mark : Option Nat} : fs.map Prod.fst = es.map Prod.fst →
      ReadAs (.map es mark) (.ofPairs fs)
  | node {n : NodeData Value} {r : Record} : recordOfNode n = .ok r → ReadAs (.node n) (.record r)
  | link {l : LinkData Value} {e : Edge} : edgeOfLink l = .ok e → ReadAs (.link l) (.edge e)
  | path {nodes : List (Option (NodeData Value))} {links : List (LinkData Value)} {rs : List Record}
      {es : List Edge} : List.Forall₂ (fun n r => recordOfPathNode n = .ok r) nodes rs →
      List.Forall₂ (fun l e => edgeOfLink l = .ok e) links es →
      ReadAs (.path nodes links) (.ofProperties [("nodes", .ofList (rs.map .record)),
        ("relationships", .ofList (es.map .edge))])

/-! ### One level -/

theorem toRecord_scalar (h : v.IsScalar) : toRecord v = .ok v := by
  cases v with
  | null | bool | int | double | text | bytes | clock => rfl
  | _ => cases h

theorem toRecords_eq_ok_iff : ∀ {vs ws : List Value}, toRecords vs = .ok ws ↔ vs.map toRecord = ws.map .ok
  | [], ws => by
    rw [toRecords, Except.ok.injEq, List.map_nil, eq_comm, eq_comm (a := []), List.map_eq_nil_iff]
  | v :: vs, ws => by
    rw [toRecords, List.map_cons]
    constructor
    · intro made
      obtain ⟨w, first, made⟩ := Result.bind_eq_ok made
      obtain ⟨rest, others, made⟩ := Result.bind_eq_ok made
      cases made
      rw [first, toRecords_eq_ok_iff.mp others, List.map_cons]
    · intro same
      obtain ⟨w, rest, rfl, first, others⟩ := List.map_eq_cons_iff.mp same.symm
      rw [← first, toRecords_eq_ok_iff.mpr others.symm]
      rfl

theorem entriesToRecords_eq_ok_iff : ∀ {es fs : Row}, entriesToRecords es = .ok fs ↔
    es.map (fun e => (e.1, toRecord e.2)) = fs.map fun f => (f.1, .ok f.2)
  | [], fs => by
    rw [entriesToRecords, Except.ok.injEq, List.map_nil, eq_comm, eq_comm (a := []), List.map_eq_nil_iff]
  | (k, v) :: es, fs => by
    rw [entriesToRecords, List.map_cons]
    constructor
    · intro made
      obtain ⟨w, first, made⟩ := Result.bind_eq_ok made
      obtain ⟨rest, others, made⟩ := Result.bind_eq_ok made
      cases made
      rw [first, entriesToRecords_eq_ok_iff.mp others, List.map_cons]
    · intro same
      obtain ⟨⟨k', w⟩, rest, rfl, first, others⟩ := List.map_eq_cons_iff.mp same.symm
      obtain ⟨rfl, read⟩ := Prod.mk.inj first
      rw [← read, entriesToRecords_eq_ok_iff.mpr others.symm]
      rfl

/-- How a value is read: either all its parts are read, one after another, or it has none and is read as one
whose parts are read already. -/
theorem toRecord_cases (answer : v.IsAnswer) (made : toRecord v = .ok w) : ReadAs v w ∧
    (v.parts.map toRecord = w.parts.map .ok ∨
      v.parts = [] ∧ ∀ y ∈ w.parts, y.Throughout Value.IsReadBack) := by
  cases answer with
  | scalar scalar =>
    obtain rfl := Except.ok.inj ((toRecord_scalar scalar).symm.trans made)
    exact ⟨.scalar scalar, .inl (by rw [Value.parts_of_isScalar scalar]; rfl)⟩
  | date d =>
    cases made
    exact ⟨.date d, .inl rfl⟩
  | moment m =>
    cases made
    exact ⟨.moment m, .inl rfl⟩
  | list xs =>
    obtain ⟨ys, parts, made⟩ := Result.bind_eq_ok made
    cases made
    have same := toRecords_eq_ok_iff.mp parts
    exact ⟨.list (by simpa using (congrArg List.length same).symm), .inl same⟩
  | tuple xs =>
    obtain ⟨ys, parts, made⟩ := Result.bind_eq_ok made
    cases made
    have same := toRecords_eq_ok_iff.mp parts
    exact ⟨.tuple (by simpa using (congrArg List.length same).symm), .inl same⟩
  | map _ texts =>
    obtain ⟨fs, parts, made⟩ := Result.bind_eq_ok made
    cases made
    have same := entriesToRecords_eq_ok_iff.mp parts
    have keys := congrArg (List.map Prod.fst) same
    have values := congrArg (List.map Prod.snd) same
    rw [List.map_map, List.map_map] at keys values
    refine ⟨.map keys.symm, .inl ?_⟩
    show (List.map Prod.snd _).map toRecord = (List.map Prod.snd _).map _
    rw [List.map_map, List.map_map]
    exact values
  | node n =>
    obtain ⟨r, read, rfl⟩ := Result.map_eq_ok made
    exact ⟨.node read, .inl rfl⟩
  | link l =>
    obtain ⟨e, read, rfl⟩ := Result.map_eq_ok made
    exact ⟨.link read, .inl rfl⟩
  | path nodes links =>
    -- what a path holds is none of its parts, and it is read at once
    obtain ⟨rs, records, made⟩ := Result.bind_eq_ok made
    obtain ⟨es, edges, made⟩ := Result.bind_eq_ok made
    cases made
    refine ⟨.path (Result.forall₂_of_mapM records) (Result.forall₂_of_mapM edges), .inr ⟨rfl, ?_⟩⟩
    refine List.forall_mem_cons.mpr ⟨?_, List.forall_mem_singleton.mpr ?_⟩
    · refine Value.throughout_iff.mpr ⟨.list _, List.forall_mem_map.mpr fun r _ => ?_⟩
      exact Value.throughout_leaf (.record r) rfl
    · refine Value.throughout_iff.mpr ⟨.list _, List.forall_mem_map.mpr fun e _ => ?_⟩
      exact Value.throughout_leaf (.edge e) rfl

theorem ReadAs.isReadBack (read : ReadAs v w) (answer : v.IsAnswer) : w.IsReadBack := by
  cases read with
  | scalar scalar => exact .scalar scalar
  | date d => exact .date d
  | moment m => exact .moment m
  | list | tuple => exact .list _
  | map keys =>
    cases answer with
    | scalar scalar => cases scalar
    | map _ texts => exact .map (by rwa [Value.HasTextKeys, keys])
  | node => exact .record _
  | link => exact .edge _
  | path =>
    refine .map (List.forall_mem_cons.mpr ⟨⟨"nodes", rfl⟩, ?_⟩)
    exact List.forall_mem_singleton.mpr ⟨"relationships", rfl⟩

/-! ### All levels -/

/-- What stands at a place is read and stands there afterwards. -/
theorem at?_toRecord : ∀ (place : List Nat) {v w : Value}, v.Throughout Value.IsAnswer → toRecord v = .ok w →
    v.at? place = some u → ∃ x, w.at? place = some x ∧ toRecord u = .ok x
  | [], v, w, _, made, found => ⟨w, rfl, Option.some.inj found ▸ made⟩
  | i :: place, v, w, h, made, found => by
    obtain ⟨own, parts⟩ := Value.throughout_iff.mp h
    obtain ⟨x, here, found⟩ := Option.bind_eq_some_iff.mp found
    obtain ⟨-, all | ⟨none, -⟩⟩ := toRecord_cases own made
    · have one := congrArg (·[i]?) all
      simp only [List.getElem?_map, here, Option.map_some] at one
      obtain ⟨y, there, read⟩ := Option.map_eq_some_iff.mp one.symm
      obtain ⟨z, last, result⟩ := at?_toRecord place (parts x (List.mem_of_getElem? here)) read.symm found
      exact ⟨z, Option.bind_eq_some_iff.mpr ⟨y, there, last⟩, result⟩
    · rw [none] at here
      cases here

theorem throughout_toRecord (h : v.Throughout Value.IsAnswer) (made : toRecord v = .ok w) :
    w.Throughout Value.IsReadBack := by
  induction v using Value.parts_induction generalizing w with
  | step v ih =>
    obtain ⟨own, parts⟩ := Value.throughout_iff.mp h
    obtain ⟨read, all | ⟨-, rest⟩⟩ := toRecord_cases own made
    · refine Value.throughout_iff.mpr ⟨read.isReadBack own, fun y member => ?_⟩
      have inside : Except.ok y ∈ v.parts.map toRecord := all ▸ List.mem_map_of_mem member
      obtain ⟨x, before, one⟩ := List.mem_map.mp inside
      exact ih x before (parts x before) one
    · exact Value.throughout_iff.mpr ⟨read.isReadBack own, rest⟩

/-- What was read is not read again. -/
theorem toRecord_readBack (h : w.Throughout Value.IsReadBack) : toRecord w = .ok w := by
  induction w using Value.parts_induction with
  | step w ih =>
    obtain ⟨own, parts⟩ := Value.throughout_iff.mp h
    have same : ∀ y ∈ w.parts, toRecord y = .ok y := fun y member => ih y member (parts y member)
    cases own with
    | scalar scalar => exact toRecord_scalar scalar
    | date | moment | record | edge => rfl
    | list ys =>
      have members : toRecords ys = .ok ys := toRecords_eq_ok_iff.mpr (List.map_congr_left same)
      rw [Value.ofList, toRecord, members]
      rfl
    | @map fs =>
      have entries : entriesToRecords fs = .ok fs := by
        refine entriesToRecords_eq_ok_iff.mpr (List.map_congr_left fun f member => ?_)
        exact Prod.ext rfl (same f.2 (List.mem_map_of_mem member))
      rw [Value.ofPairs, toRecord, entries]
      rfl

/-- A value that can be read is read place by place.  Afterwards there are only records and edges in it, and
reading it once more changes nothing. -/
theorem toRecord_places (answer : v.Throughout Value.IsAnswer) (made : toRecord v = .ok w) :
    (∀ place u, v.at? place = some u → ∃ x, w.at? place = some x ∧ ReadAs u x) ∧
      w.Throughout Value.IsReadBack ∧ toRecord w = .ok w := by
  have left := throughout_toRecord answer made
  refine ⟨fun place u found => ?_, left, toRecord_readBack left⟩
  obtain ⟨x, there, read⟩ := at?_toRecord place answer made found
  exact ⟨x, there, (toRecord_cases (answer place u found) read).1⟩

/-- A path beside a map of its node, in a tuple. -/
theorem toRecord_places_path :
    let user : NodeData Value := ⟨.null, .int 7, ["User"], [("name", .text "Ann")]⟩
    let knows : LinkData Value := ⟨.null, .int 1, "KNOWS", some user, some user, []⟩
    let answer : Value := .tuple [.path [some user, some user] [knows], .ofProperties [("user", .node user)]]
    answer.Throughout Value.IsAnswer ∧ ∃ (record : Record) (edge : Edge),
      recordOfNode user = .ok record ∧ edgeOfLink knows = .ok edge ∧
      let read : Value := .ofList [.ofProperties [("nodes", .ofList [.record record, .record record]),
        ("relationships", .ofList [.edge edge])], .ofProperties [("user", .record record)]]
      toRecord answer = .ok read ∧ toRecord read = .ok read := by
  have link : edgeOfLink ⟨.null, .int 1, "KNOWS", some ⟨.null, .int 7, ["User"], [("name", .text "Ann")]⟩,
      some ⟨.null, .int 7, ["User"], [("name", .text "Ann")]⟩, []⟩ = .ok ⟨some 1, some 7, some 7, "KNOWS", [],
        none, ["id", "start_id", "end_id", "relationship_type", "properties"]⟩ := by rfl
  intro user knows answer
  have known : answer.Throughout Value.IsAnswer := by
    have text : Value.HasTextKeys [(.text "user", .node user)] := List.forall_mem_singleton.mpr ⟨"user", rfl⟩
    refine Value.throughout_iff.mpr ⟨.tuple _, List.forall_mem_cons.mpr ⟨?_, ?_⟩⟩
    · exact Value.throughout_leaf (.path _ _) rfl
    refine List.forall_mem_singleton.mpr (Value.throughout_iff.mpr ⟨.map none text, ?_⟩)
    exact List.forall_mem_singleton.mpr (Value.throughout_leaf (.node user) rfl)
  have node : recordOfNode user = .ok ⟨some 7, ["User"], [("name", .text "Ann")], [], none, none,
      ["id", "labels", "properties"]⟩ := by rfl
  refine ⟨known, _, _, node, link, ?_⟩
  intro read
  have made : toRecord answer = .ok read := by
    simp only [answer, knows, toRecord, toRecords, List.mapM_cons, List.mapM_nil, recordOfPathNode, node]
    rw [link]
    rfl
  exact ⟨made, (toRecord_places known made).2.2⟩

end GraphQuery
