import GraphQuery.Proofs.Binding.Agreement
import GraphQuery.Proofs.Execution.Identity

/-! # The records of rows

A row that holds nothing but a node is that node. Any other row is a map of its columns, each under its
short name, which is its name without the primary node in front of it.

* `recordOfRow_eq_ok` : what becomes of a row, as entries that a map is made of.
* `records_columns` : there is one record for each row, and no column of it is lost, unless the short
  name of one column is the name of another one.
* `records_classes` : a node under the primary name becomes an entity of the chosen class and any other
  one what its labels say, except for a node that is all its row holds. -/

namespace GraphQuery

/-! ### Short names -/

/-- The name of a column without the primary node in front of it. -/
def shortColumn (primary : Option String) (column : String) : String :=
  match primary with
  | some p =>
    if p ≠ "" ∧ (p ++ ".").toList <+: column.toList then
      String.ofList (column.toList.drop (p.length + 1))
    else column
  | none => column

/-- The short name of a column, as the key of a map. -/
def shortKey (primary : Option String) : Value → Value
  | .text s => .text (shortColumn primary s)
  | k => k

theorem shortColumn_some (p column : String) : shortColumn (some p) column =
    if p ≠ "" ∧ (p ++ ".").toList <+: column.toList then
      String.ofList (column.toList.drop (p.length + 1))
    else column := rfl

theorem shortColumn_append {p : String} (given : p ≠ "") (s : String) :
    shortColumn (some p) (p ++ "." ++ s) = s := by
  have front : (p ++ ".").toList <+: (p ++ "." ++ s).toList := by
    rw [String.toList_append (s := p ++ ".")]
    exact List.prefix_append ..
  have size : (p ++ ".").toList.length = p.length + 1 := by
    rw [String.length_toList, String.length_append]
    rfl
  rw [shortColumn_some, if_pos ⟨given, front⟩, String.toList_append (s := p ++ "."), ← size, List.drop_left,
    String.ofList_toList]

/-- A column either has the primary node in front of its short name, or it is called by it. -/
theorem shortColumn_cases (primary : Option String) (column : String) :
    (∃ p, primary = some p ∧ p ≠ "" ∧ column = p ++ "." ++ shortColumn primary column) ∨
      (shortColumn primary column = column ∧
        ∀ p, primary = some p → p ≠ "" → ¬ (p ++ ".").toList <+: column.toList) := by
  cases primary with
  | none => exact Or.inr ⟨rfl, nofun⟩
  | some p =>
    by_cases front : p ≠ "" ∧ (p ++ ".").toList <+: column.toList
    · obtain ⟨rest, joined⟩ := front.2
      have spelled : column = p ++ "." ++ String.ofList rest := by
        apply String.toList_inj.mp
        rw [String.toList_append, String.toList_ofList, joined]
      refine Or.inl ⟨p, rfl, front.1, ?_⟩
      rw [spelled, shortColumn_append front.1]
    · refine Or.inr ⟨if_neg front, fun q same given => ?_⟩
      obtain rfl := Option.some.inj same
      exact fun c => front ⟨given, c⟩

theorem shortColumn_of_not_prefix {p s : String} (other : ¬ (p ++ ".").toList <+: s.toList) :
    shortColumn (some p) s = s := if_neg fun c => other c.2

theorem shortName_text (primary : Option String) (s : String) :
    Registry.shortName (.ofText? primary) (.text s) = .ok (.text (shortColumn primary s)) := by
  cases primary with
  | none => rfl
  | some p =>
    rw [shortColumn_some]
    by_cases given : p = ""
    · subst given
      rfl
    · have present : (Value.ofText? (some p)).isTruthy = true := bne_iff_ne.mpr given
      unfold Registry.shortName
      rw [present]
      show (if (p ++ ".").toList.isPrefixOf s.toList = true then _ else _) = _
      by_cases front : (p ++ ".").toList <+: s.toList
      · rw [if_pos (List.isPrefixOf_iff_prefix.mpr front), if_pos ⟨given, front⟩]
        rfl
      · rw [if_neg fun c => front (List.isPrefixOf_iff_prefix.mp c), if_neg fun c => front c.2]

/-! ### Columns that keep apart -/

/-- No column is called by the short name of another one. -/
def ColumnsApart (primary : Option String) (row : Row) : Prop :=
  ∀ p s, primary = some p → p ≠ "" → .text s ∈ row.map Prod.fst →
    .text (p ++ "." ++ s) ∈ row.map Prod.fst → (p ++ ".").toList <+: s.toList

/-- The columns of a row as the driver hands them out: each has a name of its own. -/
structure NamedColumns (row : Row) : Prop where
  texts : ∀ k ∈ row.map Prod.fst, ∃ s, k = .text s
  distinct : (row.map Prod.fst).Nodup

/-- Two columns have one short name exactly if one of them is called by the short name of the other. -/
theorem columnsApart_iff {primary : Option String} {row : Row} (named : NamedColumns row) :
    ColumnsApart primary row ↔ ((row.map Prod.fst).map (shortKey primary)).Nodup := by
  constructor
  · intro apart
    refine List.Nodup.map_on (fun k hk l hl same => ?_) named.distinct
    obtain ⟨s, rfl⟩ := named.texts k hk
    obtain ⟨t, rfl⟩ := named.texts l hl
    have short : shortColumn primary s = shortColumn primary t := Value.text.inj same
    rcases shortColumn_cases primary s with ⟨p, rfl, given, hs⟩ | ⟨hs, bare⟩
    · rcases shortColumn_cases (some p) t with ⟨q, eq, -, ht⟩ | ⟨ht, bare⟩
      · obtain rfl := Option.some.inj eq
        rw [hs, ht, short]
      · rw [hs, short, ht] at hk
        exact absurd (apart p t rfl given hl hk) (bare p rfl given)
    · rcases shortColumn_cases primary t with ⟨p, rfl, given, ht⟩ | ⟨ht, -⟩
      · rw [ht, ← short, hs] at hl
        exact absurd (apart p s rfl given hk hl) (bare p rfl given)
      · rw [← hs, ← ht, short]
  · intro distinct p s primary given hs hl
    subst primary
    by_contra bare
    have one : Value.text (p ++ "." ++ s) = .text s := by
      refine List.inj_on_of_nodup_map distinct hl hs ?_
      show Value.text _ = .text _
      rw [shortColumn_append given, shortColumn_of_not_prefix bare]
    have longer := congrArg String.length (Value.text.inj one)
    rw [String.length_append, String.length_append] at longer
    exact absurd longer (by simp)

/-! ### What becomes of the columns -/

/-- An entry of a record holds what becomes of a column, under the short name of that column. -/
def Registry.Becomes (r : Registry) (primary : Option String) (chosen : Value)
    (column entry : Value × Value) : Prop :=
  entry.1 = shortKey primary column.1 ∧ ∃ v, toRecord column.2 = .ok v ∧
    r.hydrate (if column.1.same (.ofText? primary) then chosen else .null) v = .ok entry.2

variable {r : Registry} {primary : Option String} {chosen : Value}

theorem shortKey_of_shortName {key name : Value}
    (found : Registry.shortName (.ofText? primary) key = .ok name) : name = shortKey primary key := by
  cases key with
  | text s =>
    rw [shortName_text] at found
    exact (Except.ok.inj found).symm
  | _ =>
    unfold Registry.shortName at found
    split at found
    · exact (Except.ok.inj found).symm
    · cases found

theorem columns_eq_ok : ∀ {row done out : Row}, r.columns (.ofText? primary) chosen done row = .ok out →
    ∃ cols, List.Forall₂ (r.Becomes primary chosen) row cols ∧
      out = cols.foldl (fun t e => putEntry e.1 e.2 t) done
  | [], _, _, made => ⟨[], .nil, (Except.ok.inj made).symm⟩
  | (key, v) :: row, done, out, made => by
    rw [Registry.columns] at made
    obtain ⟨v', converted, made⟩ := Result.bind_eq_ok made
    obtain ⟨v'', hydrated, made⟩ := Result.bind_eq_ok made
    obtain ⟨name, named, made⟩ := Result.bind_eq_ok made
    obtain ⟨cols, become, rfl⟩ := columns_eq_ok made
    exact ⟨(name, v'') :: cols, .cons ⟨shortKey_of_shortName named, v', converted, hydrated⟩ become, rfl⟩

/-- A row that holds nothing but a node. -/
def LoneNode (row : Row) (n : Record) : Prop := ∃ key v, row = [(key, v)] ∧ toRecord v = .ok (.record n)

/-- The record of a row is its only node, or it is made of entries, one for each column. -/
theorem recordOfRow_eq_ok {row : Row} {x : Value}
    (made : r.recordOfRow (.ofText? primary) chosen row = .ok x) :
    (∃ n, LoneNode row n ∧ r.hydrate chosen (.record n) = .ok x) ∨
      (∀ n, ¬ LoneNode row n) ∧ ∃ cols, List.Forall₂ (r.Becomes primary chosen) row cols ∧
        x = .ofPairs (ofEntries cols) := by
  have map : ∀ {y : Value}, (r.columns (.ofText? primary) chosen [] row).map Value.ofPairs = .ok y →
      ∃ cols, List.Forall₂ (r.Becomes primary chosen) row cols ∧ y = .ofPairs (ofEntries cols) := by
    intro y mapped
    obtain ⟨out, found, rfl⟩ := Result.map_eq_ok mapped
    obtain ⟨cols, become, rfl⟩ := columns_eq_ok found
    exact ⟨cols, become, rfl⟩
  unfold Registry.recordOfRow at made
  split at made
  case h_1 key v =>
    obtain ⟨v', converted, made⟩ := Result.bind_eq_ok made
    split at made
    case h_1 n => exact Or.inl ⟨n, ⟨key, v, rfl, converted⟩, made⟩
    case h_2 other =>
      refine Or.inr ⟨?_, map made⟩
      rintro n ⟨_, _, same, node⟩
      cases same
      exact other n (Except.ok.inj (converted.symm.trans node))
  case h_2 several =>
    refine Or.inr ⟨?_, map made⟩
    rintro n ⟨key, v, rfl, -⟩
    exact several key v rfl

theorem records_eq_ok {rows : List Value} {primary chosen : Value} {out : List Value}
    (made : r.records primary chosen rows = .ok out) :
    List.Forall₂ (fun row x => ∃ es, row.entries? = some es ∧
      r.recordOfRow primary chosen es = .ok x) rows out := by
  refine (Result.forall₂_of_mapM made).imp fun row x found => ?_
  obtain ⟨es, sized, found⟩ := Result.bind_eq_ok found
  refine ⟨es, ?_, found⟩
  unfold Registry.sizedEntries at sized
  obtain ⟨-, -, sized⟩ := Result.bind_eq_ok sized
  unfold Registry.rowEntries at sized
  split at sized
  case h_1 entries => exact entries.trans (congrArg some (Except.ok.inj sized))
  case h_2 => cases sized

/-! ### No column is lost -/

theorem keys_of_becomes {row cols : Row} (become : List.Forall₂ (r.Becomes primary chosen) row cols) :
    cols.map Prod.fst = (row.map Prod.fst).map (shortKey primary) := by
  induction become with
  | nil => rfl
  | cons first _ ih => rw [List.map_cons, List.map_cons, List.map_cons, ih, first.1]

/-- What a row becomes: the node that is all it holds, or a map of what becomes of its columns. The map
has as many entries as the row has columns, unless a column is called by the short name of another one;
then it has fewer. -/
def Registry.KeepsColumns (r : Registry) (primary : Option String) (chosen row x : Value) : Prop :=
  ∃ es, row.entries? = some es ∧
    ((∃ n, LoneNode es n ∧ r.hydrate chosen (.record n) = .ok x) ∨
      (∀ n, ¬ LoneNode es n) ∧ ∃ cols, List.Forall₂ (r.Becomes primary chosen) es cols ∧
        x = .ofPairs (ofEntries cols) ∧ (ColumnsApart primary es → ofEntries cols = cols) ∧
        (¬ ColumnsApart primary es → (ofEntries cols).length < es.length))

/-- There is one record for each row, in their order, and it has all the columns, each under its short
name, as long as no column is called by the short name of another one. -/
theorem records_columns {rows out : List Value}
    (named : ∀ row ∈ rows, ∀ es, row.entries? = some es → NamedColumns es)
    (made : r.records (.ofText? primary) chosen rows = .ok out) :
    List.Forall₂ (r.KeepsColumns primary chosen) rows out := by
  refine ((List.forall₂_and_left _ _).mpr ⟨named, records_eq_ok made⟩).imp fun row x found => ?_
  obtain ⟨named, es, entries, made⟩ := found
  refine ⟨es, entries, (recordOfRow_eq_ok made).imp_right fun ⟨several, cols, become, map⟩ => ?_⟩
  have apart : ColumnsApart primary es ↔ _ := columnsApart_iff (named es entries)
  have keys := keys_of_becomes become
  have texts : ∀ k ∈ cols.map Prod.fst, ∃ s, k = .text s := by
    intro k member
    rw [keys] at member
    obtain ⟨l, inside, rfl⟩ := List.mem_map.mp member
    obtain ⟨s, rfl⟩ := (named es entries).texts l inside
    exact ⟨_, rfl⟩
  rw [← keys] at apart
  refine ⟨several, cols, become, map, fun distinct => ?_, fun repeated => ?_⟩
  · exact ofEntries_distinct (distinctKeys_of_texts texts (apart.mp distinct))
  · rw [become.length_eq]
    exact length_ofEntries_lt texts (mt apart.mpr repeated)

/-- A row of columns, one of which has the primary node in front of it. -/
theorem records_columns_prefixed :
    let row : Row := [(.text "reader.name", .text "jd"), (.text "other.name", .text "x"),
      (.text "total", .int 3)]
    let record : Row := [(.text "name", .text "jd"), (.text "other.name", .text "x"),
      (.text "total", .int 3)]
    NamedColumns row ∧
      Registry.empty.records (.text "reader") .null [.ofPairs row] = .ok [.ofPairs record] ∧
      List.Forall₂ (Registry.empty.KeepsColumns (some "reader") .null) [.ofPairs row]
        [.ofPairs record] := by
  intro row record
  have named : NamedColumns row := by
    refine ⟨fun k member => ?_, ?_⟩
    · simp only [row, List.map_cons, List.map_nil, List.mem_cons, List.not_mem_nil, or_false] at member
      rcases member with rfl | rfl | rfl <;> exact ⟨_, rfl⟩
    · simp [row]
  have made : Registry.empty.records (.text "reader") .null [.ofPairs row] = .ok [.ofPairs record] := by
    rfl
  refine ⟨named, made, records_columns (fun row' member es entries => ?_) made⟩
  obtain rfl := List.mem_singleton.mp member
  obtain rfl := Option.some.inj entries
  exact named

/-- Of an identity and a property that is called `id` only the property is left. -/
theorem records_column_lost :
    let l := LiveQuery.afterCalls [.target (.text "User"),
      .select [.text "id", .column ⟨"id", none, false⟩]]
    l.statement.toOption = some "MATCH (user:User) RETURN id(user) AS id, user.id" ∧
      l.records .null [[(.text "id", .int 5), (.text "user.id", .int 7)]] =
        .ok [.ofPairs [(.text "id", .int 7)]] := by
  refine ⟨by decide +kernel, ?_⟩
  rfl

/-! ### What nodes become -/

/-- A record has become an entity of a class; where there is no class for it, it is what it was. -/
def HydratedAs (class? : Option EntityClass) (n : Record) (x : Value) : Prop :=
  match class? with
  | some c => ∃ e, c.ofRecord n = .ok e ∧ e.entityClass = c.id ∧ x = .entity e
  | none => x = .record n

theorem entityClass_of_make {c : EntityClass} {given : Properties} {e : Entity}
    (made : c.make given = .ok e) : e.entityClass = c.id := by
  unfold EntityClass.make at made
  cases fields : Schema.readFields given c.fields with
  | error issues =>
    rw [fields] at made
    cases made
  | ok read =>
    rw [fields] at made
    cases made
    rfl

theorem entityClass_of_ofRecord {c : EntityClass} {n : Record} {e : Entity}
    (made : c.ofRecord n = .ok e) : e.entityClass = c.id := by
  obtain ⟨e', entity, rest⟩ := Result.bind_eq_ok made
  obtain rfl := Except.ok.inj rest
  have own : e'.entityClass = c.id := entityClass_of_make (Result.ofChecked_eq_ok entity)
  exact own

theorem hydrate_eq_ok {v : Value} {n : Record} {x : Value} (hydrated : r.hydrate v (.record n) = .ok x) :
    ∃ class?, r.classFor? v n.labels = .ok class? ∧ HydratedAs class? n x := by
  obtain ⟨class?, found, made⟩ := Result.bind_eq_ok hydrated
  refine ⟨class?, found, ?_⟩
  cases class? with
  | none => exact (Except.ok.inj made).symm
  | some c =>
    obtain ⟨e, entity, rfl⟩ := Result.map_eq_ok made
    exact ⟨e, entity, entityClass_of_ofRecord entity, rfl⟩

/-- The record of a row when nodes are to become entities of a class: a node does so if it is all that
the row holds or stands under the primary name, and any other one becomes what its labels say. -/
def Registry.ClassesNodes (r : Registry) (primary : Option String) (c : EntityClass) (row x : Value) :
    Prop :=
  ∃ es, row.entries? = some es ∧ ((∃ n, LoneNode es n ∧ HydratedAs (some c) n x) ∨
    (∀ n, ¬ LoneNode es n) ∧ ∃ cols, x = .ofPairs (ofEntries cols) ∧
      List.Forall₂ (fun column entry => entry.1 = shortKey primary column.1 ∧
        ∀ n, toRecord column.2 = .ok (.record n) →
          (column.1 = .ofText? primary → HydratedAs (some c) n entry.2) ∧
          (column.1 ≠ .ofText? primary →
            HydratedAs (r.forLabels? (n.labels.map .text)) n entry.2)) es cols)

theorem same_null_iff (k : Value) : k.same .null = true ↔ k = .null := by
  cases k with
  | null => exact ⟨fun _ => rfl, fun _ => rfl⟩
  | double x =>
    refine ⟨fun h => ?_, fun h => Value.noConfusion h⟩
    change numberSame (.double x) .null = true at h
    unfold numberSame at h
    cases e : (Value.double x).ratio? <;> rw [e] at h <;> exact Bool.noConfusion h
  | stream xs mark =>
    cases mark <;> exact ⟨fun h => Bool.noConfusion h, fun h => Value.noConfusion h⟩
  | path nodes links =>
    cases nodes <;> exact ⟨fun h => Bool.noConfusion h, fun h => Value.noConfusion h⟩
  | _ => exact ⟨fun h => Bool.noConfusion h, fun h => Value.noConfusion h⟩

theorem same_ofText?_iff (s? : Option String) (k : Value) :
    k.same (.ofText? s?) = true ↔ k = .ofText? s? := by
  cases s? with
  | some s => exact same_text_iff s k
  | none => exact same_null_iff k

/-- A node under the primary name becomes an entity of the chosen class, and a node under any other name
what its labels say, as long as it is not all that its row holds. -/
theorem records_classes {ref : ClassRef Value} {c : EntityClass} (known : r.find? ref.id = some c)
    {rows out : List Value}
    (made : r.records (.ofText? primary) (.entityClass ref) rows = .ok out) :
    List.Forall₂ (r.ClassesNodes primary c) rows out := by
  have chosen : ∀ {n x}, r.hydrate (.entityClass ref) (.record n) = .ok x → HydratedAs (some c) n x := by
    intro n x hydrated
    obtain ⟨class?, found, as⟩ := hydrate_eq_ok hydrated
    obtain rfl := Except.ok.inj found
    exact known ▸ as
  refine (records_eq_ok made).imp fun row x found => ?_
  obtain ⟨es, entries, made⟩ := found
  refine ⟨es, entries, ?_⟩
  rcases recordOfRow_eq_ok made with ⟨n, lone, hydrated⟩ | ⟨several, cols, become, rfl⟩
  · exact Or.inl ⟨n, lone, chosen hydrated⟩
  · refine Or.inr ⟨several, cols, rfl, become.imp fun column entry h => ⟨h.1, fun n node => ?_⟩⟩
    obtain ⟨-, v, converted, hydrated⟩ := h
    obtain rfl : v = .record n := Except.ok.inj (converted.symm.trans node)
    constructor
    · intro own
      rw [if_pos ((same_ofText?_iff _ _).mpr own)] at hydrated
      exact chosen hydrated
    · intro other
      rw [if_neg (mt (same_ofText?_iff _ _).mp other)] at hydrated
      obtain ⟨class?, found, as⟩ := hydrate_eq_ok hydrated
      obtain rfl := Except.ok.inj found
      exact as

/-- The class of readers, which are users, and the registry with this class alone. -/
def readers : EntityClass × Registry := Registry.empty.define "Reader" none [] (some [.text "User"])

/-- A driver node with a label. -/
def driverNode (id : Int) (label : String) : Value := .node ⟨.int id, .null, [label], []⟩

/-- A reader beside a post. -/
theorem records_classes_beside :
    let row : Row := [(.text "user", driverNode 1 "User"), (.text "post", driverNode 9 "Post")]
    let record : Row := [(.text "user", .entity ⟨⟨0⟩, "Reader", .int 1, [], [], [], none, none, ["id"]⟩),
      (.text "post", .record ⟨some 9, ["Post"], [], [], none, none, ["id", "labels", "properties"]⟩)]
    readers.2.find? (readers.2.ref readers.1).id = some readers.1 ∧
      readers.2.records (.text "user") (.entityClass (readers.2.ref readers.1)) [.ofPairs row] =
        .ok [.ofPairs record] ∧
      List.Forall₂ (readers.2.ClassesNodes (some "user") readers.1) [.ofPairs row] [.ofPairs record] := by
  intro row record
  have made : readers.2.records (.text "user") (.entityClass (readers.2.ref readers.1)) [.ofPairs row] =
      .ok [.ofPairs record] := by
    with_unfolding_all rfl
  exact ⟨rfl, made, records_classes rfl made⟩

/-- A post that is all its row holds becomes a reader. -/
theorem records_classes_alone :
    readers.2.records (.text "user") (.entityClass (readers.2.ref readers.1))
        [.ofPairs [(.text "post", driverNode 9 "Post")]] =
      .ok [.entity ⟨⟨0⟩, "Reader", .int 9, [], [], [], none, none, ["id"]⟩] ∧
    readers.2.forLabels? [.text "Post"] = none := by
  exact ⟨rfl, by with_unfolding_all rfl⟩

end GraphQuery
