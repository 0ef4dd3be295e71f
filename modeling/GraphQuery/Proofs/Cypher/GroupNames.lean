import GraphQuery.Proofs.Cypher.ColumnNames
import GraphQuery.Proofs.Cypher.GroupConditions

/-! # The names of groups

A stage that groups rows carries on a node under its placeholder, any other column under the name of its
property alone, and the aggregate under its label.  The node of a column and whether it is an identity are
lost in its name, so different columns can be carried on under one name.

* `Carried.Clashes` : two carried columns with one name (`name_eq_iff`);
* `ShowsGroups` : the names that the stage of a select gives, which its projection returns;
* `selectText_groupNames` : for every select of a union, when these names are different. -/

namespace GraphQuery.Cypher

open GraphQuery GraphQuery.Text

theorem quote_injective : Function.Injective quote := by
  intro name name' same
  have chars := congrArg (fun s => unquoted s.toList) same
  simp only [quote, String.toList_ofList, unquoted_quoteChars] at chars
  exact String.toList_injective chars

/-! ### Carried columns -/

/-- What a stage carries on: something with a name of its own, which is a node or an aggregate, or a
column. -/
inductive Carried where
  | named (name : String)
  | column (c : ColumnRef)
deriving DecidableEq

namespace Carried

/-- The name under which something is carried on. -/
def name : Carried → String
  | .named name => name
  | .column c => quote c.name

/-- Two carried columns with one name: columns with one property, whatever their nodes are, or a name of
its own that the other one has too. -/
inductive Clashes : Carried → Carried → Prop
  | names {name : String} : Clashes (.named name) (.named name)
  | columns {c c' : ColumnRef} : c.name = c'.name → Clashes (.column c) (.column c')
  | forward {name : String} {c : ColumnRef} : name = quote c.name → Clashes (.named name) (.column c)
  | backward {name : String} {c : ColumnRef} : name = quote c.name → Clashes (.column c) (.named name)

theorem name_eq_iff {a b : Carried} : a.name = b.name ↔ a.Clashes b := by
  constructor
  · intro same
    cases a with
    | named name =>
      cases b with
      | named name' =>
        obtain rfl : name = name' := same
        exact .names
      | column c => exact .forward same
    | column c =>
      cases b with
      | named name => exact .backward same.symm
      | column c' => exact .columns (quote_injective same)
  · intro clashes
    cases clashes with
    | names => rfl
    | columns same => exact congrArg quote same
    | forward same => exact same
    | backward same => exact same.symm

theorem nodup_names_iff {carried : List Carried} :
    (carried.map name).Nodup ↔ carried.Pairwise fun a b => ¬ a.Clashes b := by
  rw [List.Nodup, List.pairwise_map]
  exact List.Pairwise.iff fun _ _ => not_congr name_eq_iff

end Carried

/-- What a group column carries on: the node with this placeholder, or the column that it resolves to. -/
def groupColumn (q : Query) (column : Value) : Result Carried :=
  match column with
  | .text s => do if ← q.knows s then return .named s else return .column (← q.resolve column)
  | _ => do return .column (← q.resolve column)

/-- Whether an item shows something under its name: on its own, or behind an expression. -/
def Shows (item : String) (c : Carried) : Prop :=
  item = c.name ∨ ∃ expression, item = renamed expression c.name

/-- What the stage of a query carries on: its groups, and then its aggregate. -/
def carriedColumns (q : Query) : Result (List Carried) := do
  let groups ← q.groups.mapM (groupColumn q)
  match q.aggregate with
  | some a => return groups ++ [.named (← a.need "alias").label]
  | none => return groups

section Stage

variable {write : String → String} {q : Query} {conditions : Conditions} {names : Option (List String)}
  {text : String} {columns : List String}

/-- A group column is called like what it carries on. -/
theorem groupName_eq (q : Query) (column : Value) :
    groupName q column = (groupColumn q column).map Carried.name := by
  have resolved (column : Value) : (do return quote (← q.resolve column).name : Result String) =
      (do return Carried.column (← q.resolve column) : Result Carried).map Carried.name := by
    cases q.resolve column <;> rfl
  unfold groupName groupColumn
  cases column with
  | text s =>
    dsimp only
    cases q.knows s with
    | error e => rfl
    | ok known =>
      cases known with
      | false =>
        -- by hand, since unification would unfold how the column is resolved
        rw [show (.ok false : Result Bool) = pure false from rfl, pure_bind, pure_bind,
          if_neg Bool.false_ne_true, if_neg Bool.false_ne_true]
        exact resolved (.text s)
      | true => rfl
  | _ => exact resolved _

theorem groupItem_eq_ok {column : Value} {item : String} (h : groupItem q column = .ok item) :
    ∃ c, groupColumn q column = .ok c ∧ groupName q column = .ok c.name ∧ Shows item c := by
  obtain ⟨expression, -, h⟩ := Result.bind_eq_ok h
  obtain ⟨name, named, h⟩ := Result.bind_eq_ok h
  obtain ⟨c, found, rfl⟩ := Result.map_eq_ok ((groupName_eq q column).symm.trans named)
  refine ⟨c, found, named, ?_⟩
  obtain rfl := Except.ok.inj h
  split
  · next same => exact Or.inl same
  · exact Or.inr ⟨expression, rfl⟩

theorem mapM_groupItem_eq_ok : ∀ {groups : List Value} {items : List String},
    groups.mapM (groupItem q) = .ok items → ∃ carried, groups.mapM (groupColumn q) = .ok carried ∧
      groups.mapM (groupName q) = .ok (carried.map Carried.name) ∧ List.Forall₂ Shows items carried
  | [], items, h => by
    obtain rfl := Except.ok.inj h
    exact ⟨[], rfl, rfl, .nil⟩
  | column :: rest, items, h => by
    rw [List.mapM_cons] at h
    obtain ⟨item, first, h⟩ := Result.bind_eq_ok h
    obtain ⟨others, following, h⟩ := Result.bind_eq_ok h
    obtain rfl := Except.ok.inj h
    obtain ⟨c, found, named, shows⟩ := groupItem_eq_ok first
    obtain ⟨carried, found', named', shows'⟩ := mapM_groupItem_eq_ok following
    refine ⟨c :: carried, ?_, ?_, .cons shows shows'⟩
    · rw [List.mapM_cons, found, found']
      rfl
    · rw [List.mapM_cons, named, named']
      rfl

/-- The stage of a select that groups rows shows its columns one by one, and the projection goes on with
their names, in a branch of a union under those of the first select. -/
structure ShowsGroups (write : String → String) (q : Query) (names : Option (List String))
    (carried : List Carried) (select : String) : Prop where
  columns : carriedColumns q = .ok carried
  shown : ∃ stage front items filter returned seen rest, List.Forall₂ Shows items carried ∧
    returnItems q seen = .ok (carried.map Carried.name) ∧
    Projects write q seen names (itemsText q returned) returned ∧
    select = spaced (stage :: (front ++ joined ", " items ++ filter) :: itemsText q returned :: rest)

/-- The items of a stage show what it carries on, and its names are those of the columns. -/
theorem carriedColumns_of_carriesItems {groups items : List String} {front : String}
    (written : groupTexts q groupItem = .ok groups) (carries : CarriesItems write q groups front items) :
    ∃ carried, carriedColumns q = .ok carried ∧ List.Forall₂ Shows items carried ∧
      (isStaged q = true → carriedNames q = .ok (carried.map Carried.name)) := by
  obtain ⟨_, walked, written⟩ := Result.bind_eq_ok written
  obtain ⟨keys, found, named, shows⟩ := mapM_groupItem_eq_ok written
  have names : groupTexts q groupName = .ok (keys.map Carried.name) := by
    rw [groupTexts, walked]
    exact named
  cases carries with
  | distinct own =>
    refine ⟨keys, ?_, shows, fun staged => ?_⟩
    · rw [carriedColumns, found, own]
      rfl
    · rw [carriedNames, if_pos staged, names, own]
      rfl
  | @aggregated a expression b own _ labelled =>
    refine ⟨keys ++ [.named b.label], ?_, ?_, fun staged => ?_⟩
    · rw [carriedColumns, found, own]
      show (do return keys ++ [.named (← a.need "alias").label] : Result (List Carried)) = _
      rw [labelled]
      rfl
    · exact List.rel_append shows (.cons (Or.inr ⟨expression, rfl⟩) .nil)
    · rw [carriedNames, if_pos staged, names, own, List.map_append]
      show (do return keys.map Carried.name ++ [(← a.need "alias").label] : Result (List String)) = _
      rw [labelled]
      rfl

theorem showsGroups (h : singleSelect write q conditions names = .ok (text, columns))
    (unstaged : q.hasStages = false) (staged : isStaged q = true) :
    ∃ carried, ShowsGroups write q names carried text := by
  obtain ⟨stage, seen, groups, front, items, whole, returned, rest, -, written, carries, filters,
    projects, rfl⟩ := singleSelect_grouped h unstaged staged
  obtain ⟨carried, found, shows, named⟩ := carriedColumns_of_carriesItems written carries
  have returns : returnItems q seen = .ok (carried.map Carried.name) := by
    rw [returnItems, if_pos staged, named staged]
  obtain ⟨filter, rfl⟩ : ∃ filter, whole = front ++ joined ", " items ++ filter := by
    cases filters with
    | all => exact ⟨"", (String.append_empty).symm⟩
    | @filtered condition => exact ⟨" WHERE " ++ condition, String.append_assoc ..⟩
  exact ⟨carried, found, stage, front, items, filter, returned, seen, rest, shows, returns, projects, rfl⟩

/-! ### The names of a union -/

/-- The stage of a select gives different names to what it carries on exactly if none of that clashes. -/
def NamesGroups (write : String → String) (q : Query) (names : Option (List String)) (select : String) :
    Prop :=
  q.hasStages = false → isStaged q = true → ∃ carried, ShowsGroups write q names carried select ∧
    ((carried.map Carried.name).Nodup ↔ carried.Pairwise fun a b => ¬ a.Clashes b)

theorem namesGroups (h : singleSelect write q conditions names = .ok (text, columns)) :
    NamesGroups write q names text := by
  intro unstaged staged
  obtain ⟨carried, shows⟩ := showsGroups h unstaged staged
  exact ⟨carried, shows, Carried.nodup_names_iff⟩

/-- Every select of a union that groups rows shows its groups and its aggregate under their names.  These
are different exactly if no two columns have one property, and no column has the name of a node or of the
aggregate. -/
theorem selectText_groupNames (h : selectText write q = .ok text) :
    ∃ first names selects, IsUnion write q text first names selects ∧
      (q.hasGroups = true → q.unionStart = q) ∧ NamesGroups write q.unionStart none first ∧
      List.Forall₂ (fun b select => ∃ other, b.query.query? = some other ∧
        NamesGroups write other (some names) select) q.branches selects := by
  obtain ⟨first, names, selects, union⟩ := isUnion_of_selectText h
  refine ⟨first, names, selects, union, fun grouped => unionStart_of_isStaged h ?_,
    namesGroups union.begins, union.goesOn.imp ?_⟩
  · rw [isStaged, grouped, Bool.true_or]
  · rintro b select ⟨other, columns, found, written⟩
    exact ⟨other, found, namesGroups written⟩

end Stage

/-- Two columns of different nodes, a node, and an aggregate. -/
theorem selectText_groupNames_apart :
    let q := (LiveQuery.afterCalls [.target (.text "User"),
      .relation (.text "User") (.text "Post") (.text "post") (.text "POSTED") .null .null
        (.text "out") Call.andName,
      .groupBy [.text "user.name", .text "post.id", .text "post"],
      .setAggregate (some ⟨"count", [star], "aggregate", none⟩)]).query
    let text := "MATCH (user:User) MATCH (user)-[rel_posted_post:POSTED]->(post:Post) " ++
      "WITH user.name AS name, id(post) AS id, post, count(*) AS aggregate " ++
      "RETURN name, id, post, aggregate"
    selectText parameter q = .ok text ∧
    ∃ first names selects, IsUnion parameter q text first names selects ∧
      (q.hasGroups = true → q.unionStart = q) ∧ NamesGroups parameter q.unionStart none first ∧
      List.Forall₂ (fun b select => ∃ other, b.query.query? = some other ∧
        NamesGroups parameter other (some names) select) q.branches selects := by
  intro q text
  have written : selectText parameter q = .ok text := Result.of_toOption (by decide +kernel)
  exact ⟨written, selectText_groupNames written⟩

/-- One property of two nodes has one name, although the columns are different. -/
theorem selectText_groupNames_merged :
    let q := (LiveQuery.afterCalls [.target (.text "User"),
      .relation (.text "User") (.text "Post") (.text "post") (.text "POSTED") .null .null
        (.text "out") Call.andName,
      .groupBy [.text "user.name", .text "post.name"],
      .setAggregate (some ⟨"count", [star], "aggregate", none⟩)]).query
    let carried : List Carried := [.column ⟨"name", some "user", false⟩,
      .column ⟨"name", some "post", false⟩, .named "aggregate"]
    q.hasStages = false ∧ (selectText parameter q).toOption =
      some ("MATCH (user:User) MATCH (user)-[rel_posted_post:POSTED]->(post:Post) " ++
        "WITH user.name AS name, post.name AS name, count(*) AS aggregate " ++
        "RETURN name, name, aggregate") ∧
    (carriedColumns q).toOption = some carried ∧ carried.Nodup ∧ ¬ (carried.map Carried.name).Nodup := by
  decide +kernel

end GraphQuery.Cypher
