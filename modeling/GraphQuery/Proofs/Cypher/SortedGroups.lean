import GraphQuery.Proofs.Cypher.GroupNames

/-! # Sort keys behind groups

Behind a stage that groups rows only the names that it gives are left.  A sort key that is a text stands
for a name if it is that name letter by letter, while a group column is resolved, and its name is quoted.
So one column can be a name in the stage and an expression in the order, which reads a node that is gone.

* `SortsAs` : a sort key is a name of the stage, or else an expression (`sortText_eq_ok`);
* `SortsByName` : when a column that a stage carries on is its name (`SortsAs.eq_name_iff`);
* `selectText_groupOrder` : the order of every select of a union that groups rows. -/

namespace GraphQuery.Cypher

open GraphQuery GraphQuery.Text

/-! ### Names and expressions -/

/-- An identity is written with brackets, which no name has outside of quotes. -/
theorem identity_ne_quote (owner name : String) : "id(" ++ owner ++ ")" ≠ quote name := by
  intro same
  have chars : 'i' :: 'd' :: '(' :: (owner.toList ++ [')']) = quoteChars name.toList := by
    have whole := congrArg String.toList same
    rw [quote, String.toList_ofList, String.toList_append, String.toList_append] at whole
    exact whole
  unfold quoteChars at chars
  split at chars
  · next plain =>
    have bracket : isNameStart '(' = false := by decide
    rw [← chars] at plain
    simp [isPlainName, isPlainRest, isNamePart, bracket] at plain
  · exact absurd (List.cons.inj chars).1 (by decide)

theorem columnText_ne_quote {c : ColumnRef} {owner text : String} (owned : c.owner? = some owner)
    (h : columnText c = .ok text) : text ≠ quote c.name := by
  cases columnText_eq_ok_iff.mp h with
  | identity => exact identity_ne_quote _ c.name
  | property =>
    intro same
    have lengths := congrArg String.length same
    simp only [String.length_append] at lengths
    have : ".".length = 1 := rfl
    omega
  | bare _ free => cases free.symm.trans owned

theorem columnText_eq_quote {c : ColumnRef} {text : String} (free : c.owner? = none)
    (h : columnText c = .ok text) : text = quote c.name := by
  cases columnText_eq_ok_iff.mp h with
  | identity _ owned | property _ owned => cases free.symm.trans owned
  | bare => rfl

/-! ### Sort keys -/

section SortKeys

variable {q : Query} {names : List String} {column : Value} {item text : String} {what : Carried}

theorem mapM_sortText_eq_ok {members : List (Member SortKey)} {texts : List String}
    (h : (members.mapM fun key => do sortText q names (← key.need "column")) = .ok texts) :
    ∃ keys items, members = keys.map .clause ∧
      List.Forall₂ (fun key item => SortsAs q names key.column item) keys items ∧
      texts = List.zipWith directedItem keys items := by
  have each := Result.forall₂_of_mapM h
  clear h
  induction each with
  | nil => exact ⟨[], [], rfl, .nil, rfl⟩
  | @cons member _ _ _ first _ ih =>
    obtain ⟨key, own, written⟩ := Result.bind_eq_ok first
    obtain rfl := Member.eq_clause_of_need own
    obtain ⟨item, sorts, rfl⟩ := sortText_eq_ok written
    obtain ⟨keys, items, rfl, others, rfl⟩ := ih
    exact ⟨key :: keys, item :: items, rfl, .cons sorts others, rfl⟩

/-- When a column that a stage carries on is written as its name: it is that name itself, or a column
without a node that is no other name of the stage. -/
inductive SortsByName (names : List String) (column : Value) (what : Carried) : Prop
  | spelled : column = .text what.name → SortsByName names column what
  | free {c : ColumnRef} : what = .column c → c.owner? = none → (∀ s ∈ names, column ≠ .text s) →
      column ≠ star → SortsByName names column what

/-- A column as an expression: the star, a placeholder, or the text of the column that a group of it carries
on. -/
theorem expressionText_eq_ok (found : groupColumn q column = .ok what)
    (h : expressionText q column = .ok item) :
    (column = star ∧ column = .text item) ∨ (what = .named item ∧ column = .text item) ∨
      ∃ c, what = .column c ∧ column ≠ star ∧ columnText c = .ok item := by
  unfold groupColumn at found
  cases expresses_of_expressionText h with
  | star starred => exact Or.inl ⟨starred, starred⟩
  | node own _ knows =>
    subst own
    dsimp only at found
    rw [knows] at found
    exact Or.inr (Or.inl ⟨(Except.ok.inj found).symm, rfl⟩)
  | @resolved c _ other unknown reference shown =>
    refine Or.inr (Or.inr ⟨c, ?_, other, shown⟩)
    split at found
    · next s =>
      rw [unknown s rfl, reference] at found
      exact (Except.ok.inj found).symm
    · rw [reference] at found
      exact (Except.ok.inj found).symm

theorem SortsAs.eq_name_iff (h : SortsAs q names column item) (found : groupColumn q column = .ok what)
    (carried : what.name ∈ names) : item = what.name ↔ SortsByName names column what := by
  constructor
  · rintro rfl
    cases h with
    | name own _ => exact .spelled own
    | expression outside written =>
      rcases expressionText_eq_ok found written with ⟨-, own⟩ | ⟨-, own⟩ | ⟨c, rfl, other, shown⟩
      · exact .spelled own
      · exact .spelled own
      · refine .free rfl ?_ outside other
        by_contra owned
        obtain ⟨owner, owned⟩ := Option.ne_none_iff_exists'.mp owned
        exact columnText_ne_quote owned shown rfl
  · intro sorts
    cases h with
    | name own inside =>
      cases sorts with
      | spelled same => exact Value.text.inj (own.symm.trans same)
      | free _ _ outside _ => exact absurd own (outside _ inside)
    | expression outside written =>
      cases sorts with
      | spelled same => exact absurd same (outside _ carried)
      | free is_column none _ other =>
        subst is_column
        rcases expressionText_eq_ok found written with ⟨starred, -⟩ | ⟨named, -⟩ | ⟨c, same, -, shown⟩
        · exact absurd starred other
        · cases named
        · obtain rfl := Carried.column.inj same
          exact columnText_eq_quote none shown

end SortKeys

/-! ### The order of a select -/

section Order

variable {write : String → String} {q : Query} {conditions : Conditions} {names : Option (List String)}
  {text : String} {columns : List String}

theorem orderText_eq_ok (h : orderText q = .ok text) (ordered : q.hasSortKeys = true) :
    ∃ names keys items, carriedNames q = .ok names ∧ q.sortKeys = keys.map .clause ∧
      List.Forall₂ (fun key item => SortsAs q names key.column item) keys items ∧
      text = "ORDER BY " ++ joined ", " (List.zipWith directedItem keys items) := by
  unfold orderText at h
  rw [ordered] at h
  obtain ⟨names, carried, h⟩ := Result.bind_eq_ok h
  obtain ⟨-, -, h⟩ := Result.bind_eq_ok h
  obtain ⟨texts, written, h⟩ := Result.bind_eq_ok h
  obtain ⟨keys, items, own, sorts, rfl⟩ := mapM_sortText_eq_ok written
  exact ⟨names, keys, items, carried, own, sorts, (Except.ok.inj h).symm⟩

/-- A select that groups rows and orders them is written with a sort key for each of its own.  Those of
columns that its stage carries on are the names of these exactly as `SortsByName` tells. -/
def SortsGroups (q : Query) (select : String) : Prop :=
  q.hasStages = false → isStaged q = true → q.hasSortKeys = true →
    ∃ carried keys items front skip limit, carriedColumns q = .ok carried ∧
      q.sortKeys = keys.map .clause ∧
      select = spaced (front ++ ["ORDER BY " ++ joined ", " (List.zipWith directedItem keys items),
        skip, limit]) ∧
      List.Forall₂ (fun key item => ∀ what ∈ carried, groupColumn q key.column = .ok what →
        (item = what.name ↔ SortsByName (carried.map Carried.name) key.column what)) keys items

theorem sortsGroups (h : singleSelect write q conditions names = .ok (text, columns)) :
    SortsGroups q text := by
  intro unstaged staged ordered
  obtain ⟨-, -, groups, front, items, -, -, -, -, written, carries, -, -, -⟩ :=
    singleSelect_grouped h unstaged staged
  obtain ⟨carried, found, -, named⟩ := carriedColumns_of_carriesItems written carries
  obtain ⟨stage, seen, texts, -, after, rfl⟩ := singleSelect_eq_ok h
  obtain ⟨middle, projection, -, order, skip, limit, -, -, sorted, -, -, rfl, -⟩ :=
    afterStage_eq_ok after
  obtain ⟨own, keys, shown, same, sortKeys, sorts, rfl⟩ := orderText_eq_ok sorted ordered
  obtain rfl := Except.ok.inj (same.symm.trans (named staged))
  refine ⟨carried, keys, shown, [stage, middle, projection], skip, limit, found, sortKeys, rfl,
    sorts.imp fun key item sorts what member resolves => ?_⟩
  exact sorts.eq_name_iff resolves (List.mem_map_of_mem member)

/-- Every select of a union that groups rows orders them by the names of its groups as far as its sort
keys are these names, or columns without a node. -/
theorem selectText_groupOrder (h : selectText write q = .ok text) :
    ∃ first names selects, IsUnion write q text first names selects ∧
      (q.hasGroups = true → q.unionStart = q) ∧ SortsGroups q.unionStart first ∧
      List.Forall₂ (fun b select => ∃ other, b.query.query? = some other ∧ SortsGroups other select)
        q.branches selects := by
  obtain ⟨first, names, selects, union⟩ := isUnion_of_selectText h
  refine ⟨first, names, selects, union, fun grouped => unionStart_of_isStaged h ?_,
    sortsGroups union.begins, union.goesOn.imp ?_⟩
  · rw [isStaged, grouped, Bool.true_or]
  · rintro b select ⟨other, columns, found, written⟩
    exact ⟨other, found, sortsGroups written⟩

end Order

/-- A column that is its own name, and a node. -/
theorem selectText_groupOrder_spelled :
    let q := (LiveQuery.afterCalls [.target (.text "User"),
      .groupBy [.text "user.name", .text "user"], .orderBy (.text "name") (.text "asc"),
      .orderBy (.text "user") (.text "desc")]).query
    let text := "MATCH (user:User) WITH DISTINCT user.name AS name, user RETURN name, user " ++
      "ORDER BY name ASC, user DESC"
    selectText parameter q = .ok text ∧
    ∃ first names selects, IsUnion parameter q text first names selects ∧
      (q.hasGroups = true → q.unionStart = q) ∧ SortsGroups q.unionStart first ∧
      List.Forall₂ (fun b select => ∃ other, b.query.query? = some other ∧ SortsGroups other select)
        q.branches selects := by
  intro q text
  have written : selectText parameter q = .ok text := Result.of_toOption (by decide +kernel)
  exact ⟨written, selectText_groupOrder written⟩

/-- A column that is grouped and ordered by under the same text is read from its node in the order, since
its name is quoted. -/
theorem selectText_groupOrder_quoted :
    let q := (LiveQuery.afterCalls [.target (.text "User"), .groupBy [.text "first name"],
      .orderBy (.text "first name") (.text "asc")]).query
    let what : Carried := .column ⟨"first name", some "user", false⟩
    q.hasStages = false ∧ (carriedColumns q).toOption = some [what] ∧
    (groupColumn q (.text "first name")).toOption = some what ∧ what.name = "`first name`" ∧
    (selectText parameter q).toOption = some ("MATCH (user:User) " ++
      "WITH DISTINCT user.`first name` AS `first name` RETURN `first name` " ++
      "ORDER BY user.`first name` ASC") ∧
    (orderText q).toOption ≠ some ("ORDER BY " ++ what.name ++ " ASC") := by
  decide +kernel

end GraphQuery.Cypher
