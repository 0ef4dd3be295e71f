import GraphQuery.Proofs.Cypher.Unions
import GraphQuery.Proofs.Cypher.WrittenPatterns
import GraphQuery.Proofs.Query.PlainNames

/-! # The names of result columns

A result has a column for every item of a select.  Its name is what stands behind the mark ` AS `, or
the text of the item; a mark between back quotes belongs to a name (`resultName`).  The names that the
branches of a union are given are found in the texts of the first select by the last mark wherever it
stands (`columnName`), and items are cut there.  Both are the same for items that are *legible*.

* `alignItem_resultName` : a legible item gets the name that it is given;
* `returnItems_isLegible` : the items of a select are legible if it lists columns of plain nodes by names
  that hold no mark (`ListsPlainColumns`);
* `selectText_columns` : the branches of a union have as many items as the first select, with the same
  names if all of them are legible. -/

namespace GraphQuery.Cypher

open GraphQuery GraphQuery.Text

/-! ### Reading names -/

/-- Whether a quotation is open behind some characters. Two back quotes inside one close it and open
it again. -/
def quotedBehind : Bool → List Char → Bool
  | quoted, [] => quoted
  | quoted, c :: cs => quotedBehind (quoted != (c == backquote)) cs

/-- Cuts an item at the last mark outside quotations. -/
def cutOutside : Bool → List Char → Option (List Char × List Char)
  | _, [] => none
  | quoted, c :: cs =>
    match cutOutside (quoted != (c == backquote)) cs with
    | some (before, after) => some (c :: before, after)
    | none =>
      if !quoted && asMark.isPrefixOf (c :: cs) then some ([], (c :: cs).drop asMark.length)
      else none

/-- The name of a column in the results. -/
def resultName (item : String) : String :=
  match cutOutside false item.toList with
  | some (_, name) => String.ofList (unquoted name)
  | none => item

/-- Whether an item has its last mark outside quotations, if there is one, and leaves none open. -/
structure IsLegible (item : String) : Prop where
  cut : splitAtLastText asMark item.toList = cutOutside false item.toList
  closed : quotedBehind false (itemExpression item).toList = false

instance (item : String) : Decidable (IsLegible item) :=
  decidable_of_iff (splitAtLastText asMark item.toList = cutOutside false item.toList ∧
    quotedBehind false (itemExpression item).toList = false) ⟨fun h => ⟨h.1, h.2⟩, fun h => ⟨h.1, h.2⟩⟩

theorem IsLegible.resultName {item : String} (h : IsLegible item) :
    resultName item = columnName item := by
  unfold Cypher.resultName columnName
  cases found : cutOutside false item.toList <;> simp only [h.cut, found]

theorem quotedBehind_append (quoted : Bool) (cs ds : List Char) :
    quotedBehind quoted (cs ++ ds) = quotedBehind (quotedBehind quoted cs) ds := by
  induction cs generalizing quoted with
  | nil => rfl
  | cons c cs ih => exact ih _

theorem cutOutside_append {ds before after : List Char} : ∀ {quoted : Bool} {cs : List Char},
    cutOutside (quotedBehind quoted cs) ds = some (before, after) →
      cutOutside quoted (cs ++ ds) = some (cs ++ before, after)
  | _, [], h => h
  | quoted, c :: cs, h => by
    have rest : cutOutside (quoted != (c == backquote)) (cs ++ ds) = some (cs ++ before, after) :=
      cutOutside_append h
    rw [List.cons_append, cutOutside, rest]
    rfl

theorem splitAtLastText_append {mark ds before after : List Char}
    (h : splitAtLastText mark ds = some (before, after)) : ∀ cs : List Char,
      splitAtLastText mark (cs ++ ds) = some (cs ++ before, after)
  | [] => h
  | c :: cs => by
    rw [List.cons_append, splitAtLastText, splitAtLastText_append h cs]
    rfl

theorem cutOutside_eq_none {cs : List Char} (h : ¬ asMark <:+: cs) (quoted : Bool) :
    cutOutside quoted cs = none := by
  induction cs generalizing quoted with
  | nil => rfl
  | cons c cs ih =>
    obtain ⟨here, later⟩ := not_or.mp (mt List.infix_cons_iff.mpr h)
    rw [cutOutside, ih later]
    simp [here]

/-! ### Quoted names -/

theorem start_of_doubleBackquotes {mark : List Char} (plain : backquote ∉ mark) : ∀ {cs : List Char},
    mark <+: doubleBackquotes cs ++ [backquote] → mark <+: cs := by
  induction mark with
  | nil => exact fun _ => List.nil_prefix
  | cons d mark ih =>
    obtain ⟨other, plain⟩ := not_or.mp (mt List.mem_cons.mpr plain)
    intro cs h
    cases cs with
    | nil =>
      obtain ⟨same, -⟩ := List.cons_prefix_cons.mp h
      exact absurd same.symm other
    | cons c cs =>
      rw [doubleBackquotes] at h
      split at h
      · obtain ⟨same, -⟩ := List.cons_prefix_cons.mp h
        exact absurd same.symm other
      · obtain ⟨same, rest⟩ := List.cons_prefix_cons.mp h
        exact List.cons_prefix_cons.mpr ⟨same, ih plain rest⟩

/-- Quoting a name brings no mark into it. -/
theorem mark_of_doubleBackquotes {cs : List Char}
    (h : asMark <:+: doubleBackquotes cs ++ [backquote]) : asMark <:+: cs := by
  have plain : backquote ∉ asMark := by decide
  have here {cs : List Char} (h : asMark <+: doubleBackquotes cs ++ [backquote]) : asMark <:+: cs :=
    (start_of_doubleBackquotes plain h).isInfix
  have quoted {cs : List Char} : ¬ asMark <+: backquote :: cs := by simp [asMark, backquote]
  induction cs with
  | nil => exact absurd h (by decide)
  | cons c cs ih =>
    rw [doubleBackquotes] at h
    split at h
    · rcases List.infix_cons_iff.mp h with h | h
      · exact absurd h quoted
      · rcases List.infix_cons_iff.mp h with h | h
        · exact absurd h quoted
        · exact List.infix_cons (ih h)
    · next single =>
      rcases List.infix_cons_iff.mp h with h' | h'
      · exact here (by rwa [doubleBackquotes, if_neg single])
      · exact List.infix_cons (ih h')

theorem mark_of_quoteChars {cs : List Char} (h : asMark <:+: quoteChars cs) : asMark <:+: cs := by
  unfold quoteChars at h
  split at h
  · exact h
  · rcases List.infix_cons_iff.mp h with h | h
    · simp [asMark, backquote] at h
    · exact mark_of_doubleBackquotes h

theorem quotedBehind_doubleBackquotes (quoted : Bool) (cs : List Char) :
    quotedBehind quoted (doubleBackquotes cs) = quoted := by
  induction cs generalizing quoted with
  | nil => rfl
  | cons c cs ih =>
    rw [doubleBackquotes]
    split
    · simp [quotedBehind, ih]
    · next single => simp [quotedBehind, beq_eq_false_iff_ne.mpr single, ih]

theorem quotedBehind_of_plain {cs : List Char} (h : backquote ∉ cs) (quoted : Bool) :
    quotedBehind quoted cs = quoted := by
  induction cs with
  | nil => rfl
  | cons c cs ih =>
    obtain ⟨other, h⟩ := not_or.mp (mt List.mem_cons.mpr h)
    simp [quotedBehind, beq_eq_false_iff_ne.mpr (Ne.symm other), ih h]

theorem not_mem_of_isPlainName {cs : List Char} (h : isPlainName cs = true) {c : Char}
    (other : isNamePart c = false) (line : c ≠ '\n') : c ∉ cs := fun hc => by
  rcases isNamePart_of_mem_isPlainName h hc with part | same
  · rw [other] at part
    cases part
  · exact line same

theorem quotedBehind_quoteChars (quoted : Bool) (cs : List Char) :
    quotedBehind quoted (quoteChars cs) = quoted := by
  unfold quoteChars
  split
  · next plain =>
    exact quotedBehind_of_plain (not_mem_of_isPlainName plain (by decide) (by decide)) quoted
  · simp [quotedBehind, quotedBehind_append, quotedBehind_doubleBackquotes]

/-- Inside a quotation there is no mark. -/
theorem cutOutside_doubled (cs : List Char) :
    cutOutside true (doubleBackquotes cs ++ [backquote]) = none := by
  induction cs with
  | nil => decide
  | cons c cs ih =>
    have quoted (ds : List Char) : ¬ asMark <+: backquote :: ds := by simp [asMark, backquote]
    rw [doubleBackquotes]
    split
    · simp [cutOutside, ih, quoted]
    · next single => simp [cutOutside, beq_eq_false_iff_ne.mpr single, ih]

theorem cutOutside_quoteChars (cs : List Char) : cutOutside false (quoteChars cs) = none := by
  have quoted (ds : List Char) : ¬ asMark <+: backquote :: ds := by simp [asMark, backquote]
  unfold quoteChars
  split
  · next plain =>
    refine cutOutside_eq_none (fun mark => ?_) false
    exact not_mem_of_isPlainName plain (by decide) (by decide)
      (mark.subset (by decide : ' ' ∈ asMark))
  · simp [cutOutside, cutOutside_doubled, quoted]

theorem cutOutside_mark (cs : List Char) :
    cutOutside false (asMark ++ quoteChars cs) = some ([], quoteChars cs) := by
  have later : ¬ ['A', 'S', ' '] <+: quoteChars cs := by
    unfold quoteChars
    split
    · next plain =>
      exact fun mark => not_mem_of_isPlainName plain (by decide) (by decide)
        (mark.subset (by decide : ' ' ∈ ['A', 'S', ' ']))
    · simp [backquote]
  have mark : asMark = [' ', 'A', 'S', ' '] := rfl
  simp [mark, cutOutside, cutOutside_quoteChars, backquote] at later ⊢
  simp [later]

theorem unquoted_quoteChars (cs : List Char) : unquoted (quoteChars cs) = cs := by
  unfold quoteChars
  split
  · next plain =>
    refine if_neg fun ends => ?_
    exact not_mem_of_isPlainName plain (by decide) (by decide) (List.mem_of_mem_head? ends.1)
  · rw [← List.cons_append, unquoted, if_pos ⟨rfl, List.getLast?_concat ..⟩]
    simp [undoubleBackquotes_doubleBackquotes]

/-! ### Items under new names -/

theorem toList_renamed (expression name : String) :
    (renamed expression name).toList = expression.toList ++ (asMark ++ name.toList) := by
  simp [renamed, asMark, String.toList_append]

theorem resultName_renamed {expression : String} (closed : quotedBehind false expression.toList = false)
    (name : String) : resultName (renamed expression (quote name)) = name := by
  have cut : cutOutside false (renamed expression (quote name)).toList =
      some (expression.toList ++ [], quoteChars name.toList) := by
    rw [toList_renamed, quote, String.toList_ofList]
    exact cutOutside_append (closed.symm ▸ cutOutside_mark name.toList)
  unfold resultName
  rw [cut]
  simp [unquoted_quoteChars]

/-- A legible item gets the name that it is given. -/
theorem alignItem_resultName {item name aligned : String} (legible : IsLegible item)
    (h : alignItem item name = .ok aligned) : resultName aligned = name := by
  unfold alignItem at h
  split at h
  · next same =>
    obtain rfl := Except.ok.inj h
    exact legible.resultName.trans same
  · split at h
    · cases h
    · obtain rfl := Except.ok.inj h
      exact resultName_renamed legible.closed name

theorem alignItems_resultNames {items names aligned : List String}
    (h : alignItems items names = .ok aligned) :
    aligned.length = names.length ∧
      ((∀ item ∈ items, IsLegible item) → aligned.map resultName = names) := by
  unfold alignItems at h
  split at h
  · cases h
  · next width =>
    rw [ne_eq, Decidable.not_not] at width
    induction items generalizing names aligned with
    | nil =>
      cases names with
      | nil =>
        obtain rfl := Except.ok.inj h
        exact ⟨rfl, fun _ => rfl⟩
      | cons => cases width
    | cons item items ih =>
      cases names with
      | nil => cases width
      | cons name names =>
        rw [List.zip_cons_cons, List.mapM_cons] at h
        obtain ⟨first, renamed, h⟩ := Result.bind_eq_ok h
        obtain ⟨rest, others, h⟩ := Result.bind_eq_ok h
        obtain rfl := Except.ok.inj h
        obtain ⟨count, same⟩ := ih (Nat.succ.inj width) others
        refine ⟨congrArg Nat.succ count, fun legible => ?_⟩
        obtain ⟨here, later⟩ := List.forall_mem_cons.mp legible
        rw [List.map_cons, alignItem_resultName here renamed, same later]

/-! ### Legible items -/

/-- An expression that holds no mark, and leaves no quotation open. -/
structure IsUnmarked (expression : String) : Prop where
  unmarked : ¬ asMark <:+: expression.toList
  closed : quotedBehind false expression.toList = false

theorem IsUnmarked.isLegible {item : String} (h : IsUnmarked item) : IsLegible item := by
  have whole : itemExpression item = item := by
    rw [itemExpression, splitAtLastText_eq_none h.unmarked]
  exact ⟨by rw [splitAtLastText_eq_none h.unmarked, cutOutside_eq_none h.unmarked],
    whole.symm ▸ h.closed⟩

/-- An expression without blanks and back quotes. -/
theorem isUnmarked_of_plain {expression : String} (blank : ' ' ∉ expression.toList)
    (quotation : backquote ∉ expression.toList) : IsUnmarked expression :=
  ⟨fun mark => blank (mark.subset (by decide)), quotedBehind_of_plain quotation false⟩

theorem mark_infix_append {cs ds : List Char} (blank : ' ' ∉ cs) (h : asMark <:+: cs ++ ds) :
    asMark <:+: ds := by
  induction cs with
  | nil => exact h
  | cons c cs ih =>
    obtain ⟨other, blank⟩ := not_or.mp (mt List.mem_cons.mpr blank)
    rcases List.infix_cons_iff.mp h with h | h
    · exact absurd (List.cons_prefix_cons.mp h).1 other
    · exact ih blank h

theorem isUnmarked_quote {front name : String} (blank : ' ' ∉ front.toList)
    (quotation : backquote ∉ front.toList) (unmarked : ¬ asMark <:+: name.toList) :
    IsUnmarked (front ++ quote name) := by
  have chars : (front ++ quote name).toList = front.toList ++ quoteChars name.toList := by
    rw [String.toList_append, quote, String.toList_ofList]
  refine ⟨fun mark => ?_, ?_⟩
  · rw [chars] at mark
    exact unmarked (mark_of_quoteChars (mark_infix_append blank mark))
  · rw [chars, quotedBehind_append, quotedBehind_of_plain quotation, quotedBehind_quoteChars]

/-- A column holds no mark if its node is plain and its name holds none. -/
theorem columnText_isUnmarked {c : ColumnRef} (plain : ∀ owner ∈ c.owner?, IsPlainText owner)
    (unmarked : ¬ asMark <:+: c.name.toList) {text : String} (h : columnText c = .ok text) :
    IsUnmarked text := by
  have apart : ∀ owner ∈ c.owner?, ' ' ∉ owner.toList ∧ backquote ∉ owner.toList := fun owner found =>
    ⟨fun blank => absurd (plain owner found _ blank) (by decide),
      fun quotation => absurd (plain owner found _ quotation) (by decide)⟩
  cases columnText_eq_ok_iff.mp h with
  | identity _ found =>
    obtain ⟨blank, quotation⟩ := apart _ found
    refine isUnmarked_of_plain ?_ ?_
    · simp [String.toList_append, blank]
    · simpa [String.toList_append, backquote] using quotation
  | property _ found =>
    obtain ⟨blank, quotation⟩ := apart _ found
    refine isUnmarked_quote ?_ ?_ unmarked
    · simp [String.toList_append, blank]
    · simpa [String.toList_append, backquote] using quotation
  | bare =>
    have bare : IsUnmarked ("" ++ quote c.name) := isUnmarked_quote (by simp) (by simp) unmarked
    rwa [String.empty_append] at bare

/-- The identity under its own name is legible, as far as its expression is closed. -/
theorem renamed_isLegible {expression : String}
    (closed : quotedBehind false expression.toList = false) : IsLegible (renamed expression "id") := by
  have mark : splitAtLastText asMark (asMark ++ "id".toList) = some ([], "id".toList) := by decide
  have cut : splitAtLastText asMark (renamed expression "id").toList =
      some (expression.toList ++ [], "id".toList) := by
    rw [toList_renamed]
    exact splitAtLastText_append mark _
  refine ⟨?_, by simpa [itemExpression, cut] using closed⟩
  rw [cut, toList_renamed]
  exact (cutOutside_append (closed.symm ▸ cutOutside_mark "id".toList)).symm

/-- A column that is a node without special signs in its placeholder, or a property of one under a
name that holds no mark. -/
structure IsPlainColumn (q : Query) (column : Value) : Prop where
  node : ∀ s, column = .text s → q.knows s = .ok true → IsPlainText s
  owner : ∀ c, q.resolve column = .ok c → ∀ owner ∈ c.owner?, IsPlainText owner
  name : ∀ c, q.resolve column = .ok c → ¬ asMark <:+: c.name.toList

theorem expressionText_isUnmarked {q : Query} {column : Value} (plain : IsPlainColumn q column)
    {text : String} (h : expressionText q column = .ok text) : IsUnmarked text := by
  cases expresses_of_expressionText h with
  | star => exact isUnmarked_of_plain (by decide) (by decide)
  | node own _ known =>
    have node := plain.node text own known
    exact isUnmarked_of_plain (fun blank => absurd (node _ blank) (by decide))
      fun quotation => absurd (node _ quotation) (by decide)
  | @resolved c _ _ _ found written =>
    exact columnText_isUnmarked (plain.owner c found) (plain.name c found) written

theorem itemText_isLegible {q : Query} {column : Value} (plain : IsPlainColumn q column)
    {text : String} (h : itemText q column = .ok text) : IsLegible text := by
  obtain ⟨expression, written, h⟩ := Result.bind_eq_ok h
  have unmarked := expressionText_isUnmarked plain written
  obtain rfl := Except.ok.inj h
  split
  · exact renamed_isLegible unmarked.closed
  · exact unmarked.isLegible

/-- Whether a select lists plain columns, and nothing else. -/
structure ListsPlainColumns (q : Query) : Prop where
  unstaged : isStaged q = false
  columns : ∀ columns, chosenColumns q = .ok columns →
    isStar columns = false ∧ ∀ column ∈ columns, IsPlainColumn q column

theorem returnItems_isLegible {q : Query} (plain : ListsPlainColumns q) {seen : Introduced}
    {items : List String} (h : returnItems q seen = .ok items) : ∀ item ∈ items, IsLegible item := by
  cases returnsItems_of_returnItems h with
  | carried staged => cases plain.unstaged.symm.trans staged
  | everything _ chosen | nodes _ chosen =>
    cases (plain.columns _ chosen).1
  | listed _ chosen _ written =>
    exact Result.forall_of_mapM written fun column member item =>
      itemText_isLegible ((plain.columns _ chosen).2 column member)

/-! ### The columns of a union -/

/-- A select with the items of its query, which are shown as others. -/
def ShowsItems (write : String → String) (q : Query) (text : String) (own items : List String) :
    Prop :=
  ∃ stage seen carried order skip limit,
    matchStage write q (conditionsOf write q) [] = .ok (stage, seen) ∧
    withText write q = .ok carried ∧ returnItems q seen = .ok own ∧ orderText q = .ok order ∧
    skipText q = .ok skip ∧ limitText q = .ok limit ∧
    text = spaced [stage, carried, itemsText q items, order, skip, limit]

theorem ShowsItems.isLegible {write : String → String} {q : Query} {text : String}
    {own items : List String} (shown : ShowsItems write q text own items) (plain : ListsPlainColumns q) :
    ∀ item ∈ own, IsLegible item := by
  obtain ⟨_, _, _, _, _, _, -, -, returned, -⟩ := shown
  exact returnItems_isLegible plain returned

/-- The select of a branch fits a first select with these items: if it lists items too, it has as many
of them, with the same names if all are legible, as those of plain columns are. -/
def Fits (write : String → String) (items : List String) (b : Branch) (select : String) : Prop :=
  ∃ other, b.query.query? = some other ∧ (ListsItems other → ∃ own aligned,
    ShowsItems write other select own aligned ∧ aligned.length = items.length ∧
    (ListsPlainColumns other → ∀ item ∈ own, IsLegible item) ∧
    ((∀ item ∈ items ++ own, IsLegible item) → aligned.map resultName = items.map resultName))

/-- The items of a select are its own ones, or those aligned to names that it has been given. -/
theorem showsItems_of_singleSelect {write : String → String} {q : Query} (lists : ListsItems q)
    {text : String} {names : Option (List String)} {columns : List String}
    (h : singleSelect write q (conditionsOf write q) names = .ok (text, columns)) :
    ∃ own items, ShowsItems write q text own items ∧ columns = items.map columnName ∧
      match names with
      | none => items = own
      | some names => alignItems own names = .ok items := by
  obtain ⟨stage, seen, texts, matched, after, rfl⟩ := singleSelect_eq_ok h
  obtain ⟨carried, projection, items, order, skip, limit, grouped, projects, ordered, skipped, limited,
    rfl, rfl⟩ := afterStage_eq_ok after
  cases projects with
  | aggregate unstaged own =>
    rw [lists unstaged] at own
    cases own
  | listed _ returned =>
    exact ⟨items, items, ⟨stage, seen, carried, order, skip, limit, matched, grouped, returned, ordered,
      skipped, limited, rfl⟩, rfl, rfl⟩
  | aligned _ returned renamed =>
    exact ⟨_, items, ⟨stage, seen, carried, order, skip, limit, matched, grouped, returned, ordered,
      skipped, limited, rfl⟩, rfl, renamed⟩

theorem listsItems_unionStart {q : Query} (joined : q.hasBranches) : ListsItems q.unionStart := by
  intro _
  unfold Query.unionStart
  split
  · rfl
  · next other =>
    cases own : q.aggregate with
    | none => rfl
    | some a => simp [joined, own] at other

/-- The branches of a union have the columns of the first select, one by one: as many, and with the same
names if the items are legible, wherever a branch lists items. The items of plain columns are legible. -/
theorem selectText_columns {write : String → String} {q : Query} (joined : q.hasBranches)
    {text : String} (h : selectText write q = .ok text) :
    ∃ first names selects items, IsUnion write q text first names selects ∧
      ShowsItems write q.unionStart first items items ∧
      (ListsPlainColumns q.unionStart → ∀ item ∈ items, IsLegible item) ∧
      List.Forall₂ (Fits write items) q.branches selects := by
  obtain ⟨first, names, selects, union⟩ := isUnion_of_selectText h
  have same : conditionsOf write q.unionStart = conditionsOf write q := by
    unfold Query.unionStart
    split <;> rfl
  obtain ⟨_, items, shown, rfl, rfl⟩ :=
    showsItems_of_singleSelect (listsItems_unionStart joined) (same.symm ▸ union.begins)
  refine ⟨first, _, selects, items, union, shown, shown.isLegible,
    union.goesOn.imp fun b select begun => ?_⟩
  obtain ⟨other, columns, found, written⟩ := begun
  refine ⟨other, found, fun lists => ?_⟩
  obtain ⟨own, aligned, shown', -, renamed⟩ := showsItems_of_singleSelect lists written
  obtain ⟨count, same⟩ := alignItems_resultNames renamed
  refine ⟨own, aligned, shown', count.trans (List.length_map ..), shown'.isLegible, fun legible => ?_⟩
  obtain ⟨first, others⟩ := List.forall_mem_append.mp legible
  rw [same others]
  exact (List.map_congr_left fun item member => (first item member).resultName).symm

/-- A branch with a column of another name. -/
theorem selectText_columns_renamed :
    let q := (LiveQuery.afterCalls [.target (.text "User"), .select [.text "name"],
      .union (.body [.target (.text "Admin"), .select [.text "full name"]]) (.bool false)]).query
    let text := "MATCH (user:User) RETURN user.name UNION MATCH (admin:Admin) " ++
      "RETURN admin.\x60full name\x60 AS \x60user.name\x60"
    q.hasBranches ∧ selectText parameter q = .ok text ∧
    ∃ first names selects items, IsUnion parameter q text first names selects ∧
      ShowsItems parameter q.unionStart first items items ∧ (∀ item ∈ items, IsLegible item) ∧
      List.Forall₂ (Fits parameter items) q.branches selects := by
  intro q text
  have written : selectText parameter q = .ok text := Result.of_toOption (by decide +kernel)
  have plain : ListsPlainColumns q.unionStart := by
    refine ⟨rfl, fun columns chosen => ?_⟩
    obtain rfl : [Value.text "name"] = columns := Except.ok.inj chosen
    have resolved {c : ColumnRef} (found : q.unionStart.resolve (.text "name") = .ok c) :
        ⟨"name", some "user", false⟩ = c := Except.ok.inj found
    refine ⟨rfl, List.forall_mem_singleton.mpr ⟨fun s same _ => ?_, fun c found => ?_, fun c found => ?_⟩⟩
    · obtain rfl := Value.text.inj same
      decide
    · obtain rfl := resolved found
      decide
    · obtain rfl := resolved found
      decide
  obtain ⟨first, names, selects, items, union, shown, legible, fits⟩ := selectText_columns rfl written
  exact ⟨rfl, written, first, names, selects, items, union, shown, legible plain, fits⟩

/-- A mark inside a quotation is taken for one of its own: the branch gets the wrong name. -/
theorem selectText_columns_marked :
    let q := (LiveQuery.afterCalls [.target (.text "User"), .select [.text "a AS b"],
      .union (.body [.target (.text "Admin"), .select [.text "name"]]) (.bool false)]).query
    let own := "user.\x60a AS b\x60"
    let aligned := "admin.name AS \x60b\x60\x60\x60"
    (selectText parameter q).toOption = some ("MATCH (user:User) RETURN " ++ own ++
      " UNION MATCH (admin:Admin) RETURN " ++ aligned) ∧
    resultName own = own ∧ resultName aligned ≠ own := by
  decide +kernel

end GraphQuery.Cypher
