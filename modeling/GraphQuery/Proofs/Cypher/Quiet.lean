import GraphQuery.Proofs.Cypher.Columns
import GraphQuery.Proofs.Cypher.Introductions
import GraphQuery.Proofs.Cypher.Mentions
import GraphQuery.Proofs.Cypher.Stages

/-! # Quiet queries

Most of what callers give is quoted, or looked at before it is written.  Some texts are written as they
are: the placeholders of nodes, the parts of an explicit stage, the conditions on groups, carried
predicates, operators, and the name of an aggregate.  A query is *quiet* if these are silent at any
depth, so that it mentions no parameters but those of its clauses.

A branch of a union is given other column names, and its items are cut for that where they seem to have
names already.  `CutsCleanly` says that no quotation is cut apart.

* `resolve_isQuiet`, `expressionText_namesOnly` : columns that are given as texts are quiet, and
  mention nothing;
* `returnItems_namesOnly`, `alignItems_namesOnly`, `orderText_namesOnly` : so do the items of a select,
  under their own names or other ones, and its order. -/

namespace GraphQuery

open GraphQuery.Text GraphQuery.Cypher

/-! ### What has to be silent -/

/-- A reference to a node whose placeholder is silent. -/
def ColumnRef.IsQuiet (c : ColumnRef) : Prop := ∀ owner ∈ c.owner?, Silent owner

/-- A column that is given as a text, or as a reference that is quiet. -/
def Value.IsQuietColumn : Value → Prop
  | .column c => c.IsQuiet
  | _ => True

/-- An operator that is silent before a blank. -/
def IsQuietOperator (operator : String) : Prop := Silent (operator ++ " ")

/-- The parts of a query that are written as they are, those of its predicates and branches aside. -/
structure Query.HasQuietParts (q : Query) : Prop where
  patterns : ∀ p, Member.clause p ∈ q.patterns → ∀ node, p.Binds node → Silent node
  stages : ∀ s, Value.text s ∈ q.stages → Silent s
  columns : ∀ columns, chosenColumns q = .ok columns → ∀ v ∈ columns, v.IsQuietColumn
  groups : ∀ v ∈ q.groups, v.IsQuietColumn
  havings : ∀ h, Member.clause h ∈ q.havings → Silent (h.column ++ " " ++ h.operator ++ " ")
  sortKeys : ∀ k, Member.clause k ∈ q.sortKeys → k.column.IsQuietColumn
  aggregate : ∀ a, q.aggregate = some (.clause a) →
    Silent a.label ∧ ∀ v ∈ a.columns, v.IsQuietColumn

/-- In the items of a query nothing is open where their names begin. -/
def Query.CutsCleanly (q : Query) : Prop :=
  ∀ stage seen items, matchStage parameter q (conditionsOf parameter q) [] = .ok (stage, seen) →
    returnItems q seen = .ok items → ∀ item ∈ items, Silent (itemExpression item)

mutual
/-- A predicate whose texts are silent, those of its sub-queries included. -/
def Predicate.IsQuiet : Predicate → Prop
  | .compared _ c operator _ => c.IsQuiet ∧ IsQuietOperator operator
  | .among _ c _ _ | .between _ c _ _ | .isNull _ c _ => c.IsQuiet
  | .carried _ column operator value => Silent (column ++ " " ++ operator ++ " " ++ value)
  | .nested _ wheres => areQuiet wheres
  | .comparedRow _ c operator s => c.IsQuiet ∧ IsQuietOperator operator ∧ s.IsQuiet
  | .amongRows _ c s _ => c.IsQuiet ∧ s.IsQuiet
  | .present _ s _ => s.IsQuiet
  | .foreign _ => True
/-- The same of predicates. -/
def areQuiet : List Predicate → Prop
  | [] => True
  | p :: rest => p.IsQuiet ∧ areQuiet rest
/-- A sub-query whose texts are silent. -/
def SubQuery.IsQuiet : SubQuery → Prop
  | .own q | .shared _ (some q) =>
    Query.HasQuietParts q ∧ areQuiet q.wheres ∧ areQuietBranches q.branches
  | .shared _ none | .foreign _ => True
/-- Branches whose texts are silent, and whose items can be given other names. -/
def areQuietBranches : List Branch → Prop
  | [] => True
  | b :: rest => (b.query.IsQuiet ∧ ∀ q, b.query.query? = some q → q.CutsCleanly) ∧
    areQuietBranches rest
end

/-- Whether a branch is the query itself, without its branches. -/
def Branch.Repeats (b : Branch) (q : Query) : Prop :=
  ∃ number, b.query = .shared number (some { q with branches := [] })

/-- A query all of whose texts are silent. A branch that is the query itself keeps its names. -/
structure Query.IsQuiet (q : Query) : Prop where
  parts : q.HasQuietParts
  wheres : areQuiet q.wheres
  branches : ∀ b ∈ q.branches, Branch.Repeats b q ∨
    b.query.IsQuiet ∧ ∀ other, b.query.query? = some other → other.CutsCleanly

/-! ### Columns -/

namespace Cypher

variable {q : Query}

theorem silent_of_hasNode (quiet : q.HasQuietParts) {node : String} (h : q.HasNode node) :
    Silent node := by
  rcases h with target | ⟨p, member, ends⟩
  · exact (placeholder?_isPlainText target).2.silent
  · exact quiet.patterns p member node ends

theorem hasNode_of_knows {s : String} (h : q.knows s = .ok true) : q.HasNode s := by
  obtain ⟨known, all, h⟩ := Result.bind_eq_ok h
  exact Query.mem_knownPlaceholders all (by simpa using Except.ok.inj h)

theorem silent_of_knows (quiet : q.HasQuietParts) {s : String} (h : q.knows s = .ok true) :
    Silent s := silent_of_hasNode quiet (hasNode_of_knows h)

/-- What stands before a point is a node of the query, or else has a placeholder of its own. -/
theorem hasNode_ownerPlaceholder {owner node : String} (h : q.ownerPlaceholder owner = .ok node) :
    q.HasNode node ∨ IsIdentifier node := by
  obtain ⟨known, found, h⟩ := Result.bind_eq_ok h
  cases known with
  | true =>
    obtain rfl := Except.ok.inj h
    exact Or.inl (hasNode_of_knows found)
  | false =>
    obtain ⟨-, -, h⟩ := Result.bind_eq_ok h
    refine Or.inr (needPlaceholder_isIdentifier (fun v member => ?_) h)
    split at member
    · cases member
    · next filled =>
      rw [List.mem_singleton.mp member]
      simpa [Value.isTruthy] using filled

theorem isQuiet_of_placeholder {c : ColumnRef} (h : ∀ owner ∈ c.placeholder, Silent owner) :
    c.IsQuiet := fun owner found =>
  h owner (Option.mem_filter_iff.mp found).1

/-- A column that is given as a text belongs to a node of the query, or to one with a plain name. -/
theorem hasNode_resolveText {text : String} {c : ColumnRef} (h : q.resolveText text = .ok c) :
    ∀ owner ∈ c.placeholder, q.HasNode owner ∨ IsIdentifier owner := by
  intro owner found
  cases Query.resolves_of_resolveText h with
  | called call =>
    obtain rfl := Option.some.inj found
    exact Or.inr (isIdentifier_of_identityCall? call)
  | owned _ _ target =>
    obtain rfl := Option.some.inj found
    exact hasNode_ownerPlaceholder target
  | identity _ target | property _ _ _ target =>
    exact Or.inl (Or.inl (target.trans (congrArg _ (Option.mem_def.mp found))))

theorem resolveText_isQuiet (quiet : q.HasQuietParts) {text : String} {c : ColumnRef}
    (h : q.resolveText text = .ok c) : c.IsQuiet :=
  isQuiet_of_placeholder fun owner found => (hasNode_resolveText h owner found).elim
    (silent_of_hasNode quiet) fun plain => plain.isPlainText.silent

theorem resolve_isQuiet (quiet : q.HasQuietParts) {column : Value} (given : column.IsQuietColumn)
    {c : ColumnRef} (h : q.resolve column = .ok c) : c.IsQuiet := by
  unfold Query.resolve at h
  split at h
  · split at h
    · obtain ⟨node, target, h⟩ := Result.bind_eq_ok h
      obtain rfl := Except.ok.inj h
      refine isQuiet_of_placeholder fun owner found => ?_
      obtain rfl : node = some owner := found
      exact (placeholder?_isPlainText target).2.silent
    · obtain rfl := Except.ok.inj h
      exact given
  · exact resolveText_isQuiet quiet h
  all_goals cases h

variable {allowed : String → Prop}

theorem columnText_namesOnly {c : ColumnRef} (quiet : c.IsQuiet) {text : String}
    (h : columnText c = .ok text) : NamesOnly allowed text := by
  cases columnText_eq_ok_iff.mp h with
  | identity _ found => exact (quiet _ found).namesOnly.identity
  | property _ found =>
    exact (quiet _ found).namesOnly.behind (by decide) (silent_quote c.name).namesOnly
  | bare => exact (silent_quote c.name).namesOnly

theorem expressionText_namesOnly (quiet : q.HasQuietParts) {column : Value}
    (given : column.IsQuietColumn) {text : String} (h : expressionText q column = .ok text) :
    NamesOnly allowed text := by
  have star : Silent "*" := by decide
  cases expresses_of_expressionText h with
  | star => exact star.namesOnly
  | node _ _ known => exact (silent_of_knows quiet known).namesOnly
  | resolved _ _ found written => exact columnText_namesOnly (resolve_isQuiet quiet given found) written

theorem aggregateColumn_namesOnly (quiet : q.HasQuietParts) {function : String} {isDistinct : Bool}
    {column : Value} (given : column.IsQuietColumn) {text : String}
    (h : aggregateColumn q function isDistinct column = .ok text) : NamesOnly allowed text := by
  have star : Silent "*" := by decide
  unfold aggregateColumn at h
  split at h
  · split at h
    · obtain rfl := Except.ok.inj h
      exact star.namesOnly
    · obtain ⟨node, target, h⟩ := Result.bind_eq_ok h
      obtain rfl := Except.ok.inj h
      cases node with
      | none => exact star.namesOnly
      | some node =>
        obtain ⟨full, plain⟩ := placeholder?_isPlainText target
        rw [Option.filter_some, if_pos (by simpa using full), Option.getD_some]
        exact plain.silent.namesOnly
  · exact expressionText_namesOnly quiet given h

/-- The name under which a group column is carried on. -/
theorem groupName_namesOnly (quiet : q.HasQuietParts) {column : Value} {text : String}
    (h : groupName q column = .ok text) : NamesOnly allowed text := by
  unfold groupName at h
  split at h
  · obtain ⟨known, found, h⟩ := Result.bind_eq_ok h
    cases known with
    | true =>
      obtain rfl := Except.ok.inj h
      exact (silent_of_knows quiet found).namesOnly
    | false =>
      obtain ⟨c, -, h⟩ := Result.bind_eq_ok h
      obtain rfl := Except.ok.inj h
      exact (silent_quote c.name).namesOnly
  · obtain ⟨c, -, h⟩ := Result.bind_eq_ok h
    obtain rfl := Except.ok.inj h
    exact (silent_quote c.name).namesOnly

theorem isSeam_as : IsSeam " AS " := by decide

theorem groupItem_namesOnly (quiet : q.HasQuietParts) {column : Value}
    (given : column.IsQuietColumn) {text : String} (h : groupItem q column = .ok text) :
    NamesOnly allowed text := by
  obtain ⟨expression, first, h⟩ := Result.bind_eq_ok h
  obtain ⟨name, second, h⟩ := Result.bind_eq_ok h
  obtain rfl := Except.ok.inj h
  have written : NamesOnly allowed expression := expressionText_namesOnly quiet given first
  split
  · exact written
  · exact written.behind isSeam_as (groupName_namesOnly quiet second)

theorem itemText_namesOnly (quiet : q.HasQuietParts) {column : Value}
    (given : column.IsQuietColumn) {text : String} (h : itemText q column = .ok text) :
    NamesOnly allowed text := by
  have id : Silent "id" := by decide
  obtain ⟨expression, first, h⟩ := Result.bind_eq_ok h
  obtain rfl := Except.ok.inj h
  have written : NamesOnly allowed expression := expressionText_namesOnly quiet given first
  split
  · exact written.behind isSeam_as id.namesOnly
  · exact written

theorem groupTexts_namesOnly {write : Query → Value → Result String}
    (each : ∀ v ∈ q.groups, ∀ t, write q v = .ok t → NamesOnly allowed t) {texts : List String}
    (h : groupTexts q write = .ok texts) : ∀ t ∈ texts, NamesOnly allowed t := by
  obtain ⟨-, -, h⟩ := Result.bind_eq_ok h
  exact Result.forall_of_mapM h each

theorem carriedNames_namesOnly (quiet : q.HasQuietParts) {names : List String}
    (h : carriedNames q = .ok names) : ∀ t ∈ names, NamesOnly allowed t := by
  cases staged : isStaged q with
  | false =>
    rw [carriedNames, staged] at h
    obtain rfl := Except.ok.inj h
    exact nofun
  | true =>
    obtain ⟨groups, written, carries⟩ := carriesNames_of_carriedNames h staged
    have all : ∀ t ∈ groups, NamesOnly allowed t :=
      groupTexts_namesOnly (fun v _ t e => groupName_namesOnly quiet e) written
    cases carries with
    | distinct => exact all
    | @aggregated a own =>
      exact List.forall_mem_append.mpr
        ⟨all, List.forall_mem_singleton.mpr (quiet.aggregate a own).1.namesOnly⟩

/-- The items that a select returns, behind nodes that are silent. -/
theorem returnItems_namesOnly (quiet : q.HasQuietParts) {seen : Introduced}
    (nodes : ∀ node, (lookup? node seen).isSome → Silent node) {items : List String}
    (h : returnItems q seen = .ok items) : ∀ t ∈ items, NamesOnly allowed t := by
  have star : Silent "*" := by decide
  exact (returnsItems_of_returnItems h).forall_mem (fun _ _ => carriedNames_namesOnly quiet)
    (fun _ => star.namesOnly) (fun entry member => (nodes _ (isSome_lookup?_of_mem member)).namesOnly)
    fun columns chosen _ v hv _ e => itemText_namesOnly quiet (quiet.columns columns chosen v hv) e

theorem alignItems_namesOnly {items names : List String}
    (own : ∀ t ∈ items, NamesOnly allowed t)
    (cut : ∀ p ∈ items.zip names, columnName p.1 ≠ p.2 → Silent (itemExpression p.1))
    {aligned : List String} (h : alignItems items names = .ok aligned) :
    ∀ t ∈ aligned, NamesOnly allowed t := by
  unfold alignItems at h
  split at h
  · cases h
  · refine Result.forall_of_mapM h fun p hp t e => ?_
    have member := (List.of_mem_zip hp).1
    unfold alignItem at e
    split at e
    · obtain rfl := Except.ok.inj e
      exact own _ member
    · next other =>
      split at e
      · cases e
      · obtain rfl := Except.ok.inj e
        exact (cut p hp other).namesOnly.behind isSeam_as (silent_quote p.2).namesOnly

/-! ### The end of a select -/

theorem sortText_namesOnly (quiet : q.HasQuietParts) {carried : List String}
    (names : ∀ t ∈ carried, NamesOnly allowed t) {key : SortKey} (given : key.column.IsQuietColumn)
    {text : String} (h : sortText q carried key = .ok text) : NamesOnly allowed text := by
  have direction : Silent key.direction.keyword := by cases key.direction <;> decide
  obtain ⟨item, sorts, rfl⟩ := sortText_eq_ok h
  cases sorts with
  | name _ inside => exact (names _ inside).spaced direction.namesOnly
  | expression _ found => exact (expressionText_namesOnly quiet given found).spaced direction.namesOnly

theorem orderText_namesOnly (quiet : q.HasQuietParts) {text : String} (h : orderText q = .ok text) :
    NamesOnly allowed text := by
  have front : Silent "ORDER BY " := by decide
  unfold orderText at h
  split at h
  · obtain rfl := Except.ok.inj h
    exact namesOnly_empty
  · obtain ⟨carried, names, h⟩ := Result.bind_eq_ok h
    obtain ⟨-, -, h⟩ := Result.bind_eq_ok h
    obtain ⟨keys, written, h⟩ := Result.bind_eq_ok h
    obtain rfl := Except.ok.inj h
    refine front.front (namesOnly_joined (by decide)
      (Result.forall_of_mapM written fun m hm t e => ?_))
    obtain ⟨key, needed, e⟩ := Result.bind_eq_ok e
    obtain rfl := Member.eq_clause_of_need needed
    exact sortText_namesOnly quiet (carriedNames_namesOnly quiet names) (quiet.sortKeys key hm) e

theorem countText_namesOnly {keyword : String} (silent : Silent keyword) {count : Value}
    {text : String} (h : countText keyword count = .ok text) : NamesOnly allowed text := by
  unfold countText at h
  split at h
  · obtain rfl := Except.ok.inj h
    exact namesOnly_empty
  · obtain ⟨n, -, h⟩ := Result.bind_eq_ok h
    obtain rfl := Except.ok.inj h
    exact silent.namesOnly.spaced (silent_toString n).namesOnly

theorem joinConditions_namesOnly : ∀ {entries : List (Connective × String)},
    (∀ e ∈ entries, NamesOnly allowed e.2) → NamesOnly allowed (joinConditions entries)
  | [], _ => namesOnly_empty
  | (_, text) :: rest, h => by
    refine namesOnly_joined isSeam_blank (List.forall_mem_cons.mpr ⟨h _ (List.mem_cons_self ..), ?_⟩)
    intro t ht
    obtain ⟨e, member, inside⟩ := List.mem_flatMap.mp ht
    have keyword : Silent e.1.keyword := by cases e.1 <;> decide
    rcases List.mem_cons.mp inside with rfl | inside
    · exact keyword.namesOnly
    · rw [List.mem_singleton.mp inside]
      exact h e (List.mem_cons_of_mem _ member)

end Cypher

end GraphQuery
