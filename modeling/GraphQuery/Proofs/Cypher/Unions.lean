import GraphQuery.Proofs.Cypher.Copies
import GraphQuery.Proofs.Cypher.Stages
import GraphQuery.Proofs.Execution.Identity

/-! # The selects of a union

Unions make a tree of queries, since the query of a branch can have branches too.  The select of the
root goes through its own branches only.  `selectText_union` says what the text is made of (`IsUnion`):
one select for the root and one for each of its branches, in their order and behind their keywords,
where every branch has the columns of the first select.  So the text has a select for every query of a
tree without further branches, and further branches leave no trace in it. -/

namespace GraphQuery

open GraphQuery.Text

/-- The queries that unions join with a query: itself, and the query of every branch of one that is
joined. -/
inductive Query.Joins (root : Query) : Query → Prop
  | root : Joins root root
  | branch {q other : Query} {b : Branch} : Joins root q → b ∈ q.branches →
      b.query.query? = some other → Joins root other

/-- Whether the branches of a query have no branches of their own. -/
def Query.IsShallow (q : Query) : Prop :=
  ∀ b ∈ q.branches, ∀ other : Query, b.query.query? = some other → other.branches = []

/-- A sub-query without its branches. -/
def SubQuery.alone : SubQuery → SubQuery
  | .own q => .own { q with branches := [] }
  | .shared number seen => .shared number (seen.map fun q => { q with branches := [] })
  | .foreign v => .foreign v

/-- A branch without branches of its own. -/
def Branch.alone (b : Branch) : Branch := ⟨b.query.alone, b.keepsAll⟩

/-- A query whose branches are cut off behind the first ones. -/
def Query.shallow (q : Query) : Query := { q with branches := q.branches.map Branch.alone }

/-- The query with which a union begins. An aggregate over the whole union stands around it. -/
def Query.unionStart (q : Query) : Query :=
  if q.hasBranches && q.aggregate.isSome then
    { q with
      aggregate := none
      standIns := q.standIns.filter fun s => s.1 ∉ QueryOver.listParts }
  else q

theorem Query.unionStart_eq {q : Query} (lone : q.hasBranches = true → q.aggregate = none) :
    q.unionStart = q := by
  refine if_neg fun both => ?_
  obtain ⟨joined, isAggregate⟩ := (Bool.and_eq_true ..).mp both
  rw [lone joined] at isAggregate
  cases isAggregate

/-- In a shallow tree every query is the root, or that of one of its branches. -/
theorem Query.Joins.of_isShallow {q other : Query} (shallow : q.IsShallow) (h : q.Joins other) :
    other = q ∨ ∃ b ∈ q.branches, b.query.query? = some other := by
  induction h with
  | root => exact Or.inl rfl
  | branch _ member found ih =>
    rcases ih with rfl | ⟨b, inside, same⟩
    · exact Or.inr ⟨_, member, found⟩
    · rw [shallow b inside _ same] at member
      cases member

namespace Cypher

variable {write : String → String} {q : Query}

/-! ### What a union is made of -/

/-- A text is the select of a branch, under the names of the first select. -/
def SelectsBranch (write : String → String) (names : List String) (b : Branch) (text : String) :
    Prop :=
  ∃ other columns, b.query.query? = some other ∧
    singleSelect write other (conditionsOf write other) (some names) = .ok (text, columns)

/-- A select behind the keyword of its branch. -/
def behindKeyword (b : Branch) (select : String) : String :=
  " " ++ (if b.keepsAll then "UNION ALL" else "UNION") ++ " " ++ select

/-- A select with the selects of branches behind it. -/
def unionText (first : String) (branches : List (Branch × String)) : String :=
  first ++ String.join (branches.map fun b => behindKeyword b.1 b.2)

/-- What stands around the selects of a union: nothing, or an aggregate over all of its rows. -/
inductive Encloses (write : String → String) (q : Query) (rows : String) : String → Prop
  | bare : (q.hasBranches → q.aggregate = none) → Encloses write q rows rows
  | aggregated {a : Member Aggregate} {projection : String} : q.hasBranches → q.aggregate = some a →
      aggregateText write q a = .ok projection →
      Encloses write q rows ("CALL \x7b " ++ rows ++ " \x7d " ++ projection)

/-- What the text of a select is made of: a first select with the names of its columns, and one for
each branch. -/
structure IsUnion (write : String → String) (q : Query) (text first : String)
    (names selects : List String) : Prop where
  begins : singleSelect write q.unionStart (conditionsOf write q) none = .ok (first, names)
  goesOn : List.Forall₂ (SelectsBranch write names) q.branches selects
  whole : Encloses write q (unionText first (q.branches.zip selects)) text

theorem branchContent_eq_ok {s : SubQuery} {content : Query × Conditions}
    (h : branchContent write s = .ok content) :
    ∃ other, s.query? = some other ∧ content = (other, conditionsOf write other) := by
  cases s with
  | own other => exact ⟨other, rfl, (Except.ok.inj h).symm⟩
  | shared number seen =>
    cases seen with
    | none => cases h
    | some other => exact ⟨other, rfl, (Except.ok.inj h).symm⟩
  | foreign v => cases h

theorem appendBranches_eq_ok {names : List String} : ∀ {branches : List Branch} {text whole : String},
    appendBranches write names text (branchTexts write branches) = .ok whole →
      ∃ selects, List.Forall₂ (SelectsBranch write names) branches selects ∧
        whole = unionText text (branches.zip selects)
  | [], text, whole, h => ⟨[], .nil, by
      obtain rfl := Except.ok.inj h
      simp [unionText, String.join]⟩
  | b :: rest, text, whole, h => by
    rw [branchTexts] at h
    obtain ⟨content, found, h⟩ := Result.bind_eq_ok h
    obtain ⟨other, same, rfl⟩ := branchContent_eq_ok found
    obtain ⟨⟨select, columns⟩, written, h⟩ := Result.bind_eq_ok h
    obtain ⟨selects, others, rfl⟩ := appendBranches_eq_ok h
    refine ⟨select :: selects, .cons ⟨other, columns, same, written⟩ others, ?_⟩
    simp [unionText, behindKeyword, BranchText.keyword, ← String.toList_inj,
      String.toList_append]

theorem plainSelect_eq_ok {first : Query} {conditions : Conditions} {branches : List Branch}
    {text : String} (h : plainSelect write first conditions (branchTexts write branches) = .ok text) :
    ∃ select names selects, singleSelect write first conditions none = .ok (select, names) ∧
      List.Forall₂ (SelectsBranch write names) branches selects ∧
      text = unionText select (branches.zip selects) := by
  obtain ⟨⟨select, names⟩, written, h⟩ := Result.bind_eq_ok h
  obtain ⟨-, -, h⟩ := Result.bind_eq_ok h
  obtain ⟨selects, others, rfl⟩ := appendBranches_eq_ok h
  exact ⟨select, names, selects, written, others, rfl⟩

theorem isUnion_of_selectText {text : String} (h : selectText write q = .ok text) :
    ∃ first names selects, IsUnion write q text first names selects := by
  cases assembles_of_assembleSelect h with
  | aggregate branched own _ copied written aggregated =>
    obtain rfl := QueryOver.copied_eq_ok copied
    obtain ⟨first, names, selects, begun, others, rfl⟩ := plainSelect_eq_ok written
    refine ⟨first, names, selects, ?_, others, .aggregated branched own aggregated⟩
    rw [Query.unionStart, if_pos (by simp [branched, own])]
    exact begun
  | plain own written =>
    obtain ⟨first, names, selects, begun, others, rfl⟩ := plainSelect_eq_ok written
    exact ⟨first, names, selects, (Query.unionStart_eq own).symm ▸ begun, others, .bare own⟩

/-- The parts of the text of a select: those of the first select with the branches behind it, or the
aggregate around a whole union. -/
inductive HasParts (write : String → String) (q : Query) : String → Prop
  | select {stage carried projection order skip limit : String} {seen : Introduced}
      {items selects : List String} : (q.hasBranches = true → q.aggregate = none) →
      matchStage write q (conditionsOf write q) [] = .ok (stage, seen) →
      withText write q = .ok carried → Projects write q seen none projection items →
      orderText q = .ok order → skipText q = .ok skip → limitText q = .ok limit →
      HasParts write q (unionText (spaced [stage, carried, projection, order, skip, limit])
        (q.branches.zip selects))
  | aggregate {a : Member Aggregate} {rows projection : String} : q.hasBranches = true →
      q.aggregate = some a → aggregateText write q a = .ok projection →
      HasParts write q ("CALL \x7b " ++ rows ++ " \x7d " ++ projection)

theorem hasParts_of_selectText {text : String} (h : selectText write q = .ok text) :
    HasParts write q text := by
  obtain ⟨first, names, selects, union⟩ := isUnion_of_selectText h
  cases union.whole with
  | aggregated joined own written => exact .aggregate joined own written
  | bare lone =>
    have begins := union.begins
    rw [Query.unionStart_eq lone] at begins
    obtain ⟨stage, seen, texts, matched, after, rfl⟩ := singleSelect_eq_ok begins
    obtain ⟨carried, projection, items, order, skip, limit, carries, projects, ordered, skipped, limited,
      rfl, -⟩ := afterStage_eq_ok after
    exact .select lone matched carries projects ordered skipped limited

/-! ### Branches of branches -/

theorem unchanged (write : String → String) : Renaming True [] write write :=
  ⟨fun _ => Iff.rfl, fun _ _ => rfl⟩

theorem ConditionsAgree.refl (conditions : Conditions) : ConditionsAgree True conditions conditions :=
  ⟨.refl (fun _ => Same.refl _) _, rfl⟩

/-- The query of a branch is selected without its branches. -/
theorem branchTexts_alone : ∀ branches : List Branch, List.Forall₂ (BranchAgrees True [])
    (branchTexts write (branches.map Branch.alone)) (branchTexts write branches)
  | [] => .nil
  | ⟨s, keepsAll⟩ :: rest => by
    refine .cons ⟨rfl, ?_⟩ (branchTexts_alone rest)
    have cut (q : Query) : ∃ wheres branches,
        ({ q with branches := [] } : Query) = q.under [] wheres branches ∧
          wheres.length = q.wheres.length ∧
          ConditionsAgree True (conditionsOf write q) (conditionsOf write q) :=
      ⟨q.wheres, [], (Query.under_nil q q.wheres []).symm, rfl, .refl _⟩
    cases s with
    | own q => exact cut q
    | shared number seen =>
      cases seen with
      | none => exact Eq.refl (Error.failure .selfContained)
      | some q => exact cut q
    | foreign v => exact Eq.refl (Error.noAttribute v "all")

theorem aggregateText_shallow (a : Member Aggregate) :
    aggregateText write q.shallow a = aggregateText write q a :=
  have nodes : q.shallow.SameNodes q := ⟨rfl, rfl, fun _ => rfl⟩
  nodes.aggregateText rfl a

/-- What branches of branches ask for has no trace in the text. -/
theorem selectText_shallow : selectText write q.shallow = selectText write q := by
  have plain (q : Query) (branches : List Branch) (conditions : Conditions) :
      plainSelect write ({ q with branches := branches.map Branch.alone } : Query) conditions
          (branchTexts write (branches.map Branch.alone)) =
        plainSelect write q conditions (branchTexts write branches) := by
    rw [← Query.under_nil q q.wheres]
    exact ((plainSelect_under (unchanged write) rfl (.refl conditions)
      (branchTexts_alone branches)).imp fun _ _ same => same trivial).eq
  have present : q.shallow.hasBranches = q.hasBranches := by
    show QueryOver.isPresent q .branches (q.branches.map Branch.alone).isEmpty = _
    rw [List.isEmpty_map]
    rfl
  unfold selectText assembleSelect
  rw [present, show q.shallow.aggregate = q.aggregate from rfl,
    show conditionsOf write q.shallow = conditionsOf write q from rfl,
    show q.shallow.branches = q.branches.map Branch.alone from rfl]
  split
  · next a branched own =>
    unfold unionAggregate
    rw [show q.shallow.hasGroups = q.hasGroups from rfl,
      show q.shallow.hasHavings = q.hasHavings from rfl, aggregateText_shallow]
    split
    · rfl
    · have rows := plain
        { q with
          aggregate := none
          standIns := q.standIns.filter fun s => s.1 ∉ QueryOver.listParts }
        q.branches (conditionsOf write q)
      unfold QueryOver.copied
      simp only [bind_assoc, pure_bind]
      refine congrArg (q.copyBindings >>= ·) (funext fun _ => ?_)
      refine congrArg (QueryOver.listParts.forM q.walk >>= ·) (funext fun _ => ?_)
      dsimp only at rows
      rw [← rows]
      rfl
  · exact plain q q.branches _

/-! ### The law of unions -/

theorem exists_mem_of_forall₂ {α β : Type} {related : α → β → Prop} {a : α} :
    ∀ {as : List α} {bs : List β}, List.Forall₂ related as bs → a ∈ as → ∃ b ∈ bs, related a b
  | _, _, .cons (b := b) first rest, member => by
    rcases List.mem_cons.mp member with rfl | member
    · exact ⟨b, List.mem_cons_self .., first⟩
    · obtain ⟨b', inside, h⟩ := exists_mem_of_forall₂ rest member
      exact ⟨b', List.mem_cons_of_mem _ inside, h⟩

/-- The text of a select has one select for the query and one for each of its branches, and these are
all queries of a tree whose branches have no branches. Further branches leave no trace. -/
theorem selectText_union {text : String} (h : selectText write q = .ok text) :
    (∃ first names selects, IsUnion write q text first names selects ∧
      (q.IsShallow → ∀ other, q.Joins other → other = q ∨ ∃ select ∈ selects, ∃ columns,
        singleSelect write other (conditionsOf write other) (some names) = .ok (select, columns))) ∧
    selectText write q.shallow = .ok text := by
  refine ⟨?_, selectText_shallow.trans h⟩
  obtain ⟨first, names, selects, union⟩ := isUnion_of_selectText h
  refine ⟨first, names, selects, union, fun shallow other joined => ?_⟩
  rcases joined.of_isShallow shallow with rfl | ⟨b, member, found⟩
  · exact Or.inl rfl
  · obtain ⟨select, inside, other', columns, same, written⟩ := exists_mem_of_forall₂ union.goesOn member
    obtain rfl := Option.some.inj (found.symm.trans same)
    exact Or.inr ⟨select, inside, columns, written⟩

/-- A query with one branch. -/
theorem selectText_union_two :
    let q := (LiveQuery.afterCalls [.target (.text "User"),
      .unionAll (.body [.target (.text "Admin")])]).query
    let text := "MATCH (user:User) RETURN user UNION ALL MATCH (admin:Admin) RETURN admin AS user"
    selectText parameter q = .ok text ∧
    (∃ first names selects, IsUnion parameter q text first names selects ∧
      (q.IsShallow → ∀ other, q.Joins other → other = q ∨ ∃ select ∈ selects, ∃ columns,
        singleSelect parameter other (conditionsOf parameter other) (some names) =
          .ok (select, columns))) ∧
    selectText parameter q.shallow = .ok text := by
  intro q text
  have written : selectText parameter q = .ok text := Result.of_toOption (by decide +kernel)
  exact ⟨written, selectText_union written⟩

/-- The branch of a branch has a select that would fit, and the text of the union does not have it. -/
theorem selectText_nested :
    let q := (LiveQuery.afterCalls [.target (.text "User"), .union (.body [.target (.text "Admin"),
      .union (.body [.target (.text "Guest")]) (.bool false)]) (.bool false)]).query
    let text := "MATCH (user:User) RETURN user UNION MATCH (admin:Admin) RETURN admin AS user"
    let select := "MATCH (guest:Guest) RETURN guest AS user"
    (selectText parameter q).toOption = some text ∧
    (∃ other, q.Joins other ∧ (singleSelect parameter other (conditionsOf parameter other)
      (some ["user"])).toOption = some (select, ["user"])) ∧
    ¬ select.toList <:+: text.toList := by
  intro q text select
  have nested : q.Joins _ := .branch (.branch .root (List.mem_singleton_self _) rfl)
    (List.mem_singleton_self _) rfl
  exact ⟨by decide +kernel, ⟨_, nested, by decide +kernel⟩, by decide +kernel⟩

end Cypher

end GraphQuery
