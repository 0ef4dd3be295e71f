import GraphQuery.Proofs.Cypher.LegibleSelect

/-! # The select of a query that is counted

A count leaves order, paging and columns of a query out and puts an aggregate in.  Its patterns,
predicates, stages, groups with their conditions, and branches stay.

* `Query.counted` : what is counted, with the count as an aggregate or without it;
* `SelectTexts.counted` : the texts of its select mention what the clauses mention that are kept;
* `selectText_counted` : the whole select mentions nothing that the select of the query does not. -/

namespace GraphQuery

open GraphQuery.Text GraphQuery.Cypher

/-- The query without order, paging and columns, and with a count of these columns if there are any. -/
def Query.counted (q : Query) (columns : Option (List Value)) : Query :=
  q.projecting .null (columns.map fun vs => .clause ⟨"count", vs, "aggregate", none⟩) [] .null .null
    q.branches

namespace Cypher

variable {q : Query} {allowed : String → Prop} {text : String}

/-! ### The select of a count -/

section counted

variable {columns : Option (List Value)}

theorem onlyNodes_hasQuietParts
    (nodes : ∀ p, Member.clause p ∈ q.patterns → ∀ node, p.Binds node → Silent node) :
    q.onlyNodes.HasQuietParts where
  patterns := nodes
  stages := nofun
  columns := fun columns chosen => by
    obtain rfl : [star] = columns := Except.ok.inj chosen
    exact List.forall_mem_singleton.mpr trivial
  groups := nofun
  havings := nofun
  sortKeys := nofun
  aggregate := nofun

/-- A count of columns mentions nothing. -/
theorem countExpression_namesOnly
    (nodes : ∀ p, Member.clause p ∈ q.patterns → ∀ node, p.Binds node → Silent node) {vs : List Value}
    (quiet : ∀ v ∈ vs, v.IsQuietColumn)
    (h : aggregateExpression parameter q (.clause ⟨"count", vs, "aggregate", none⟩) = .ok text) :
    NamesOnly allowed text := by
  have function : Silent "count" := by decide
  obtain ⟨_, needed, h⟩ := Result.bind_eq_ok h
  obtain rfl := Except.ok.inj needed
  obtain ⟨texts, written, h⟩ := Result.bind_eq_ok h
  obtain rfl : "count" ++ "(" ++ (if countsDistinct q ⟨"count", vs, "aggregate", none⟩ then "DISTINCT "
    else "") ++ joined ", " texts ++ "" ++ ")" = text := Except.ok.inj h
  have all : NamesOnly allowed (joined ", " texts) :=
    namesOnly_joined (by decide) (Result.forall_of_mapM written fun v hv t e =>
      aggregateColumn_namesOnly (onlyNodes_hasQuietParts nodes) (quiet v hv)
        ((Query.sameNodes_onlyNodes.aggregateColumn ..).trans e))
  have front (distinct : Bool) :
      NamesOnly allowed ((if distinct then "DISTINCT " else "") ++ joined ", " texts) := by
    cases distinct with
    | true => exact (show Silent "DISTINCT " by decide).front all
    | false => exact silent_empty.front all
  exact (front (countsDistinct q ⟨"count", vs, "aggregate", none⟩)).brackets function '(' ')' (by decide)
    (by decide) (by simp [String.toList_append])

theorem renamed_count_namesOnly
    (nodes : ∀ p, Member.clause p ∈ q.patterns → ∀ node, p.Binds node → Silent node)
    (quiet : ∀ vs ∈ columns, ∀ v ∈ vs, v.IsQuietColumn) {a : Member Aggregate} {expression : String}
    {b : Aggregate} (own : (q.counted columns).aggregate = some a)
    (first : aggregateExpression parameter (q.counted columns) a = .ok expression)
    (second : a.need "alias" = .ok b) : NamesOnly allowed (renamed expression b.label) := by
  have label : Silent "aggregate" := by decide
  obtain ⟨vs, given, rfl⟩ := Option.map_eq_some_iff.mp own
  obtain rfl := Except.ok.inj second
  exact (countExpression_namesOnly (q := q.counted columns) nodes (quiet vs given) first).behind isSeam_as
    label.namesOnly

theorem aggregateText_counted_namesOnly
    (nodes : ∀ p, Member.clause p ∈ q.patterns → ∀ node, p.Binds node → Silent node)
    (quiet : ∀ vs ∈ columns, ∀ v ∈ vs, v.IsQuietColumn) {a : Member Aggregate}
    (own : (q.counted columns).aggregate = some a)
    (h : aggregateText parameter (q.counted columns) a = .ok text) : NamesOnly allowed text := by
  have front : Silent "RETURN " := by decide
  obtain ⟨expression, first, h⟩ := Result.bind_eq_ok h
  obtain ⟨b, second, h⟩ := Result.bind_eq_ok h
  obtain rfl := Except.ok.inj h
  exact front.front (renamed_count_namesOnly nodes quiet own first second)

/-- Without chosen columns a select returns everything: a star, the nodes, or what its groups and its
aggregate are called. -/
theorem returnItems_counted_namesOnly (kept : q.KeptWithin allowed)
    (nodes : ∀ p, Member.clause p ∈ q.patterns → ∀ node, p.Binds node → Silent node)
    {stage : String} {seen : Introduced} {items : List String}
    (matched : matchStage parameter q (conditionsOf parameter q) [] = .ok (stage, seen))
    (h : returnItems (q.counted columns) seen = .ok items) : ∀ t ∈ items, NamesOnly allowed t := by
  have star : Silent "*" := by decide
  have label : Silent "aggregate" := by decide
  refine (returnsItems_of_returnItems h).forall_mem (fun staged names carried => ?_) (fun _ => star.namesOnly)
    (fun entry member => ?_) fun chosen everything some => ?_
  · obtain ⟨groups, grouped, carries⟩ := carriesNames_of_carriedNames carried staged
    have own : ∀ t ∈ groups, NamesOnly allowed t := kept.names staged groups
      ((groupTexts_congr Query.sameNodes_projecting.groupName rfl rfl).symm.trans grouped)
    cases carries with
    | distinct => exact own
    | aggregated found =>
      obtain ⟨vs, -, found⟩ := Option.map_eq_some_iff.mp found
      obtain rfl := Member.clause.inj found
      exact List.forall_mem_append.mpr ⟨own, List.forall_mem_singleton.mpr label.namesOnly⟩
  · obtain ⟨_, _, _, _, _, first, second, -⟩ := matchStage_eq_ok matched
    exact (silent_of_hasNode (q := q.onlyNodes) (onlyNodes_hasQuietParts nodes)
      ((hasNode_of_introduced first second (isSome_lookup?_of_mem member)).resolve_left
        (by simp [lookup?]))).namesOnly
  · obtain rfl : [Cypher.star] = chosen := Except.ok.inj everything
    cases some

/-- The select of a count mentions what the clauses mention that are kept. -/
theorem SelectTexts.counted (plain : q.standIns = []) (kept : q.KeptWithin allowed)
    (nodes : ∀ p, Member.clause p ∈ q.patterns → ∀ node, p.Binds node → Silent node)
    (quiet : ∀ vs ∈ columns, ∀ v ∈ vs, v.IsQuietColumn) {names : Option (List String)}
    (s : SelectTexts (q.counted columns) names)
    (alone : names ≠ none → isStaged q = false ∧ columns ≠ none) : ∀ t ∈ s.all, NamesOnly allowed t := by
  have free : (q.counted columns).standIn? .sortKeys = none := by
    unfold QueryOver.standIn?
    rw [show (q.counted columns).standIns = [] from plain]
    rfl
  have order : orderText (q.counted columns) = .ok "" := by
    unfold orderText QueryOver.hasSortKeys QueryOver.isPresent
    rw [free]
    rfl
  have matched := matchStage_projecting.symm.trans s.matched
  simp only [all, List.forall_mem_cons]
  refine ⟨kept.stage _ _ matched, (carriesOn_of_withText s.grouped).namesOnly kept.projecting
    fun a e b own first second => renamed_count_namesOnly nodes quiet own first second, ?_,
    Except.ok.inj (order.symm.trans s.ordered) ▸ namesOnly_empty,
    Except.ok.inj ((rfl : skipText (q.counted columns) = .ok "").symm.trans s.skipped) ▸ namesOnly_empty,
    Except.ok.inj ((rfl : limitText (q.counted columns) = .ok "").symm.trans s.limited) ▸ namesOnly_empty,
    by simp⟩
  have shown := s.projects
  generalize s.projection = projection at shown
  generalize s.items = items at shown
  cases shown with
  | aggregate _ own written => exact aggregateText_counted_namesOnly nodes quiet own written
  | listed _ own => exact itemsText_namesOnly (returnItems_counted_namesOnly kept nodes matched own)
  | aligned lists =>
    obtain ⟨unstaged, counts⟩ := alone (by simp)
    exact absurd (Option.map_eq_none_iff.mp (lists unstaged)) counts

theorem singleSelect_counted (plain : q.standIns = []) (kept : q.KeptWithin allowed)
    (nodes : ∀ p, Member.clause p ∈ q.patterns → ∀ node, p.Binds node → Silent node)
    (quiet : ∀ vs ∈ columns, ∀ v ∈ vs, v.IsQuietColumn) {names : Option (List String)}
    (alone : names ≠ none → isStaged q = false ∧ columns ≠ none) {shown : List String}
    (h : singleSelect parameter (q.counted columns) (conditionsOf parameter (q.counted columns)) names =
      .ok (text, shown)) : NamesOnly allowed text := by
  obtain ⟨texts, rfl⟩ := exists_selectTexts h
  exact namesOnly_spaced (texts.counted plain kept nodes quiet alone)

end counted

/-! ### The whole select -/

section whole

variable {number : Nat} {columns : List Value}

theorem eq_nil_of_hasBranches (plain : q.standIns = []) (none : q.hasBranches = false) :
    q.branches = [] := by
  unfold QueryOver.hasBranches QueryOver.isPresent QueryOver.standIn? at none
  rw [plain] at none
  simpa using none

variable (plain : q.standIns = []) (legible : q.IsLegible number) (kept : q.KeptWithin allowed)
  (quiet : ∀ v ∈ columns, v.IsQuietColumn)

include plain legible kept quiet

/-- The branches of a count: the count again where a branch is the query itself, and the others under
other names of columns. -/
theorem branchTexts_counted {names : List String}
    (branches : ∀ b ∈ branchTexts parameter (Query.settle number q).branches, b.Within allowed names)
    (unstaged : isStaged q = false) (names' : List String) :
    ∀ b ∈ branchTexts parameter (Query.settle number (q.counted (some columns))).branches,
      b.NamesOnly allowed names' := by
  refine forall_branchTexts (q := q.counted (some columns)) (fun keepsAll => ?_) fun b member other => ?_
  · intro content found text shown written
    obtain rfl := Except.ok.inj found
    exact singleSelect_counted (q := { q with branches := [] }) plain
      (kept.replacing q.aggregate []) legible.clauses.nodes
      (fun vs same => Option.some.inj same ▸ quiet) (fun _ => ⟨unstaged, by simp⟩) written
  · refine BranchText.Within.realigned ((legible.branches b member).resolve_left other)
      (branches _ ?_) names'
    rw [branchTexts_eq_map]
    exact List.mem_map.mpr ⟨b, List.mem_map.mpr ⟨b, member, Query.settleBranch_other other⟩, rfl⟩

/-- The first select of a count, whether the count is in it or around it. -/
theorem firstSelect_counted (branches : List Branch) (counts : Option (List Value))
    (among : ∀ vs ∈ counts, vs = columns) {shown : List String}
    (h : singleSelect parameter (Query.counted { q with branches } counts)
      (conditionsOf parameter (Query.counted { q with branches } counts)) none = .ok (text, shown)) :
    NamesOnly allowed text :=
  singleSelect_counted (q := { q with branches }) plain (kept.replacing q.aggregate branches)
    legible.clauses.nodes (fun vs given => among vs given ▸ quiet) (fun given => absurd rfl given) h

end whole

/-- The select of a count mentions nothing that the select of the query does not mention. -/
theorem selectText_counted {number : Nat} (plain : q.standIns = []) (legible : q.IsLegible number)
    {columns : List Value} (quiet : ∀ v ∈ columns, v.IsQuietColumn)
    (h : selectText parameter (Query.settle number q) = .ok text) (within : NamesOnly allowed text)
    {count : String}
    (counts : selectText parameter (Query.settle number (q.counted (some columns))) = .ok count) :
    NamesOnly allowed count := by
  obtain ⟨kept, names, branches⟩ := (selectText_within allowed plain legible h).2 within
  have own : ∀ vs ∈ some columns, vs = columns := fun vs same => (Option.some.inj same).symm
  let settled := (Query.settle number (q.counted (some columns))).branches
  -- with branches the count stands around the union, and without any it stands in the select
  cases assembles_of_assembleSelect counts with
  | @aggregate a copy inner outer _ aggregate unstaged copied written aggregated =>
    obtain rfl := Except.ok.inj ((QueryOver.copied_plain
      (q := Query.settle number (q.counted (some columns))) plain).symm.trans copied)
    obtain ⟨⟨first, shown⟩, single, written⟩ := Result.bind_eq_ok written
    obtain ⟨-, -, appended⟩ := Result.bind_eq_ok written
    have rows : NamesOnly allowed first :=
      firstSelect_counted plain legible kept quiet settled none nofun single
    have result : NamesOnly allowed outer := aggregateText_counted_namesOnly
      (q := { q with branches := settled }) legible.clauses.nodes
      (fun vs given => own vs given ▸ quiet) aggregate aggregated
    exact callText_namesOnly (appendBranches_namesOnly
      (branchTexts_counted plain legible kept quiet branches unstaged shown) rows appended) result
  | plain absent written =>
    have alone : (Query.settle number (q.counted (some columns))).branches = [] :=
      eq_nil_of_hasBranches plain (Bool.eq_false_iff.mpr fun present => nomatch absent present)
    rw [alone] at written
    obtain ⟨⟨first, shown⟩, single, written⟩ := Result.bind_eq_ok written
    obtain ⟨-, -, appended⟩ := Result.bind_eq_ok written
    obtain rfl := Except.ok.inj appended
    exact firstSelect_counted plain legible kept quiet settled (some columns) own single

end Cypher

end GraphQuery
