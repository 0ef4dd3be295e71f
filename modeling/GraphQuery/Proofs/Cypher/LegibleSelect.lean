import GraphQuery.Proofs.Cypher.LegibleClauses
import GraphQuery.Proofs.Cypher.RawTexts
import GraphQuery.Proofs.Query.Plain

/-! # Selects of legible clauses

What the select of a legible query mentions is what its texts mention, one by one.

* `SelectTexts` : the texts of a select without its branches;
* `BranchText.Within.realigned` : a branch mentions the same under other names of columns;
* `selectText_within` : what the select of a legible query mentions bounds what its clauses and its
  branches mention;
* `Query.IsSilent.isLegible` : a silent query is legible. -/

namespace GraphQuery

open GraphQuery.Text GraphQuery.Cypher

namespace Cypher

variable {q : Query} {allowed : String → Prop} {text : String}

/-! ### Single selects -/

theorem namesOnly_itemsText_iff {items : List String} (h : ∀ t ∈ items, Legible t) :
    NamesOnly allowed (itemsText q items) ↔ ∀ t ∈ items, NamesOnly allowed t := by
  have joint := legible_iff.mpr (namesOnly_joined (by decide : IsSeam ", ") fun t ht =>
    legible_iff.mp (h t ht))
  unfold itemsText
  rw [namesOnly_front_iff (silent_return q) joint, namesOnly_joined_iff (by decide) h]

theorem namesOnly_spaced_iff {texts : List String} (h : ∀ t ∈ texts, Legible t) :
    NamesOnly allowed (spaced texts) ↔ ∀ t ∈ texts, NamesOnly allowed t := by
  refine ⟨fun within t ht => ?_, namesOnly_spaced⟩
  unfold spaced at within
  rw [namesOnly_joined_iff isSeam_blank fun t ht => h t (List.mem_of_mem_filter ht)] at within
  by_cases empty : t = ""
  · exact empty ▸ namesOnly_empty
  · exact within t (List.mem_filter.mpr ⟨ht, by simpa using empty⟩)

/-- The texts that a select without its branches is made of. -/
structure SelectTexts (q : Query) (names : Option (List String)) where
  stage : String
  seen : Introduced
  carried : String
  projection : String
  items : List String
  order : String
  skip : String
  limit : String
  matched : matchStage parameter q (conditionsOf parameter q) [] = .ok (stage, seen)
  grouped : withText parameter q = .ok carried
  projects : Projects parameter q seen names projection items
  ordered : orderText q = .ok order
  skipped : skipText q = .ok skip
  limited : limitText q = .ok limit

namespace SelectTexts

/-- All texts of a select, in their order. -/
def all {names : Option (List String)} (s : SelectTexts q names) : List String :=
  [s.stage, s.carried, s.projection, s.order, s.skip, s.limit]

end SelectTexts

theorem exists_selectTexts {names : Option (List String)} {columns : List String}
    (h : singleSelect parameter q (conditionsOf parameter q) names = .ok (text, columns)) :
    ∃ s : SelectTexts q names, text = spaced s.all := by
  obtain ⟨stage, seen, texts, matched, after, rfl⟩ := singleSelect_eq_ok h
  obtain ⟨carried, projection, items, order, skip, limit, grouped, projects, ordered, skipped, limited,
    rfl, rfl⟩ := afterStage_eq_ok after
  exact ⟨⟨stage, seen, carried, projection, items, order, skip, limit, matched, grouped, projects, ordered,
    skipped, limited⟩, rfl⟩

/-- Nothing is cut apart when the items of a query get these names. -/
def KeepsQuotations (q : Query) (names : Option (List String)) : Prop :=
  ∀ given ∈ names, ListsItems q → ∀ stage seen items,
    matchStage parameter q (conditionsOf parameter q) [] = .ok (stage, seen) →
      returnItems q seen = .ok items →
        ∀ p ∈ items.zip given, columnName p.1 ≠ p.2 → Silent (itemExpression p.1)

theorem keepsQuotations_none : KeepsQuotations q none := nofun

theorem keepsQuotations_of_cutsCleanly (cut : q.CutsCleanly) (names : Option (List String)) :
    KeepsQuotations q names := fun _ _ _ stage seen items matched returned p hp _ =>
  cut stage seen items matched returned p.1 (List.of_mem_zip hp).1

theorem aggregateText_legible (legible : q.HasLegibleClauses) {a : Member Aggregate}
    (own : q.aggregate = some a) (h : aggregateText parameter q a = .ok text) : Legible text := by
  have front : Silent "RETURN " := by decide
  obtain ⟨expression, first, h⟩ := Result.bind_eq_ok h
  obtain ⟨b, second, h⟩ := Result.bind_eq_ok h
  obtain rfl := Except.ok.inj h
  exact legible_iff.mpr (front.front (legible_iff.mp (legible.aggregate a expression b own first second)))

theorem Projects.namesOnly {names : Option (List String)} {seen : Introduced} {projection : String}
    {items : List String} (h : Projects parameter q seen names projection items)
    (legible : q.HasLegibleClauses) {stage : String}
    (matched : matchStage parameter q (conditionsOf parameter q) [] = .ok (stage, seen))
    (keeps : KeepsQuotations q names) (aggregate : ∀ a text, isStaged q = false → q.aggregate = some a →
      aggregateText parameter q a = .ok text → NamesOnly allowed text) : NamesOnly allowed projection := by
  have own {items : List String} (returned : returnItems q seen = .ok items) :
      ∀ t ∈ items, NamesOnly allowed t := fun t ht =>
    (legible.items stage seen items matched returned t ht).mono fun _ none => none.elim
  cases h with
  | aggregate unstaged found written => exact aggregate _ _ unstaged found written
  | listed _ returned => exact itemsText_namesOnly (own returned)
  | aligned lists returned renamed => exact itemsText_namesOnly (alignItems_namesOnly (own returned)
      (keeps _ rfl lists stage seen _ matched returned) renamed)

namespace SelectTexts

variable {names : Option (List String)} (s : SelectTexts q names)

theorem legible (clauses : q.HasLegibleClauses) (keeps : KeepsQuotations q names) :
    ∀ t ∈ s.all, Legible t := by
  have carried : NamesOnly (fun _ => True) s.carried :=
    (carriesOn_of_withText s.grouped).namesOnly clauses.kept fun a e b own first second =>
      legible_iff.mp (clauses.aggregate a e b own first second)
  have projection : NamesOnly (fun _ => True) s.projection :=
    s.projects.namesOnly clauses s.matched keeps fun a text _ own written =>
      legible_iff.mp (aggregateText_legible clauses own written)
  have skip : NamesOnly (fun _ => True) s.skip := countText_namesOnly (by decide) s.skipped
  have limit : NamesOnly (fun _ => True) s.limit := countText_namesOnly (by decide) s.limited
  simp only [all, List.forall_mem_cons]
  exact ⟨(clauses.kept.stage _ _ s.matched).legible, carried.legible, projection.legible,
    clauses.order _ s.ordered, skip.legible, limit.legible, by simp⟩

theorem mem_carriedNames {names items : List String} (staged : isStaged q = true)
    (grouped : groupTexts q groupName = .ok names) (h : carriedNames q = .ok items) {t : String}
    (member : t ∈ names) : t ∈ items := by
  obtain ⟨names', grouped', carries⟩ := carriesNames_of_carriedNames h staged
  obtain rfl := Except.ok.inj (grouped.symm.trans grouped')
  cases carries with
  | distinct => exact member
  | aggregated => exact List.mem_append_left _ member

/-- What a first select mentions bounds what its clauses mention. -/
theorem keptWithin (s : SelectTexts q none) (clauses : q.HasLegibleClauses)
    (within : ∀ t ∈ s.all, NamesOnly allowed t) : q.KeptWithin allowed := by
  simp only [all, List.forall_mem_cons] at within
  obtain ⟨stage, carried, projection, -⟩ := within
  obtain ⟨parts, groups, havings⟩ := (carriesOn_of_withText s.grouped).parts clauses carried
  refine ⟨fun stage' seen' matched' => ?_, parts, groups, havings, fun staged names grouped t ht => ?_⟩
  · obtain ⟨rfl, rfl⟩ := Prod.mk.inj (Except.ok.inj (s.matched.symm.trans matched'))
    exact stage
  · have shown := s.projects
    generalize s.projection = projected at shown projection
    generalize s.items = items at shown
    cases shown with
    | aggregate unstaged => cases unstaged.symm.trans staged
    | listed _ returned =>
      have each : ∀ t ∈ items, Legible t := fun t ht =>
        (clauses.items _ _ items s.matched returned t ht).legible
      refine (namesOnly_itemsText_iff each).mp projection t (mem_carriedNames staged grouped ?_ ht)
      unfold returnItems at returned
      rwa [if_pos staged] at returned

/-- The same select under other names mentions nothing more. -/
theorem realigned (clauses : q.HasLegibleClauses) (cut : q.CutsCleanly) {names' : Option (List String)}
    (s' : SelectTexts q names') (within : ∀ t ∈ s.all, NamesOnly allowed t) :
    ∀ t ∈ s'.all, NamesOnly allowed t := by
  simp only [all, List.forall_mem_cons] at within ⊢
  obtain ⟨stage, carried, projection, order, skip, limit, -⟩ := within
  have matched := Except.ok.inj (s.matched.symm.trans s'.matched)
  refine ⟨(Prod.mk.inj matched).1 ▸ stage, Except.ok.inj (s.grouped.symm.trans s'.grouped) ▸ carried, ?_,
    Except.ok.inj (s.ordered.symm.trans s'.ordered) ▸ order,
    Except.ok.inj (s.skipped.symm.trans s'.skipped) ▸ skip,
    Except.ok.inj (s.limited.symm.trans s'.limited) ▸ limit, by simp⟩
  refine s'.projects.namesOnly clauses s'.matched (keepsQuotations_of_cutsCleanly cut _)
    fun a text unstaged own written => ?_
  have shown := s.projects
  generalize s.projection = projected at shown projection
  generalize s.items = items at shown
  cases shown with
  | aggregate _ own' written' =>
    obtain rfl := Option.some.inj (own.symm.trans own')
    exact Except.ok.inj (written'.symm.trans written) ▸ projection
  | listed lists | aligned lists => cases own.symm.trans (lists unstaged)

end SelectTexts

/-! ### Branches -/

/-- A branch that is written under some names and mentions nothing but what is allowed. -/
def BranchText.Within (allowed : String → Prop) (names : List String) (b : BranchText) : Prop :=
  ∃ content text columns, b.content = .ok content ∧
    singleSelect parameter content.1 content.2 (some names) = .ok (text, columns) ∧
      Cypher.NamesOnly allowed text

/-- What a union mentions bounds what its first select and its branches mention. -/
theorem appendBranches_within {names : List String} : ∀ {branches : List BranchText} {text whole : String},
    Legible text → (∀ b ∈ branches, b.NamesOnly (fun _ => True) names) →
      appendBranches parameter names text branches = .ok whole → NamesOnly allowed whole →
        NamesOnly allowed text ∧ ∀ b ∈ branches, b.Within allowed names
  | [], _, _, _, _, h, within => by
    obtain rfl := Except.ok.inj h
    exact ⟨within, by simp⟩
  | b :: rest, text, _, first, each, h, within => by
    obtain ⟨own, others⟩ := List.forall_mem_cons.mp each
    obtain ⟨content, found, h⟩ := Result.bind_eq_ok h
    obtain ⟨⟨branch, columns⟩, written, h⟩ := Result.bind_eq_ok h
    have keyword : Silent b.keyword := by unfold BranchText.keyword; split <;> decide
    have read : Legible branch := (own content found branch columns written).legible
    have before : Legible (text ++ " " ++ b.keyword) :=
      ((legible_iff.mp first).spaced keyword.namesOnly).legible
    have both : Legible (text ++ " " ++ b.keyword ++ " " ++ branch) :=
      ((legible_iff.mp before).spaced (legible_iff.mp read)).legible
    obtain ⟨whole, later⟩ := appendBranches_within both others h within
    rw [namesOnly_behind_iff before isSeam_blank read,
      namesOnly_behind_iff first isSeam_blank keyword.legible] at whole
    exact ⟨whole.1.1, List.forall_mem_cons.mpr ⟨⟨content, branch, columns, found, written, whole.2⟩, later⟩⟩

theorem branchContent_eq {s : SubQuery} {content : Query × Conditions}
    (h : branchContent parameter s = .ok content) :
    s.query? = some content.1 ∧ content.2 = conditionsOf parameter content.1 := by
  cases s with
  | own q =>
    obtain rfl := Except.ok.inj h
    exact ⟨rfl, rfl⟩
  | shared number seen =>
    cases seen with
    | none => cases h
    | some q =>
      obtain rfl := Except.ok.inj h
      exact ⟨rfl, rfl⟩
  | foreign v => cases h

theorem branchContent_legible {s : SubQuery} (legible : ∀ other, s.query? = some other →
    other.HasLegibleClauses ∧ other.CutsCleanly) (keepsAll : Bool) (names : List String) :
    BranchText.NamesOnly (fun _ => True) names ⟨keepsAll, branchContent parameter s⟩ := by
  intro content found text columns written
  obtain ⟨known, conditions⟩ := branchContent_eq found
  obtain ⟨clauses, cut⟩ := legible content.1 known
  rw [conditions] at written
  obtain ⟨texts, rfl⟩ := exists_selectTexts written
  exact namesOnly_spaced fun t ht => legible_iff.mp
    (texts.legible clauses (keepsQuotations_of_cutsCleanly cut _) t ht)

theorem BranchText.Within.realigned {s : SubQuery} (legible : ∀ other, s.query? = some other →
    other.HasLegibleClauses ∧ other.CutsCleanly) {keepsAll : Bool} {names : List String}
    (h : BranchText.Within allowed names ⟨keepsAll, branchContent parameter s⟩) (names' : List String) :
    BranchText.NamesOnly allowed names' ⟨keepsAll, branchContent parameter s⟩ := by
  obtain ⟨content, text, columns, found, written, within⟩ := h
  intro content' found' text' columns' written'
  obtain rfl := Except.ok.inj (found.symm.trans found')
  obtain ⟨known, conditions⟩ := branchContent_eq found
  obtain ⟨clauses, cut⟩ := legible content.1 known
  rw [conditions] at written written'
  obtain ⟨texts, rfl⟩ := exists_selectTexts written
  obtain ⟨texts', rfl⟩ := exists_selectTexts written'
  rw [namesOnly_spaced_iff (texts.legible clauses (keepsQuotations_of_cutsCleanly cut _))] at within
  exact namesOnly_spaced (texts.realigned clauses cut texts' within)

/-! ### Whole selects -/

variable (allowed) in
theorem plainSelect_within {branches : List BranchText} (clauses : q.HasLegibleClauses)
    (each : ∀ names, GivesNames q (conditionsOf parameter q) names →
      ∀ b ∈ branches, b.NamesOnly (fun _ => True) names)
    (h : plainSelect parameter q (conditionsOf parameter q) branches = .ok text) :
    Legible text ∧ (NamesOnly allowed text →
      q.KeptWithin allowed ∧ ∃ names, ∀ b ∈ branches, b.Within allowed names) := by
  obtain ⟨⟨first, names⟩, written, h⟩ := Result.bind_eq_ok h
  obtain ⟨-, -, h⟩ := Result.bind_eq_ok h
  obtain ⟨texts, rfl⟩ := exists_selectTexts written
  have legible := texts.legible clauses keepsQuotations_none
  have read : NamesOnly (fun _ => True) (spaced texts.all) :=
    namesOnly_spaced fun t ht => legible_iff.mp (legible t ht)
  have named := each names (Or.inl ⟨_, written⟩)
  refine ⟨(appendBranches_namesOnly named read h).legible, fun within => ?_⟩
  obtain ⟨own, others⟩ := appendBranches_within read.legible named h within
  rw [namesOnly_spaced_iff legible] at own
  exact ⟨texts.keptWithin clauses own, names, others⟩

theorem namesOnly_callText_iff {inner outer : String} (rows : Legible inner) (result : Legible outer) :
    NamesOnly allowed ("CALL \x7b " ++ inner ++ " \x7d " ++ outer) ↔
      NamesOnly allowed inner ∧ NamesOnly allowed outer := by
  have blank : Silent " " := by decide
  have front : Silent "CALL " := by decide
  have padded : Legible (" " ++ inner ++ " ") :=
    ((blank.front (legible_iff.mp rows)).close isSeam_blank).legible
  have shape : ("CALL \x7b " ++ inner ++ " \x7d").toList =
      "CALL ".toList ++ '\x7b' :: ((" " ++ inner ++ " ").toList ++ ['\x7d']) := by
    simp [String.toList_append]
  have call : NamesOnly allowed ("CALL \x7b " ++ inner ++ " \x7d") ↔ NamesOnly allowed inner := by
    rw [namesOnly_brackets_iff front (by decide) (by decide) padded shape,
      namesOnly_close_iff (legible_iff.mpr (blank.front (legible_iff.mp rows))) isSeam_blank,
      namesOnly_front_iff blank rows]
  have read : Legible ("CALL \x7b " ++ inner ++ " \x7d") :=
    ((legible_iff.mp padded).brackets front '\x7b' '\x7d' (by decide) (by decide) shape).legible
  rw [callText_eq, namesOnly_behind_iff read isSeam_blank result, call]

end Cypher

/-! ### Queries with their branches -/

namespace Query

variable {q : Query} {number : Nat} {b : Branch}

/-- A branch that is the query itself is brought up to date. -/
theorem settleBranch_itself {seen : Query} (itself : b.query = .shared number (some seen)) :
    settleBranch number q b = ⟨.shared number (some { q with branches := [] }), b.keepsAll⟩ := by
  unfold settleBranch
  rw [itself]
  exact if_pos rfl

theorem settleBranch_other (other : ¬ ∃ seen, b.query = .shared number (some seen)) :
    settleBranch number q b = b := by
  unfold settleBranch
  split
  · next n seen found =>
    refine if_neg fun same => other ⟨seen, ?_⟩
    rw [found, same]
  · rfl

end Query

namespace Cypher

variable {q : Query} {allowed : String → Prop} {text : String} {number : Nat}

theorem branchTexts_eq_map (write : String → String) : ∀ branches : List Branch,
    branchTexts write branches = branches.map fun b => ⟨b.keepsAll, branchContent write b.query⟩
  | [] => rfl
  | b :: rest => by rw [branchTexts, branchTexts_eq_map write rest, List.map_cons]

theorem forall_branchTexts {P : BranchText → Prop}
    (itself : ∀ keepsAll, P ⟨keepsAll, .ok ({ q with branches := [] }, conditionsOf parameter q)⟩)
    (other : ∀ b ∈ q.branches, (¬ ∃ seen, b.query = .shared number (some seen)) →
      P ⟨b.keepsAll, branchContent parameter b.query⟩) :
    ∀ b ∈ branchTexts parameter (Query.settle number q).branches, P b := by
  rw [branchTexts_eq_map]
  intro text member
  obtain ⟨settled, inside, rfl⟩ := List.mem_map.mp member
  obtain ⟨b, given, rfl⟩ := List.mem_map.mp inside
  by_cases own : ∃ seen, b.query = .shared number (some seen)
  · obtain ⟨seen, found⟩ := own
    rw [Query.settleBranch_itself found]
    exact itself b.keepsAll
  · rw [Query.settleBranch_other own]
    exact other b given own

theorem branchTexts_legible (legible : q.IsLegible number) {names : List String}
    (given : GivesNames (Query.settle number q) (conditionsOf parameter (Query.settle number q)) names) :
    ∀ b ∈ branchTexts parameter (Query.settle number q).branches, b.NamesOnly (fun _ => True) names := by
  refine forall_branchTexts (fun keepsAll => ?_) fun b member other =>
    branchContent_legible ((legible.branches b member).resolve_left other) b.keepsAll names
  intro content found text columns written
  obtain rfl := Except.ok.inj found
  obtain ⟨texts, rfl⟩ := exists_selectTexts (q := { q with branches := [] }) written
  refine namesOnly_spaced fun t ht => legible_iff.mp (texts.legible
    (legible.clauses.projecting (Or.inl rfl)) ?_ t ht)
  intro names' same lists stage seen items matched returned p hp apart
  obtain rfl := Option.some.inj same
  exact absurd (given.columnName_eq lists matched returned p hp) apart

variable (allowed) in
/-- What the select of a legible query mentions bounds what its clauses and its branches mention. -/
theorem selectText_within (plain : q.standIns = []) (legible : q.IsLegible number)
    (h : selectText parameter (Query.settle number q) = .ok text) :
    Legible text ∧ (NamesOnly allowed text → q.KeptWithin allowed ∧ ∃ names,
      ∀ b ∈ branchTexts parameter (Query.settle number q).branches, b.Within allowed names) := by
  cases assembles_of_assembleSelect h with
  | @aggregate a copy inner outer _ own unstaged copied written aggregated =>
    obtain rfl := Except.ok.inj
      ((QueryOver.copied_plain (q := Query.settle number q) plain).symm.trans copied)
    obtain ⟨rows, bounds⟩ := plainSelect_within allowed
      (q := { Query.settle number q with aggregate := none })
      (legible.clauses.projecting (Or.inr ⟨unstaged, rfl⟩))
      (fun names _ => branchTexts_legible legible (Or.inr ⟨unstaged, own ▸ Option.some_ne_none a⟩)) written
    have result : Legible outer := aggregateText_legible
      (q := Query.settle number q) (legible.clauses.projecting (Or.inl rfl)) own aggregated
    refine ⟨(callText_namesOnly (legible_iff.mp rows) (legible_iff.mp result)).legible, fun within => ?_⟩
    obtain ⟨kept, branches⟩ := bounds ((namesOnly_callText_iff rows result).mp within).1
    exact ⟨kept.replacing q.aggregate q.branches, branches⟩
  | plain _ written =>
    obtain ⟨whole, bounds⟩ := plainSelect_within allowed (q := Query.settle number q)
      (legible.clauses.projecting (Or.inl rfl)) (fun names given => branchTexts_legible legible given) written
    refine ⟨whole, fun within => ?_⟩
    obtain ⟨kept, branches⟩ := bounds within
    exact ⟨kept.replacing q.aggregate q.branches, branches⟩

end Cypher

/-- A silent query is legible, if its branches cut their items cleanly. -/
theorem Query.IsSilent.isLegible {q : Query} {number : Nat} (silent : q.IsSilent)
    (clean : AllCutCleanly q.branchQueries) : q.IsLegible number := by
  obtain ⟨wheres, branches⟩ := allCutCleanly_append.mp clean
  refine ⟨silent.parts.legibleClauses (areSilent.areQuiet silent.wheres wheres), fun b member =>
    Or.inr fun other found => ?_⟩
  obtain ⟨quiet, cut⟩ :=
    areQuietBranches_of_mem (areSilentBranches.areQuiet silent.branches branches) member
  refine ⟨?_, cut other found⟩
  generalize b.query = s at quiet found
  cases s with
  | own q =>
    obtain rfl := Option.some.inj found
    exact quiet.1.legibleClauses quiet.2.1
  | shared n seen =>
    obtain rfl : seen = some other := found
    exact quiet.1.legibleClauses quiet.2.1
  | foreign v => cases found

end GraphQuery
