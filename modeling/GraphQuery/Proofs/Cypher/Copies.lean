import GraphQuery.Cypher.Select
import GraphQuery.Proofs.Cypher.Columns
import Mathlib.Data.List.Forall2

/-! # The text of a copy

The text of a copy under new names is the text of the query, with the new name in the place of every
parameter. Two things are proved about it at once, for any two ways of writing parameters:

* the copy has no text exactly if the query has none, and then for the same reason;
* the texts are equal if the ways of writing parameters *agree*, so that a new name is written for
  the copy as the old one is for the query.

`Result.Agree (Same agreeing)` says both. There is one lemma for each function that puts a text
together, and `SubQuery.text_rename` follows by induction on the query. -/

namespace GraphQuery

open GraphQuery.Cypher GraphQuery.Text BindingTable Result

/-- Two things are equal if the ways of writing parameters agree. -/
def Same {α : Type} (agreeing : Prop) (a b : α) : Prop := agreeing → a = b

/-- New names, with a way of writing the parameters of a copy and one for those of the query. An
empty name, which stands for no parameter, stays empty, and no other name becomes empty. -/
structure Renaming (agreeing : Prop) (renames : Renames) (write write' : String → String) : Prop where
  empty : ∀ n, renames.apply n = "" ↔ n = ""
  written : agreeing → ∀ n, write (renames.apply n) = write' n

theorem Same.refl {α : Type} {agreeing : Prop} (a : α) : Same agreeing a a := fun _ => rfl

theorem Same.map {α β : Type} {agreeing : Prop} {a b : α} (f : α → β) (h : Same agreeing a b) :
    Same agreeing (f a) (f b) := fun agree => congrArg f (h agree)

theorem Same.ok {α : Type} {agreeing : Prop} {a b : α} (h : Same agreeing a b) :
    Agree (Same agreeing) (.ok a) (.ok b) := h

namespace Cypher

variable {agreeing : Prop} {renames : Renames} {write write' : String → String} {q : Query}
  {wheres : List Predicate} {branches : List Branch}

/-! ### Patterns -/

theorem constraintText_rename (h : Renaming agreeing renames write write') (p : Pattern) :
    Same agreeing (constraintText write (p.rename renames)) (constraintText write' p) := by
  intro agree
  unfold constraintText
  rw [show (p.rename renames).binding = p.binding.map renames.apply from rfl,
    show (p.rename renames).property = p.property from rfl]
  cases p.binding with
  | none => rfl
  | some n =>
      cases p.property with
      | none => rfl
      | some property =>
          show (if renames.apply n = "" ∨ property = "" then "" else
            _ ++ " = " ++ write (renames.apply n)) = _
          simp only [h.written agree, h.empty n]
          rfl

theorem optionalClauses_rename (h : Renaming agreeing renames write write') :
    ∀ (patterns : List (Member Pattern)) (seen : Introduced),
      Agree (fun a b => Same agreeing a.1 b.1 ∧ a.2 = b.2)
        (optionalClauses write (patterns.map (Member.map (Pattern.rename renames))) seen)
        (optionalClauses write' patterns seen)
  | [], _ => ⟨.refl _, rfl⟩
  | .foreign _ :: _, _ => rfl
  | .clause p :: rest, seen => by
    show Agree _ (optionalClauses write (.clause (p.rename renames) :: _) seen) _
    unfold optionalClauses
    rw [show (p.rename renames).isOptional = p.isOptional from rfl, patternText_rename]
    split
    · refine .after _ fun t _ => .bind (optionalClauses_rename h rest t.2) fun a b same => ?_
      refine ⟨fun agree => ?_, same.2⟩
      show _ :: a.1 = _ :: b.1
      rw [constraintText_rename h p agree, same.1 agree]
    · exact optionalClauses_rename h rest seen

/-- The optional patterns of a copy. -/
theorem optionalText_under (h : Renaming agreeing renames write write') (seen : Introduced) :
    Agree (fun a b => Same agreeing a.1 b.1 ∧ a.2 = b.2)
      (optionalText write (q.under renames wheres branches) seen) (optionalText write' q seen) := by
  unfold optionalText
  refine .after (q.walk .patterns) fun _ _ => .bind (optionalClauses_rename h q.patterns seen) ?_
  exact fun a b same => ⟨same.1.map (joined " "), same.2⟩

theorem filterMap_clause_map {α : Type} (f : α → α) : ∀ members : List (Member α),
    (members.map (Member.map f)).filterMap Member.clause? = (members.filterMap Member.clause?).map f
  | [] => rfl
  | .foreign _ :: rest => filterMap_clause_map f rest
  | .clause c :: rest => congrArg (f c :: ·) (filterMap_clause_map f rest)

theorem requiredConstraints_under (h : Renaming agreeing renames write write') :
    Same agreeing (requiredConstraints write (q.under renames wheres branches))
      (requiredConstraints write' q) := by
  intro agree
  unfold requiredConstraints
  have required : ((q.patterns.map (Member.map (Pattern.rename renames))).filterMap
      Member.clause?).filter (fun p => !p.isOptional) =
        ((q.patterns.filterMap Member.clause?).filter fun p => !p.isOptional).map
          (Pattern.rename renames) := by
    rw [filterMap_clause_map, List.filter_map]
    rfl
  have texts : constraintText write ∘ Pattern.rename renames = constraintText write' :=
    funext fun p => constraintText_rename h p agree
  show ((((q.patterns.map (Member.map (Pattern.rename renames))).filterMap Member.clause?).filter
    fun p => !p.isOptional).map (constraintText write)).filter (· ≠ "") = _
  rw [required, List.map_map, texts]

/-! ### Aggregates and conditions on groups -/

/-- A clause that is asked for is the renamed one. -/
theorem need_agree {α : Type} (f : α → α) (name : String) : ∀ m : Member α,
    Agree (fun a b => a = f b) ((m.map f).need name) (m.need name)
  | .foreign _ | .clause _ => rfl

/-- The name of a percentile stays there, or stays away. -/
theorem percentile_rename (h : Renaming agreeing renames write write') (p : Option String) :
    (p.map renames.apply).filter (· ≠ "") = (p.filter (· ≠ "")).map renames.apply := by
  cases p with
  | none => rfl
  | some n =>
      rw [Option.map_some, Option.filter_some, Option.filter_some]
      simp only [ne_eq, h.empty n]
      split <;> rfl

theorem aggregateExpression_under (h : Renaming agreeing renames write write')
    (m : Member Aggregate) : Agree (Same agreeing)
      (aggregateExpression write (q.under renames wheres branches)
        (m.map (Aggregate.rename renames))) (aggregateExpression write' q m) := by
  unfold aggregateExpression
  refine .bind (need_agree (Aggregate.rename renames) "function" m) fun _ a same => ?_
  obtain rfl := same
  unfold Aggregate.rename
  dsimp only
  cases lookup? a.function aggregateFunctions with
  | none => exact Eq.refl (Error.render (.unsupportedAggregate a.function))
  | some function =>
      have columns (isDistinct : Bool) : aggregateColumn (q.under renames wheres branches) function
          isDistinct = aggregateColumn q function isDistinct :=
        funext fun column => aggregateColumn_under function isDistinct column
      dsimp only
      rw [columns, percentile_rename h]
      refine .after _ fun texts _ => Same.ok fun agree => ?_
      cases a.percentile.filter (· ≠ "") with
      | none => rfl
      | some n =>
          show _ ++ (", " ++ write (renames.apply n)) ++ ")" = _
          rw [h.written agree]
          rfl

theorem aggregateText_under (h : Renaming agreeing renames write write')
    (m : Member Aggregate) : Agree (Same agreeing)
      (aggregateText write (q.under renames wheres branches) (m.map (Aggregate.rename renames)))
      (aggregateText write' q m) := by
  unfold aggregateText
  refine .bind (aggregateExpression_under h m) fun a b same => ?_
  refine .bind (need_agree (Aggregate.rename renames) "alias" m) fun _ c e => ?_
  obtain rfl := e
  exact Same.ok (same.map fun expression => "RETURN " ++ renamed expression c.label)

theorem havingText_under (h : Renaming agreeing renames write write') :
    Agree (Same agreeing) (havingText write (q.under renames wheres branches))
      (havingText write' q) := by
  unfold havingText
  refine .after (q.walk .havings) fun _ _ => ?_
  show Agree _ ((q.havings.map (Member.map (Having.rename renames))).mapM (Member.need "column")
    >>= _) _
  rw [mapM_need_map]
  show Agree _ (Except.map _ (q.havings.mapM (Member.need "column")) >>= _)
    (q.havings.mapM (Member.need "column") >>= _)
  cases q.havings.mapM (Member.need "column") with
  | error e => exact Eq.refl e
  | ok havings =>
      refine Same.ok fun agree => ?_
      show joinConditions ((havings.map (Having.rename renames)).map fun h => (h.joint,
        h.column ++ " " ++ h.operator ++ " " ++ write h.binding)) = _
      rw [List.map_map]
      congr 2
      funext having
      show (having.joint, _ ++ write (renames.apply having.binding)) = _
      rw [h.written agree]
      rfl

@[simp] theorem hasAggregate_under :
    hasAggregate (q.under renames wheres branches) = hasAggregate q := by
  unfold hasAggregate
  rw [show (q.under renames wheres branches).aggregate =
    q.aggregate.map (Member.map (Aggregate.rename renames)) from rfl]
  cases q.aggregate with
  | none => rfl
  | some m => cases m <;> rfl

theorem withText_under (h : Renaming agreeing renames write write') :
    Agree (Same agreeing) (withText write (q.under renames wheres branches))
      (withText write' q) := by
  have groups : groupTexts (q.under renames wheres branches) groupItem = groupTexts q groupItem :=
    groupTexts_under groupItem_under
  have aggregate : (q.under renames wheres branches).aggregate =
      q.aggregate.map (Member.map (Aggregate.rename renames)) := rfl
  have last {a b : String} (same : Same agreeing a b) : Agree (Same agreeing)
      (if q.hasHavings then do
        return a ++ " WHERE " ++ (← havingText write (q.under renames wheres branches))
      else return a)
      (if q.hasHavings then do return b ++ " WHERE " ++ (← havingText write' q) else return b) := by
    split
    · refine .bind (havingText_under h) fun c d same' => Same.ok fun agree => ?_
      rw [same agree, same' agree]
    · exact same.ok
  unfold withText
  simp only [hasStages_under, isStaged_under, hasHavings_under, hasGroups_under,
    hasAggregate_under, groups, aggregate]
  split
  · exact .refl .refl _
  split
  · exact Same.refl ""
  split
  · exact Eq.refl (Error.render .havingWithoutGroups)
  refine .after _ fun names _ => ?_
  cases q.aggregate with
  | none => exact last (Same.refl _)
  | some m =>
      refine .bind (aggregateExpression_under h m) fun a b same => ?_
      refine .bind (need_agree (Aggregate.rename renames) "alias" m) fun _ c e => ?_
      obtain rfl := e
      exact last (same.map fun expression =>
        "WITH " ++ joined ", " (names ++ [renamed expression c.label]))

/-! ### Selects -/

/-- The conditions of a copy: what they read is the same, and so are the texts if the ways of
writing parameters agree. -/
structure ConditionsAgree (agreeing : Prop) (c c' : Conditions) : Prop where
  text : Agree (Same agreeing) c.text c'.text
  reads : c.reads = c'.reads

variable {conditions conditions' : Conditions}

theorem whereText_under (h : Renaming agreeing renames write write')
    (count : wheres.length = q.wheres.length) {predicates predicates' : String}
    (same : Same agreeing predicates predicates') :
    Same agreeing (whereText write (q.under renames wheres branches) predicates)
      (whereText write' q predicates') := by
  intro agree
  unfold whereText
  rw [requiredConstraints_under h agree, same agree,
    show (q.under renames wheres branches).wheres.length = q.wheres.length from count]

theorem matchStage_under (h : Renaming agreeing renames write write')
    (count : wheres.length = q.wheres.length)
    (agree : ConditionsAgree agreeing conditions conditions') (introduced : Introduced) :
    Agree (fun a b => Same agreeing a.1 b.1 ∧ a.2 = b.2)
      (matchStage write (q.under renames wheres branches) conditions introduced)
      (matchStage write' q conditions' introduced) := by
  unfold matchStage
  rw [requiredText_under, agree.reads]
  refine .after _ fun before _ => .bind (optionalText_under h before.2) ?_
  rintro ⟨optional, seen⟩ ⟨optional', seen'⟩ ⟨same, e⟩
  obtain rfl : seen = seen' := e
  replace same : Same agreeing optional optional' := same
  refine .after (q.walk .wheres) fun _ _ => .after _ fun reads _ => ?_
  refine .bind agree.text fun predicates predicates' texts => ?_
  split
  · refine ⟨fun agree => ?_, rfl⟩
    show spaced [_, _, optional, "WITH * WHERE " ++ predicates] = _
    rw [same agree, texts agree, whereText_under h count (Same.refl "") agree]
  · refine ⟨fun agree => ?_, rfl⟩
    show spaced [_, _, optional] = _
    rw [same agree, whereText_under h count texts agree]

theorem singleSelect_under (h : Renaming agreeing renames write write')
    (count : wheres.length = q.wheres.length)
    (agree : ConditionsAgree agreeing conditions conditions') (names : Option (List String)) :
    Agree (fun a b => Same agreeing a.1 b.1 ∧ a.2 = b.2)
      (singleSelect write (q.under renames wheres branches) conditions names)
      (singleSelect write' q conditions' names) := by
  have aggregate : (q.under renames wheres branches).aggregate =
      q.aggregate.map (Member.map (Aggregate.rename renames)) := rfl
  have distinct : distinctText (q.under renames wheres branches) = distinctText q := rfl
  have skip : skipText (q.under renames wheres branches) = skipText q := rfl
  have limit : limitText (q.under renames wheres branches) = limitText q := rfl
  unfold singleSelect
  simp only [isStaged_under, returnItems_under, orderText_under, aggregate, distinct, skip, limit]
  refine .bind (matchStage_under h count agree []) ?_
  rintro ⟨stage, seen⟩ ⟨stage', seen'⟩ ⟨same, e⟩
  obtain rfl : seen = seen' := e
  replace same : Same agreeing stage stage' := same
  refine .bind (withText_under h) fun carried carried' same' => ?_
  have last {p p' : String} (items : List String) (projection : Same agreeing p p') :
      Agree (fun a b => Same agreeing a.1 b.1 ∧ a.2 = b.2)
        (do
          let order ← orderText q
          let skip ← skipText q
          let limit ← limitText q
          return (spaced [stage, carried, p, order, skip, limit], items.map columnName))
        (do
          let order ← orderText q
          let skip ← skipText q
          let limit ← limitText q
          return (spaced [stage', carried', p', order, skip, limit], items.map columnName)) := by
    refine .after _ fun order _ => .after _ fun skip _ => .after _ fun limit _ => ?_
    refine ⟨fun agree => ?_, rfl⟩
    show spaced [stage, carried, p, _, _, _] = _
    rw [same agree, same' agree, projection agree]
  have chosen (align : List String → Result (List String)) :
      Agree (fun a b => Same agreeing a.1 b.1 ∧ a.2 = b.2)
      (do
        let items ← returnItems q seen
        let items ← align items
        let order ← orderText q
        let skip ← skipText q
        let limit ← limitText q
        return (spaced [stage, carried, "RETURN " ++ distinctText q ++ joined ", " items, order,
          skip, limit], items.map columnName))
      (do
        let items ← returnItems q seen
        let items ← align items
        let order ← orderText q
        let skip ← skipText q
        let limit ← limitText q
        return (spaced [stage', carried', "RETURN " ++ distinctText q ++ joined ", " items, order,
          skip, limit], items.map columnName)) := by
    exact .after _ fun items _ => .after _ fun items _ => last items (Same.refl _)
  cases isStaged q with
  | true =>
      cases names with
      | none => cases q.aggregate <;> exact chosen .ok
      | some names => cases q.aggregate <;> exact chosen (alignItems · names)
  | false =>
      cases q.aggregate with
      | none =>
          cases names with
          | none => exact chosen .ok
          | some names => exact chosen (alignItems · names)
      | some m => exact .bind (aggregateText_under h m) fun a b texts => last [] texts

/-- A branch of a copy: its query is a copy too. -/
def BranchAgrees (agreeing : Prop) (renames : Renames) (b b' : BranchText) : Prop :=
  b.keepsAll = b'.keepsAll ∧ Agree (fun c c' => ∃ wheres branches,
    c.1 = c'.1.under renames wheres branches ∧ wheres.length = c'.1.wheres.length ∧
    ConditionsAgree agreeing c.2 c'.2) b.content b'.content

theorem appendBranches_agree (h : Renaming agreeing renames write write') (names : List String) :
    ∀ {texts texts' : List BranchText} {text text' : String}, Same agreeing text text' →
      List.Forall₂ (BranchAgrees agreeing renames) texts texts' →
      Agree (Same agreeing) (appendBranches write names text texts)
        (appendBranches write' names text' texts')
  | _, _, _, _, same, .nil => same.ok
  | _, _, _, _, same, .cons (a := b) (b := b') head rest => by
    refine .bind head.2 ?_
    rintro ⟨c, conditions⟩ ⟨c', conditions'⟩ ⟨wheres, branches, e, count, agree⟩
    obtain rfl : c = c'.under renames wheres branches := e
    refine .bind (singleSelect_under h count agree (some names)) ?_
    rintro ⟨branch, items⟩ ⟨branch', items'⟩ ⟨same', -⟩
    refine appendBranches_agree h names (fun agree => ?_) rest
    rw [same agree, show branch = branch' from same' agree,
      show b.keyword = b'.keyword by unfold BranchText.keyword; rw [head.1]]

variable {texts texts' : List BranchText}

theorem plainSelect_under (h : Renaming agreeing renames write write')
    (count : wheres.length = q.wheres.length)
    (agree : ConditionsAgree agreeing conditions conditions')
    (all : List.Forall₂ (BranchAgrees agreeing renames) texts texts') : Agree (Same agreeing)
      (plainSelect write (q.under renames wheres branches) conditions texts)
      (plainSelect write' q conditions' texts') := by
  unfold plainSelect
  refine .bind (singleSelect_under h count agree none) ?_
  rintro ⟨text, names⟩ ⟨text', names'⟩ ⟨same, e⟩
  obtain rfl : names = names' := e
  exact .after (q.walk .branches) fun _ _ => appendBranches_agree h names same all

theorem assembleSelect_under (h : Renaming agreeing renames write write')
    (plain : q.standIns = []) (count : wheres.length = q.wheres.length)
    (count' : branches.length = q.branches.length)
    (agree : ConditionsAgree agreeing conditions conditions')
    (all : List.Forall₂ (BranchAgrees agreeing renames) texts texts') : Agree (Same agreeing)
      (assembleSelect write (q.under renames wheres branches) conditions texts)
      (assembleSelect write' q conditions' texts') := by
  have present : (q.under renames wheres branches).hasBranches = q.hasBranches := by
    have empty : branches.isEmpty = q.branches.isEmpty := by
      rw [Bool.eq_iff_iff, List.isEmpty_iff_length_eq_zero, List.isEmpty_iff_length_eq_zero, count']
    show QueryOver.isPresent q .branches branches.isEmpty = _
    rw [empty]
    rfl
  have aggregate : (q.under renames wheres branches).aggregate =
      q.aggregate.map (Member.map (Aggregate.rename renames)) := rfl
  have copied : (q.under renames wheres branches).copied = .ok (q.under renames wheres branches) :=
    QueryOver.copied_plain plain
  have whole : Agree (Same agreeing)
      (plainSelect write (q.under renames wheres branches) conditions texts)
      (plainSelect write' q conditions' texts') := plainSelect_under h count agree all
  unfold assembleSelect
  rw [present, aggregate]
  cases q.hasBranches with
  | false => exact whole
  | true =>
      cases q.aggregate with
      | none => exact whole
      | some m =>
          show Agree _ (unionAggregate write _ (m.map _) conditions texts) _
          unfold unionAggregate
          rw [hasGroups_under, hasHavings_under, copied, QueryOver.copied_plain plain]
          split
          · exact Eq.refl (Error.render .groupedUnionAggregate)
          · show Agree _ (plainSelect write
              (Query.under renames { q with aggregate := none } wheres branches) conditions texts
                >>= _) (plainSelect write' { q with aggregate := none } conditions' texts' >>= _)
            refine .bind (plainSelect_under h count agree all) fun inner inner' same => ?_
            refine .bind (aggregateText_under h m) fun a b same' => Same.ok fun agree => ?_
            rw [same agree, same' agree]

/-! ### Copies of conditions and sub-queries -/

theorem renameAll_length {wheres copies : List Predicate}
    (e : renameAll renames wheres = .ok copies) : copies.length = wheres.length := by
  induction wheres generalizing copies with
  | nil =>
    obtain rfl := Except.ok.inj e
    rfl
  | cons p rest ih =>
    obtain ⟨copy, -, e⟩ := Result.bind_eq_ok e
    obtain ⟨copies, others, e⟩ := Result.bind_eq_ok e
    obtain rfl := Except.ok.inj e
    rw [List.length_cons, List.length_cons, ih others]

theorem renameBranches_length {branches copies : List Branch}
    (e : renameBranches renames branches = .ok copies) : copies.length = branches.length := by
  induction branches generalizing copies with
  | nil =>
    obtain rfl := Except.ok.inj e
    rfl
  | cons b rest ih =>
    obtain ⟨copy, -, e⟩ := Result.bind_eq_ok e
    obtain ⟨copies, others, e⟩ := Result.bind_eq_ok e
    obtain rfl := Except.ok.inj e
    rw [List.length_cons, List.length_cons, ih others]

theorem joint_rename {p copy : Predicate} (e : p.rename renames = .ok copy) :
    copy.joint = p.joint := by
  cases p with
  | nested _ _ | comparedRow _ _ _ _ | amongRows _ _ _ _ | present _ _ _ =>
      obtain ⟨inner, -, e⟩ := Result.bind_eq_ok e
      obtain rfl := Except.ok.inj e
      rfl
  | _ =>
      obtain rfl := Except.ok.inj e
      rfl

variable {test : LinkTest}

mutual
theorem predicateReads_rename : ∀ (p : Predicate) {copy : Predicate}, p.IsPlain test →
    p.rename renames = .ok copy → predicateReads copy = predicateReads p
  | .compared .., _, _, e | .among .., _, _, e | .between .., _, _, e | .isNull .., _, _, e
  | .carried .., _, _, e | .foreign _, _, _, e => by
    obtain rfl := Except.ok.inj e
    rfl
  | .nested _ wheres, _, plain, e => by
    obtain ⟨copies, inside, e⟩ := Result.bind_eq_ok e
    obtain rfl := Except.ok.inj e
    exact predicatesRead_rename wheres plain inside
  | .comparedRow _ c _ s, _, plain, e | .amongRows _ c s _, _, plain, e => by
    obtain ⟨copy, inside, e⟩ := Result.bind_eq_ok e
    obtain rfl := Except.ok.inj e
    rw [predicateReads, predicateReads, subQueryReads_rename s plain inside]
  | .present _ s _, _, plain, e => by
    obtain ⟨copy, inside, e⟩ := Result.bind_eq_ok e
    obtain rfl := Except.ok.inj e
    exact subQueryReads_rename s plain inside
termination_by structural p => p
/-- The conditions of a copy read the same nodes. -/
theorem predicatesRead_rename : ∀ (wheres : List Predicate) {copies : List Predicate},
    arePlain test wheres → renameAll renames wheres = .ok copies →
      predicatesRead copies = predicatesRead wheres
  | [], _, _, e => by
    obtain rfl := Except.ok.inj e
    rfl
  | p :: rest, _, plain, e => by
    obtain ⟨copy, first, e⟩ := Result.bind_eq_ok e
    obtain ⟨copies, others, e⟩ := Result.bind_eq_ok e
    obtain rfl := Except.ok.inj e
    rw [predicatesRead, predicatesRead, predicateReads_rename p plain.1 first,
      predicatesRead_rename rest plain.2 others]
termination_by structural wheres => wheres
theorem subQueryReads_rename : ∀ (s : SubQuery) {copy : SubQuery}, s.IsPlain test →
    s.rename renames = .ok copy → subQueryReads copy = subQueryReads s
  | .own q, _, plain, e => by
    obtain ⟨wheres, branches, inside, -, rfl⟩ := SubQuery.rename_own_eq_ok plain.1 e
    rw [subQueryReads, subQueryReads, Query.knownPlaceholders_under, Query.walk_under,
      show (Query.under renames q wheres branches).wheres = wheres from rfl,
      predicatesRead_rename q.wheres plain.2.1 inside]
  | .shared _ (some q), _, plain, e => by
    obtain ⟨wheres, branches, inside, -, rfl⟩ := SubQuery.rename_own_eq_ok plain.2.1 e
    rw [subQueryReads, subQueryReads, Query.knownPlaceholders_under, Query.walk_under,
      show (Query.under renames q wheres branches).wheres = wheres from rfl,
      predicatesRead_rename q.wheres plain.2.2.1 inside]
  | .shared _ none, _, _, e => by cases e
  | .foreign _, _, _, e => by
    obtain rfl := Except.ok.inj e
    rfl
termination_by structural s => s
end

mutual
theorem predicateText_rename (h : Renaming agreeing renames write write') :
    ∀ (p : Predicate) {copy : Predicate}, p.IsPlain test → p.rename renames = .ok copy →
      Agree (Same agreeing) (predicateText write copy) (predicateText write' p)
  | .compared _ c operator n, _, _, e => by
    obtain rfl := Except.ok.inj e
    refine .after (columnText c) fun column _ => Same.ok fun agree => ?_
    rw [h.written agree]
  | .among _ c n negated, _, _, e => by
    obtain rfl := Except.ok.inj e
    refine .after (columnText c) fun column _ => Same.ok fun agree => ?_
    rw [h.written agree]
  | .between _ c n negated, _, _, e => by
    obtain rfl := Except.ok.inj e
    refine .after (columnText c) fun column _ => Same.ok fun agree => ?_
    rw [h.written agree]
  | .isNull .., _, _, e | .carried .., _, _, e | .foreign _, _, _, e => by
    obtain rfl := Except.ok.inj e
    exact .refl .refl _
  | .nested _ wheres, _, plain, e => by
    obtain ⟨copies, inside, e⟩ := Result.bind_eq_ok e
    obtain rfl := Except.ok.inj e
    refine .bind (conditionTexts_rename h wheres plain inside) fun a b same => Same.ok ?_
    exact same.map fun conditions =>
      if joinConditions conditions = "" then "" else "(" ++ joinConditions conditions ++ ")"
  | .comparedRow _ c operator s, _, plain, e => by
    obtain ⟨copy, inside, e⟩ := Result.bind_eq_ok e
    obtain rfl := Except.ok.inj e
    refine .after (columnText c) fun column _ => ?_
    refine .bind (subQueryText_rename h s plain inside) fun a b same => Same.ok ?_
    exact same.map fun text => column ++ " " ++ operator ++ " head(" ++ braced "COLLECT" text ++ ")"
  | .amongRows _ c s negated, _, plain, e => by
    obtain ⟨copy, inside, e⟩ := Result.bind_eq_ok e
    obtain rfl := Except.ok.inj e
    refine .after (columnText c) fun column _ => ?_
    refine .bind (subQueryText_rename h s plain inside) fun a b same => Same.ok ?_
    exact same.map fun text => negate negated (column ++ " IN " ++ braced "COLLECT" text)
  | .present _ s negated, _, plain, e => by
    obtain ⟨copy, inside, e⟩ := Result.bind_eq_ok e
    obtain rfl := Except.ok.inj e
    refine .bind (subQueryText_rename h s plain inside) fun a b same => Same.ok ?_
    exact same.map fun text => negate negated (braced "EXISTS" text)
termination_by structural p => p
theorem conditionTexts_rename (h : Renaming agreeing renames write write') :
    ∀ (wheres : List Predicate) {copies : List Predicate}, arePlain test wheres →
      renameAll renames wheres = .ok copies →
        Agree (Same agreeing) (conditionTexts write copies) (conditionTexts write' wheres)
  | [], _, _, e => by
    obtain rfl := Except.ok.inj e
    exact Same.refl []
  | p :: rest, _, plain, e => by
    obtain ⟨copy, first, e⟩ := Result.bind_eq_ok e
    obtain ⟨copies, others, e⟩ := Result.bind_eq_ok e
    obtain rfl := Except.ok.inj e
    refine .bind (predicateText_rename h p plain.1 first) fun a b same => ?_
    refine .bind (conditionTexts_rename h rest plain.2 others) fun cs ds same' => ?_
    refine Same.ok fun agree => ?_
    rw [joint_rename first, same agree, same' agree]
termination_by structural wheres => wheres
theorem subQueryText_rename (h : Renaming agreeing renames write write') :
    ∀ (s : SubQuery) {copy : SubQuery}, s.IsPlain test → s.rename renames = .ok copy →
      Agree (Same agreeing) (subQueryText write copy) (subQueryText write' s)
  | .own q, _, plain, e => by
    obtain ⟨wheres, branches, inside, inside', rfl⟩ := SubQuery.rename_own_eq_ok plain.1 e
    refine assembleSelect_under h plain.1 (renameAll_length inside) (renameBranches_length inside')
      ⟨?_, predicatesRead_rename q.wheres plain.2.1 inside⟩
      (branchTexts_rename h q.branches plain.2.2 inside')
    exact .bind (conditionTexts_rename h q.wheres plain.2.1 inside) fun _ _ same =>
      (same.map joinConditions).ok
  | .shared _ (some q), _, plain, e => by
    obtain ⟨wheres, branches, inside, inside', rfl⟩ := SubQuery.rename_own_eq_ok plain.2.1 e
    refine assembleSelect_under h plain.2.1 (renameAll_length inside)
      (renameBranches_length inside') ⟨?_, predicatesRead_rename q.wheres plain.2.2.1 inside⟩
      (branchTexts_rename h q.branches plain.2.2.2 inside')
    exact .bind (conditionTexts_rename h q.wheres plain.2.2.1 inside) fun _ _ same =>
      (same.map joinConditions).ok
  | .shared _ none, _, _, e => by cases e
  | .foreign v, _, _, e => by
    obtain rfl := Except.ok.inj e
    exact Eq.refl (Error.noAttribute v "unions")
termination_by structural s => s
theorem branchTexts_rename (h : Renaming agreeing renames write write') :
    ∀ (branches : List Branch) {copies : List Branch}, arePlainBranches test branches →
      renameBranches renames branches = .ok copies →
        List.Forall₂ (BranchAgrees agreeing renames) (branchTexts write copies)
          (branchTexts write' branches)
  | [], _, _, e => by
    obtain rfl := Except.ok.inj e
    exact .nil
  | b :: rest, _, plain, e => by
    obtain ⟨copy, first, e⟩ := Result.bind_eq_ok e
    obtain ⟨copies, others, e⟩ := Result.bind_eq_ok e
    obtain rfl := Except.ok.inj e
    exact .cons ⟨rfl, branchContent_rename h b.query plain.1 first⟩
      (branchTexts_rename h rest plain.2 others)
termination_by structural branches => branches
theorem branchContent_rename (h : Renaming agreeing renames write write') :
    ∀ (s : SubQuery) {copy : SubQuery}, s.IsPlain test → s.rename renames = .ok copy →
      Agree (fun c c' => ∃ wheres branches, c.1 = c'.1.under renames wheres branches ∧
        wheres.length = c'.1.wheres.length ∧ ConditionsAgree agreeing c.2 c'.2)
        (branchContent write copy) (branchContent write' s)
  | .own q, _, plain, e => by
    obtain ⟨wheres, branches, inside, -, rfl⟩ := SubQuery.rename_own_eq_ok plain.1 e
    refine ⟨wheres, branches, rfl, renameAll_length inside, ?_,
      predicatesRead_rename q.wheres plain.2.1 inside⟩
    exact .bind (conditionTexts_rename h q.wheres plain.2.1 inside) fun _ _ same =>
      (same.map joinConditions).ok
  | .shared _ (some q), _, plain, e => by
    obtain ⟨wheres, branches, inside, -, rfl⟩ := SubQuery.rename_own_eq_ok plain.2.1 e
    refine ⟨wheres, branches, rfl, renameAll_length inside, ?_,
      predicatesRead_rename q.wheres plain.2.2.1 inside⟩
    exact .bind (conditionTexts_rename h q.wheres plain.2.2.1 inside) fun _ _ same =>
      (same.map joinConditions).ok
  | .shared _ none, _, _, e => by cases e
  | .foreign v, _, _, e => by
    obtain rfl := Except.ok.inj e
    exact Eq.refl (Error.noAttribute v "all")
termination_by structural s => s
end

/-! ### The law of copies -/

theorem statementText_plain {q : Query} (plain : q.standIns = []) :
    statementText q = selectText parameter q := by
  unfold statementText QueryOver.ask QueryOver.standIn?
  rw [plain]
  rfl

/-- The statement of a copy is that of the query with the new name of every parameter in the place
of the old one, and the copy has none exactly if the query has none. -/
theorem statementText_copy {q : Query} {s : SubQuery}
    (empty : ∀ n, renames.apply n = "" ↔ n = "") (plain : q.IsPlain test)
    (e : (SubQuery.own q).rename renames = .ok s) : ∃ copy, s = .own copy ∧
      statementText copy = selectText (fun n => parameter (renames.apply n)) q ∧
      ∀ reason, statementText copy = .error reason ↔ statementText q = .error reason := by
  obtain ⟨wheres, branches, -, -, rfl⟩ := SubQuery.rename_own_eq_ok plain.standIns e
  refine ⟨_, rfl, ?_⟩
  rw [statementText_plain (q := q.under renames wheres branches) plain.standIns,
    statementText_plain plain.standIns]
  have plain' : (SubQuery.own q).IsPlain test := SubQuery.isPlain_own.mpr plain
  constructor
  · have written : Renaming True renames parameter fun n => parameter (renames.apply n) :=
      ⟨empty, fun _ _ => rfl⟩
    exact ((subQueryText_rename written (.own q) plain' e).imp fun _ _ same => same trivial).eq
  · have any : Renaming False renames parameter parameter := ⟨empty, False.elim⟩
    exact (subQueryText_rename any (.own q) plain' e).error_iff

end Cypher

end GraphQuery
