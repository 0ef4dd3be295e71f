import GraphQuery.Proofs.Cypher.Columns
import GraphQuery.Proofs.Cypher.Introductions
import GraphQuery.Proofs.Cypher.SinglePieces
import GraphQuery.Proofs.Cypher.Stages

/-! # Asking for one identity besides

`Query.narrowed` is a query with one more condition at the end: that its primary node has an
identity, whose value is a parameter.  Its statements are those of the query itself with a longer
condition, and fail exactly when those do.

* `Filtered` tells where the condition on the rows stands in the stage of a query: before the
  optional patterns, with the conditions of the required ones, or behind them in a stage of its own;
* `Narrowed` tells when the new test is a conjunct of that condition: exactly if nothing looser than
  `AND` joins the conditions that were there.

`matchStage_narrowed` says both of the narrowed query.

What follows the stage of a select does not read the conditions of its query (`afterStage_withWheres`),
so the select of a narrowed query is the select of the query with a longer condition in its stage.  The
branches of a union stay as they are: `HasNarrowSelect` says that the test stands in the stage of the first
select, and nowhere else. -/

namespace GraphQuery

open GraphQuery.Text GraphQuery.Cypher

/-- The test that a node has the identity under a parameter. -/
def Cypher.identityTest (node name : String) : String := "id(" ++ node ++ ") = " ++ parameter name

/-- The predicate that the primary node has the identity under a parameter. -/
def identityPredicate (node name : String) : Predicate :=
  .compared .all ⟨"id", some node, true⟩ "=" name

/-- The query that asks for one identity besides. -/
def Query.narrowed (q : Query) (node name : String) : Query :=
  { q with wheres := q.wheres ++ [identityPredicate node name] }

namespace Cypher

/-! ### The test as a piece -/

theorem isPiece_identityTest {node : String} (hnode : IsPlainText node) (name : String) :
    IsPiece (identityTest node name) := by
  have pieces := ((isPiece_identity hnode).spaced (b := "=") (by decide)).spaced
    (isPiece_parameter name)
  have texts : identityTest node name =
      "id(" ++ node ++ ")" ++ " " ++ "=" ++ " " ++ parameter name := by
    apply String.toList_injective
    simp [identityTest, String.toList_append]
  rwa [texts]

theorem readCondition_identityTest {node name : String} (hnode : IsPlainText node)
    (hname : IsIdentifier name) :
    readCondition (identityTest node name) = some (.leaf (identityTest node name)) := by
  have ends : trim (identityTest node name) = identityTest node name := by
    obtain ⟨d, ds, chars, -⟩ := id hname
    have last : ∃ init final, name.toList = init ++ [final] ∧ isBlank final = false := by
      refine ⟨name.toList.dropLast, name.toList.getLast (by simp [chars]),
        (List.dropLast_concat_getLast _).symm, ?_⟩
      exact isBlank_of_isNamePart (hname.isPlainText _ (List.getLast_mem _))
    obtain ⟨init, final, split, blank⟩ := last
    have shape : (identityTest node name).toList =
        'i' :: (['d'] ++ '(' :: (node.toList ++ ')' :: ([' ', '=', ' ', '$'] ++ init)) ++ [final]) := by
      simp [identityTest, parameter_of_identifier hname, String.toList_append, split]
    unfold trim
    rw [shape, trimWhere_eq_self (by decide) blank, ← shape, String.ofList_toList]
  rw [(isPiece_identityTest hnode name).readCondition, ends]

/-! ### The conditions with the test behind them -/

/-- An empty condition leaves no trace. -/
theorem prependCondition_append (joint : Connective) (text : String)
    (rest more : List (Connective × String)) :
    prependCondition joint text (rest ++ more) = prependCondition joint text rest ++ more := by
  unfold prependCondition
  split <;> rfl

theorem conditionTexts_append (write : String → String) (p : Predicate) :
    ∀ wheres : List Predicate, conditionTexts write (wheres ++ [p]) = (do
      let entries ← conditionTexts write wheres
      let text ← predicateText write p
      return entries ++ prependCondition p.joint text [])
  | [] => by
    simp only [List.nil_append, conditionTexts]
    cases predicateText write p <;> rfl
  | first :: rest => by
    have ih := conditionTexts_append write p rest
    simp only [List.cons_append, conditionTexts, ih]
    cases predicateText write first with
    | error e => rfl
    | ok text =>
      cases conditionTexts write rest with
      | error e => rfl
      | ok entries =>
        cases predicateText write p with
        | error e => rfl
        | ok last => exact congrArg Except.ok (prependCondition_append ..)

theorem predicatesRead_append (p : Predicate) : ∀ wheres : List Predicate,
    predicatesRead (wheres ++ [p]) = (do
      let before ← predicatesRead wheres
      let last ← predicateReads p
      return before ++ last)
  | [] => by
    simp only [List.nil_append, predicatesRead]
    cases predicateReads p with
    | error e => rfl
    | ok last => simp [bind, Except.bind, pure, Except.pure]
  | first :: rest => by
    have ih := predicatesRead_append p rest
    simp only [List.cons_append, predicatesRead, ih]
    cases predicateReads first with
    | error e => rfl
    | ok reads =>
      cases predicatesRead rest with
      | error e => rfl
      | ok before =>
        cases predicateReads p with
        | error e => rfl
        | ok last => exact congrArg Except.ok (List.append_assoc ..).symm

theorem joinConditions_append (k : Connective) (text : String) :
    ∀ (first : Connective × String) (rest : List (Connective × String)),
      joinConditions (first :: rest ++ [(k, text)]) =
        joinConditions (first :: rest) ++ " " ++ k.keyword ++ " " ++ text
  | (j, a), [] => by
    rw [List.cons_append, List.nil_append, joinConditions_cons_cons, joinConditions_singleton,
      joinConditions_singleton]
  | (j, a), (l, b) :: rest => by
    have ih := joinConditions_append k text (l, b) rest
    rw [List.cons_append, List.cons_append, joinConditions_cons_cons, ← List.cons_append, ih,
      joinConditions_cons_cons]
    simp [String.append_assoc]

/-- The conditions of a query with one test more. -/
def withTest (old test : String) : String := if old = "" then test else old ++ " AND " ++ test

variable {q : Query} {node name : String}

theorem predicateText_identity (some : node ≠ "") :
    predicateText parameter (identityPredicate node name) = .ok (identityTest node name) := by
  have owner : (ColumnRef.mk "id" (Option.some node) true).owner? = Option.some node := by
    simp [ColumnRef.owner?, some]
  simp only [identityPredicate, predicateText, columnText, owner]
  refine congrArg Except.ok (String.toList_injective ?_)
  simp [identityTest, String.toList_append]

theorem predicateReads_identity (some : node ≠ "") :
    predicateReads (identityPredicate node name) = .ok [node] := by
  simp [identityPredicate, predicateReads, ColumnRef.owner?, some]

theorem predicatesText_narrowed (some : node ≠ "") :
    predicatesText parameter (q.narrowed node name).wheres = (do
      return withTest (← predicatesText parameter q.wheres) (identityTest node name)) := by
  unfold predicatesText Query.narrowed
  rw [conditionTexts_append, predicateText_identity some]
  cases h : conditionTexts parameter q.wheres with
  | error e => rfl
  | ok entries =>
    have full : identityTest node name ≠ "" := by simp [identityTest, String.append_eq_empty_iff]
    have added : prependCondition (identityPredicate node name).joint (identityTest node name) [] =
        [(.all, identityTest node name)] := by
      simp [prependCondition, full, identityPredicate, Predicate.joint]
    refine congrArg Except.ok ?_
    show joinConditions (entries ++ prependCondition _ _ []) = _
    rw [added]
    have empty := joinConditions_eq_empty (conditionTexts_ne_empty h)
    cases entries with
    | nil => rfl
    | cons first rest =>
      have old : joinConditions (first :: rest) ≠ "" := fun e => List.cons_ne_nil _ _ (empty.mp e)
      rw [joinConditions_append, withTest, if_neg old]
      apply String.toList_injective
      simp [Connective.keyword, String.toList_append]

/-! ### Whether the test is a conjunct -/

/-- The condition on rows: the constraints of patterns, and then what else has to hold. -/
def rowCondition (constraints : List String) (isGrouped : Bool) (predicates : String) : String :=
  joined " AND " (constraints ++ [if isGrouped then "(" ++ predicates ++ ")" else predicates])

theorem joined_append (a : String) : ∀ (first : String) (rest : List String),
    joined " AND " (first :: rest ++ [a]) = joined " AND " (first :: rest) ++ " AND " ++ a
  | first, [] => by
    apply String.toList_injective
    simp [joined, String.toList_append]
  | first, second :: rest => by
    have ih := joined_append a second rest
    have step : ∀ texts : List String, joined " AND " (first :: second :: texts) =
        first ++ " AND " ++ joined " AND " (second :: texts) := by
      intro texts
      apply String.toList_injective
      simp [joined, String.toList_append]
    rw [List.cons_append, List.cons_append, step, ← List.cons_append, ih, step]
    simp [String.append_assoc]

theorem readCondition_empty : readCondition "" = some (.leaf "") := by decide

variable {old test : String} {constraints : List String}

theorem isConjunction_empty : IsConjunction "" := by simp [IsConjunction, readCondition_empty]

theorem not_hasConjunct_empty (some : test ≠ "") : ¬ HasConjunct test "" := by
  rintro ⟨t, read, conjunct⟩
  obtain rfl := Option.some.inj (readCondition_empty.symm.trans read)
  generalize e : "" = text at conjunct
  cases conjunct with
  | itself => exact some e.symm
  | inside _ _ => simp [String.ext_iff] at e

theorem withTest_isReadable (ht : readCondition test = some (.leaf test)) (h : IsReadable old) :
    IsReadable (withTest old test) := by
  unfold withTest
  split
  · simp [IsReadable, ht]
  · obtain ⟨t, read⟩ := Option.isSome_iff_exists.mp h
    simp [IsReadable, readCondition_append read ht]

/-- The test is a conjunct of the conditions exactly if the others are a conjunction. -/
theorem hasConjunct_withTest (ht : readCondition test = some (.leaf test)) (h : IsReadable old) :
    HasConjunct test (withTest old test) ↔ IsConjunction old := by
  have itself : HasConjunct test test := ⟨_, ht, .itself⟩
  unfold withTest
  split
  · next none => exact iff_of_true itself (none ▸ isConjunction_empty)
  · rw [hasConjunct_append h ht]
    simp [itself]

/-- The test is a conjunct of the condition on rows exactly if constraints and conditions are
conjunctions, or the constraints have it already. -/
theorem hasConjunct_rowCondition {isGrouped : Bool} (ht : readCondition test = some (.leaf test))
    (some : test ≠ "") (apart : test ≠ "(" ++ withTest old test ++ ")")
    (hc : IsReadable (joined " AND " constraints)) (h : IsReadable old)
    (alone : isGrouped = false → constraints = [] ∨ old = "") :
    HasConjunct test (rowCondition constraints isGrouped (withTest old test)) ↔
      IsConjunction (joined " AND " constraints) ∧
        (IsConjunction old ∨ HasConjunct test (joined " AND " constraints)) := by
  have readable := withTest_isReadable ht h
  have grouped : HasConjunct test ("(" ++ withTest old test ++ ")") ↔ IsConjunction old := by
    rw [hasConjunct_parentheses readable, hasConjunct_withTest ht h]
    simp [apart]
  cases constraints with
  | nil =>
    have empty : joined " AND " [] = "" := rfl
    have nothing : ¬ HasConjunct test "" := not_hasConjunct_empty some
    have whole : ∀ text : String, joined " AND " [text] = text := by
      intro text
      simp [joined]
    rw [rowCondition, List.nil_append, whole, empty]
    cases isGrouped with
    | true => simp [grouped, nothing, isConjunction_empty]
    | false => simp [hasConjunct_withTest ht h, nothing, isConjunction_empty]
  | cons first rest =>
    cases isGrouped with
    | true =>
      rw [rowCondition, joined_append, if_pos rfl,
        hasConjunct_append hc (readCondition_parentheses readable), grouped]
      simp [or_comm]
    | false =>
      obtain rfl : old = "" := by simpa using alone rfl
      rw [rowCondition, joined_append, if_neg (by simp), withTest, if_pos rfl,
        hasConjunct_append hc ht]
      have itself : HasConjunct test test := ⟨_, ht, .itself⟩
      simp [itself, isConjunction_empty]

/-! ### Stages -/

theorem requiredText_knows {q : Query} {node text : String} {introduced : Introduced}
    (target : q.placeholder? = .ok (some node))
    (h : requiredText q [] = .ok (text, introduced)) : (lookup? node introduced).isSome :=
  (requiredText_introduces h).mpr (.primary target)

/-- A condition on the primary node is never put off. -/
theorem isDeferred_append {node : String} {reads : List String} {before after : Introduced}
    (h : (lookup? node before).isSome) :
    isDeferred (reads ++ [node]) before after = isDeferred reads before after := by
  have here : (lookup? node before).isNone = false := by simpa using h
  simp [isDeferred, here]

/-- Where the condition on the rows stands in the stage of a query: with the constraints of the
patterns that have to match, or in a stage of its own behind the optional ones. -/
inductive Filtered (q : Query) : (constraints : List String) → (condition stage : String) → Prop
  | before {required optional : String} {introduced seen : Introduced} (condition : String) :
      requiredText q [] = .ok (required, introduced) →
      optionalText parameter q introduced = .ok (optional, seen) →
      Filtered q (requiredConstraints parameter q) condition
        (spaced [required, "WHERE " ++ condition, optional])
  | behind {required optional : String} {introduced seen : Introduced} (condition : String) :
      requiredText q [] = .ok (required, introduced) →
      optionalText parameter q introduced = .ok (optional, seen) →
      Filtered q [] condition
        (spaced [required, whereText parameter q "", optional, "WITH * WHERE " ++ condition])

/-- When a test is a conjunct of the condition on the rows: exactly if nothing looser than `AND`
joins the constraints and the conditions that were there, or the constraints have it already. What
cannot be read, since it leaves a quotation or a bracket open, is left out. -/
def Narrowed (constraints : List String) (old test condition : String) : Prop :=
  IsReadable (joined " AND " constraints) → IsReadable old →
    (HasConjunct test condition ↔ IsConjunction (joined " AND " constraints) ∧
      (IsConjunction old ∨ HasConjunct test (joined " AND " constraints)))

theorem whereText_narrowed {q : Query} {node name old test : String} (some : test ≠ "") :
    whereText parameter (q.narrowed node name) (withTest old test) =
      "WHERE " ++ rowCondition (requiredConstraints parameter q)
        (decide (requiredConstraints parameter q ≠ [] ∧ q.wheres ≠ [])) (withTest old test) := by
  have same : requiredConstraints parameter (q.narrowed node name) =
    requiredConstraints parameter q := rfl
  have full : withTest old test ≠ "" := by
    unfold withTest
    split <;> simp [some, String.append_eq_empty_iff]
  have count : 1 < (q.narrowed node name).wheres.length ↔ q.wheres ≠ [] := by
    simp [Query.narrowed, List.length_pos_iff]
  unfold whereText rowCondition
  simp only [same, count, full, ne_eq, not_false_eq_true, true_and, decide_eq_true_eq]
  split
  · simp [String.append_eq_empty_iff]
  · simp

/-- The stage of the narrowed query fails as that of the query does, and tells the same nodes apart;
its condition is narrowed. -/
theorem matchStage_narrowed {q : Query} {node name : String}
    (target : q.placeholder? = .ok (some node)) (some : node ≠ "") (hnode : IsPlainText node)
    (hname : IsIdentifier name) :
    Result.Agree (fun s' s => s'.2 = s.2 ∧ ∃ old constraints condition,
        predicatesText parameter q.wheres = .ok old ∧ Filtered q constraints condition s'.1 ∧
        Narrowed constraints old (identityTest node name) condition)
      (matchStage parameter (q.narrowed node name) (conditionsOf parameter (q.narrowed node name)) [])
      (matchStage parameter q (conditionsOf parameter q) []) := by
  have test := readCondition_identityTest hnode hname
  have full : identityTest node name ≠ "" := by simp [identityTest, String.append_eq_empty_iff]
  have apart (text : String) : identityTest node name ≠ "(" ++ text ++ ")" := by
    intro e
    have := congrArg String.toList e
    simp [identityTest, String.toList_append] at this
  have required : requiredText (q.narrowed node name) [] = requiredText q [] := rfl
  have optional : optionalText parameter (q.narrowed node name) = optionalText parameter q := rfl
  have walk : (q.narrowed node name).walk .wheres = q.walk .wheres := rfl
  unfold matchStage
  simp only [required, optional, walk, conditionsOf, predicatesText_narrowed some]
  refine .after _ fun ⟨required, introduced⟩ hrequired => .after _ fun ⟨optional, seen⟩ hoptional =>
    .after _ fun _ _ => ?_
  have reads : predicatesRead (q.narrowed node name).wheres = (do
      return (← predicatesRead q.wheres) ++ [node]) := by
    unfold Query.narrowed
    rw [predicatesRead_append, predicateReads_identity some]
    cases predicatesRead q.wheres <;> rfl
  rw [reads]
  cases hreads : predicatesRead q.wheres with
  | error e => rfl
  | ok reads =>
    cases hold : predicatesText parameter q.wheres with
    | error e => rfl
    | ok old =>
      have same : isDeferred (reads ++ [node]) introduced seen = isDeferred reads introduced seen :=
        isDeferred_append (requiredText_knows target hrequired)
      show Result.Agree _ (if isDeferred (reads ++ [node]) introduced seen then _ else _)
        (if isDeferred reads introduced seen then _ else _)
      rw [same]
      split
      · refine ⟨rfl, old, [], _, rfl, .behind (withTest old (identityTest node name)) hrequired
          hoptional, fun _ hold => ?_⟩
        have empty : joined " AND " [] = "" := rfl
        rw [empty, hasConjunct_withTest test hold]
        simp [not_hasConjunct_empty full, isConjunction_empty]
      · have filtered := Filtered.before (rowCondition (requiredConstraints parameter q)
          (decide (requiredConstraints parameter q ≠ [] ∧ q.wheres ≠ []))
          (withTest old (identityTest node name))) hrequired hoptional
        rw [← whereText_narrowed full] at filtered
        refine ⟨rfl, old, _, _, rfl, filtered, fun hc hold' => ?_⟩
        refine hasConjunct_rowCondition test full (apart _) hc hold' fun h => ?_
        by_cases none : q.wheres = []
        · rw [none] at hold
          exact Or.inr (Except.ok.inj hold).symm
        · simp only [ne_eq, none, not_false_eq_true, and_true, decide_eq_false_iff_not,
            Decidable.not_not] at h
          exact Or.inl h

/-! ### Statements -/

/-- Whether a stage has a test for its rows: it is that of a query with the labels, the patterns and
the conditions of `q`, and its condition is narrowed by the test. -/
def HasNarrowStage (q : Query) (test stage : String) : Prop :=
  ∃ (r : Query) (old : String) (constraints : List String) (condition : String),
    r.labels = q.labels ∧ r.patterns = q.patterns ∧ r.wheres = q.wheres ∧
    predicatesText parameter q.wheres = .ok old ∧ Filtered r constraints condition stage ∧
    Narrowed constraints old test condition

theorem HasNarrowStage.of_parts {q q' : Query} {test stage : String}
    (h : HasNarrowStage q' test stage) (labels : q'.labels = q.labels)
    (patterns : q'.patterns = q.patterns) (wheres : q'.wheres = q.wheres) :
    HasNarrowStage q test stage := by
  obtain ⟨r, old, constraints, condition, hl, hp, hw, read, filtered, narrowed⟩ := h
  exact ⟨r, old, constraints, condition, hl.trans labels, hp.trans patterns, hw.trans wheres,
    wheres ▸ read, filtered, narrowed⟩

/-- What picks the nodes to change fails as that of the query does; where it does not, it begins with a
narrow stage. -/
theorem targetText_narrowed {q : Query} {node name : String}
    (target : q.placeholder? = .ok (some node)) (some : node ≠ "") (hnode : IsPlainText node)
    (hname : IsIdentifier name) :
    Result.Agree (fun text _ => ∃ stage tail, text = stage ++ tail ∧
        HasNarrowStage q (identityTest node name) stage)
      (targetText (q.narrowed node name)) (targetText q) := by
  have placeholder : (q.narrowed node name).placeholder? = q.placeholder? := rfl
  have patterns : (q.narrowed node name).patterns = q.patterns := rfl
  unfold targetText
  rw [placeholder, patterns]
  refine .bind (matchStage_narrowed target some hnode hname) ?_
  rintro ⟨stage, seen⟩ ⟨stage', seen'⟩ ⟨-, old, constraints, condition, hold, filtered, narrowed⟩
  have narrow : HasNarrowStage q (identityTest node name) stage :=
    ⟨q, old, constraints, condition, rfl, rfl, rfl, hold, filtered, narrowed⟩
  show Result.Agree _ (if _ then _ else _) (if _ then _ else _)
  split
  · refine .after _ fun placeholder _ => ?_
    exact ⟨stage, _, String.append_assoc .., narrow⟩
  · exact ⟨stage, "", by simp, narrow⟩

theorem deleteText_narrowed {q : Query} {node name : String}
    (target : q.placeholder? = .ok (some node)) (some : node ≠ "") (hnode : IsPlainText node)
    (hname : IsIdentifier name) :
    Result.Agree (fun text _ => ∃ stage tail, text = stage ++ tail ∧
        HasNarrowStage q (identityTest node name) stage)
      (deleteText (q.narrowed node name)) (deleteText q) := by
  have write : writeTarget (q.narrowed node name) "delete" = writeTarget q "delete" := rfl
  unfold deleteText
  rw [write]
  refine .after _ fun action _ => .bind (targetText_narrowed target some hnode hname) ?_
  rintro text text' ⟨stage, tail, rfl, narrow⟩
  exact ⟨stage, tail ++ " DETACH DELETE " ++ action ++ affectedText action,
    by simp [String.append_assoc], narrow⟩

end Cypher

variable {q : Query} {node name : String}

/-! ### What does not read the conditions -/

/-- A query with other conditions. -/
def Query.withWheres (q : Query) (wheres : List Predicate) : Query := { q with wheres }

variable {wheres : List Predicate}

theorem Query.sameNodes_withWheres : (q.withWheres wheres).SameNodes q := ⟨rfl, rfl, fun _ => rfl⟩

namespace Cypher

open Query (sameNodes_withWheres)

section

variable {write : String → String}

theorem aggregateText_withWheres (a : Member Aggregate) :
    aggregateText write (q.withWheres wheres) a = aggregateText write q a :=
  sameNodes_withWheres.aggregateText rfl a

theorem carriedNames_withWheres : carriedNames (q.withWheres wheres) = carriedNames q :=
  sameNodes_withWheres.carriedNames rfl rfl rfl fun _ => rfl

theorem withText_withWheres : withText write (q.withWheres wheres) = withText write q := by
  have groups : groupTexts (q.withWheres wheres) groupItem = groupTexts q groupItem :=
    groupTexts_congr sameNodes_withWheres.groupItem rfl rfl
  have aggregates (a : Member Aggregate) :
      aggregateExpression write (q.withWheres wheres) a = aggregateExpression write q a :=
    sameNodes_withWheres.aggregateExpression rfl a
  unfold withText
  simp only [groups, aggregates]
  rfl

theorem returnItems_withWheres : returnItems (q.withWheres wheres) = returnItems q :=
  sameNodes_withWheres.returnItems rfl carriedNames_withWheres rfl rfl

theorem orderText_withWheres : orderText (q.withWheres wheres) = orderText q :=
  sameNodes_withWheres.orderText carriedNames_withWheres rfl rfl rfl

theorem afterStage_withWheres (names : Option (List String)) :
    afterStage write (q.withWheres wheres) names = afterStage write q names := by
  have staged : isStaged (q.withWheres wheres) = isStaged q := rfl
  have aggregate : (q.withWheres wheres).aggregate = q.aggregate := rfl
  have distinct : distinctText (q.withWheres wheres) = distinctText q := rfl
  have skip : skipText (q.withWheres wheres) = skipText q := rfl
  have limit : limitText (q.withWheres wheres) = limitText q := rfl
  funext seen
  unfold afterStage
  simp only [withText_withWheres, staged, aggregate, aggregateText_withWheres, returnItems_withWheres,
    distinct, orderText_withWheres, skip, limit]

end

/-! ### Statements -/

/-- A single select of the narrowed query has the columns of that of the query, and begins with a
narrow stage. -/
theorem singleSelect_narrowed (target : q.placeholder? = .ok (some node)) (some : node ≠ "")
    (hnode : IsPlainText node) (hname : IsIdentifier name) (names : Option (List String)) :
    Result.Agree (fun s' s => s'.2 = s.2 ∧ ∃ stage tail, s'.1 = stage ++ tail ∧
        HasNarrowStage q (identityTest node name) stage)
      (singleSelect parameter (q.narrowed node name) (conditionsOf parameter (q.narrowed node name))
        names)
      (singleSelect parameter q (conditionsOf parameter q) names) := by
  have after : afterStage parameter (q.narrowed node name) names = afterStage parameter q names :=
    afterStage_withWheres names
  rw [singleSelect_eq, singleSelect_eq, after]
  refine .bind (matchStage_narrowed target some hnode hname) ?_
  rintro ⟨stage, seen⟩ ⟨stage', seen'⟩ ⟨same, old, constraints, condition, hold, filtered, narrowed⟩
  obtain rfl : seen = seen' := same
  refine .after _ fun ⟨texts, columns⟩ _ => ?_
  obtain ⟨tail, whole⟩ := spaced_cons stage texts
  exact ⟨rfl, stage, tail, whole,
    q, old, constraints, condition, rfl, rfl, rfl, hold, filtered, narrowed⟩

/-- Whether a text is that of a select whose first part begins with a narrow stage. What the branches
of a union select is not touched by the test. -/
def HasNarrowSelect (q : Query) (test text : String) : Prop :=
  ∃ (names : List String) (head stage middle branches last : String),
    HasNarrowStage q test stage ∧
    appendBranches parameter names "" (branchTexts parameter q.branches) = .ok branches ∧
    text = head ++ stage ++ middle ++ branches ++ last

theorem plainSelect_narrowed (target : q.placeholder? = .ok (some node)) (some : node ≠ "")
    (hnode : IsPlainText node) (hname : IsIdentifier name) :
    Result.Agree (fun text _ => HasNarrowSelect q (identityTest node name) text)
      (plainSelect parameter (q.narrowed node name) (conditionsOf parameter (q.narrowed node name))
        (branchTexts parameter q.branches))
      (plainSelect parameter q (conditionsOf parameter q) (branchTexts parameter q.branches)) := by
  have walk : (q.narrowed node name).walk .branches = q.walk .branches := rfl
  unfold plainSelect
  rw [walk]
  refine .bind (singleSelect_narrowed target some hnode hname none) ?_
  rintro ⟨text, names⟩ ⟨text', names'⟩ ⟨same, stage, tail, whole, narrow⟩
  obtain rfl : names = names' := same
  refine .after _ fun _ _ => ?_
  show Result.Agree _ (appendBranches parameter names text _) (appendBranches parameter names text' _)
  rw [appendBranches_eq parameter names _ text, appendBranches_eq parameter names _ text']
  refine .after _ fun branches found => ?_
  refine ⟨names, "", stage, tail, branches, "", narrow, found, ?_⟩
  obtain rfl : text = stage ++ tail := whole
  simp only [String.empty_append, String.append_empty]

/-- The statement of the narrowed query fails as that of the query does; where it does not, it is a
narrow select. -/
theorem statementText_narrowed (plain : q.standIns = [])
    (target : q.placeholder? = .ok (some node)) (some : node ≠ "") (hnode : IsPlainText node)
    (hname : IsIdentifier name) :
    Result.Agree (fun text _ => HasNarrowSelect q (identityTest node name) text)
      (statementText (q.narrowed node name)) (statementText q) := by
  have ask : (q.narrowed node name).ask .grammar "compile_select" =
    q.ask .grammar "compile_select" := rfl
  have present : (q.narrowed node name).hasBranches = q.hasBranches := rfl
  have aggregate : (q.narrowed node name).aggregate = q.aggregate := rfl
  have branches : (q.narrowed node name).branches = q.branches := rfl
  unfold statementText selectText assembleSelect
  rw [ask, present, aggregate, branches]
  refine .after _ fun _ _ => ?_
  have select := plainSelect_narrowed target some hnode hname
  cases q.hasBranches with
  | false => exact select
  | true =>
    cases q.aggregate with
    | none => exact select
    | some a =>
      have groups : (q.narrowed node name).hasGroups = q.hasGroups := rfl
      have havings : (q.narrowed node name).hasHavings = q.hasHavings := rfl
      have projection (a : Member Aggregate) : aggregateText parameter (q.narrowed node name) a =
        aggregateText parameter q a := aggregateText_withWheres a
      unfold unionAggregate
      rw [groups, havings, QueryOver.copied_plain plain,
        QueryOver.copied_plain (q := q.narrowed node name) plain]
      simp only [projection]
      split
      · exact Eq.refl _
      · have step (copy : Query) (f : Query → Result String) :
            (Except.ok copy >>= f : Result String) = f copy := rfl
        rw [step, step]
        refine .bind (plainSelect_narrowed (q := { q with aggregate := none }) target some hnode
          hname) ?_
        rintro inner _ ⟨names, head, stage, middle, branches, last,
          ⟨r, old, constraints, condition, labels, patterns, wheres, narrow⟩, found, rfl⟩
        refine .after _ fun projection _ => ?_
        refine ⟨names, "CALL \x7b " ++ head, stage, middle, branches, last ++ " \x7d " ++ projection,
          ⟨r, old, constraints, condition, labels, patterns, wheres, narrow⟩, found, ?_⟩
        simp only [String.append_assoc]

end Cypher

end GraphQuery
