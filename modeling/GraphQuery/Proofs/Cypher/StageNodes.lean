import GraphQuery.Proofs.Cypher.StageClauses
import GraphQuery.Proofs.Cypher.Stages

/-! # The nodes of a stage

Columns are resolved against the nodes that a query is said to have (`Query.knownPlaceholders`, in the
order of the calls), but the stage introduces nodes on its own: those of the patterns that have to match
first, and each node only where it is mentioned first (`introductions`).  `matchStage_introduces` tells
that both agree on every stage that compiles, that each node is introduced once, and that the constraint
of a pattern stands behind the node that it is about.  A select that chooses nothing returns exactly
these nodes, in their order. -/

namespace GraphQuery

open GraphQuery.Cypher GraphQuery.Text

/-! ### First mentions -/

/-- The placeholders that nodes introduce behind others.  A mention introduces its placeholder, and is
written with labels, unless an earlier node has the same one (`mentionText`). -/
def introductions (earlier : List NodePattern) : List NodePattern → List String
  | [] => []
  | n :: rest =>
    (if (firstNode? earlier n.placeholder).isNone then [n.placeholder] else []) ++
      introductions (earlier ++ [n]) rest

/-- The placeholders of nodes. -/
def placeholders (nodes : List NodePattern) : List String := nodes.map (·.placeholder)

variable {earlier nodes : List NodePattern} {name : String}

theorem introductions_cons (n : NodePattern) (rest : List NodePattern) :
    introductions earlier (n :: rest) =
      (if n.placeholder ∈ placeholders earlier then [] else [n.placeholder]) ++
        introductions (earlier ++ [n]) rest := by
  by_cases before : n.placeholder ∈ placeholders earlier
  · have found : (firstNode? earlier n.placeholder).isNone = false := by
      simpa [firstNode?, placeholders] using before
    simp [introductions, found, before]
  · have none : (firstNode? earlier n.placeholder).isNone := by
      simpa [firstNode?, placeholders] using before
    simp [introductions, none, before]

theorem introductions_append (first second : List NodePattern) : ∀ earlier : List NodePattern,
    introductions earlier (first ++ second) =
      introductions earlier first ++ introductions (earlier ++ first) second := by
  induction first with
  | nil => simp [introductions]
  | cons n rest ih =>
    intro earlier
    simp [introductions, ih]

theorem mem_introductions : ∀ {nodes earlier : List NodePattern},
    name ∈ introductions earlier nodes ↔ name ∈ placeholders nodes ∧ name ∉ placeholders earlier
  | [], _ => by simp [introductions, placeholders]
  | n :: rest, earlier => by
    have ih : name ∈ introductions (earlier ++ [n]) rest ↔
        name ∈ placeholders rest ∧ name ∉ placeholders (earlier ++ [n]) := mem_introductions
    simp only [placeholders, List.map_append, List.map_cons, List.map_nil, List.mem_append,
      List.mem_cons] at ih ⊢
    rw [introductions_cons, List.mem_append, ih]
    by_cases same : name = n.placeholder
    · subst same
      by_cases before : n.placeholder ∈ placeholders earlier <;> simp [placeholders] at before ⊢
    · have other : name ∉ if n.placeholder ∈ placeholders earlier then [] else [n.placeholder] := by
        split <;> simp [same]
      simp [other, same]

theorem introductions_nodup : ∀ {nodes earlier : List NodePattern},
    (introductions earlier nodes).Nodup
  | [], _ => List.nodup_nil
  | n :: rest, earlier => by
    rw [introductions_cons]
    refine List.nodup_append'.mpr ⟨by split <;> simp, introductions_nodup, ?_⟩
    intro name here later
    have same : name = n.placeholder := by
      split at here
      · cases here
      · exact List.mem_singleton.mp here
    exact (mem_introductions.mp later).2 (by simp [placeholders, same])

/-- Collecting new placeholders one after another lists the first mentions. -/
theorem foldl_addNew_eq : ∀ {nodes earlier : List NodePattern},
    (placeholders nodes).foldl addNew (introductions [] earlier) =
      introductions [] (earlier ++ nodes)
  | [], earlier => by simp [placeholders]
  | n :: rest, earlier => by
    have next : addNew (introductions [] earlier) n.placeholder =
        introductions [] (earlier ++ [n]) := by
      rw [introductions_append, List.nil_append, introductions_cons]
      unfold addNew
      by_cases before : n.placeholder ∈ placeholders earlier
      · rw [if_pos before, if_pos (mem_introductions.mpr ⟨before, by simp [placeholders]⟩)]
        simp [introductions]
      · rw [if_neg before, if_neg fun h => before (mem_introductions.mp h).1]
        simp [introductions]
    have step : (placeholders rest).foldl addNew (introductions [] (earlier ++ [n])) =
        introductions [] (earlier ++ [n] ++ rest) := foldl_addNew_eq
    rwa [← next, List.append_assoc] at step

/-! ### What the stage introduces -/

theorem FarEnd.toNode_placeholder (far : FarEnd) : far.toNode.placeholder = far.placeholder := by
  cases far <;> rfl

theorem Pattern.placeholders_nodes (p : Pattern) :
    placeholders p.nodes = [p.parent.placeholder, p.far.placeholder] := by
  rw [← p.far.toNode_placeholder]
  rfl

namespace Cypher

variable {seen later : Introduced}

theorem WritesNode.keys {n : NodePattern} {text : String} (h : WritesNode n seen text later) :
    later.map Prod.fst = addNew (seen.map Prod.fst) n.placeholder := by
  cases h with
  | again found =>
    have listed : n.placeholder ∈ seen.map Prod.fst :=
      List.mem_map_of_mem (f := Prod.fst) (mem_of_lookup? found)
    rw [addNew, if_pos listed]
  | first => exact keys_put ..

theorem WritesFar.keys {far : FarEnd} {relationship text : String}
    (h : WritesFar seen far relationship text later) :
    later.map Prod.fst = addNew (seen.map Prod.fst) far.placeholder := by
  cases h with
  | node written => exact written.keys
  | anyNode => exact keys_put ..

theorem WritesPattern.keys {p : Pattern} {text : String} (h : WritesPattern p seen text later) :
    later.map Prod.fst = (placeholders p.nodes).foldl addNew (seen.map Prod.fst) := by
  obtain ⟨-, first, second⟩ := h
  rw [second.keys, first.keys, p.placeholders_nodes]
  rfl

theorem WritesClauses.keys {isOptional : Bool} {keyword : String} {behind : Pattern → String}
    {patterns : List (Member Pattern)} {texts : List String}
    (h : WritesClauses isOptional keyword behind patterns seen texts later) :
    later.map Prod.fst = (placeholders ((patternsAmong isOptional patterns).flatMap Pattern.nodes)).foldl
      addNew (seen.map Prod.fst) := by
  induction h with
  | nil => rfl
  | other skipped _ ih => rw [patternsAmong_cons, if_neg skipped, ih]
  | clause chosen first _ ih =>
    rw [patternsAmong_cons, if_pos chosen, ih, first.keys, ← List.foldl_append]
    simp [placeholders]

variable {q : Query} {stage : String}

theorem requiredText_start {node : Option String} {front : String × Introduced}
    (target : q.placeholder? = .ok node) (h : requiredText q [] = .ok front) :
    q.walk .patterns = .ok () ∧ ∃ start texts, start.map Prod.fst = node.toList ∧
      WritesMatches q.patterns start texts front.2 := by
  obtain ⟨text, later⟩ := front
  cases requiredText_eq_ok_iff.mp h with
  | bare target' walked clauses =>
    obtain rfl := Except.ok.inj (target.symm.trans target')
    exact ⟨walked, [], _, rfl, clauses⟩
  | @primary node _ _ _ target' walked _ clauses =>
    obtain rfl := Except.ok.inj (target.symm.trans target')
    exact ⟨walked, put node q.labelTexts [], _, rfl, clauses⟩

/-- A stage that compiles introduces the first mentions of the nodes of its query. -/
theorem matchStage_keys {write : String → String} {conditions : Conditions} {node : Option String}
    {labels : List String} (target : q.placeholder? = .ok node)
    (h : matchStage write q conditions [] = .ok (stage, seen)) :
    seen.map Prod.fst = introductions [] (q.nodes (node.map (⟨·, labels⟩))) := by
  obtain ⟨_, before, _, _, _, first, second, -⟩ := matchStage_eq_ok h
  obtain ⟨-, start, _, primary, matched⟩ := requiredText_start target first
  obtain ⟨-, _, listed, -⟩ := optionalText_eq_ok_iff.mp second
  have front : before.map Prod.fst = introductions [] ((node.map (⟨·, labels⟩)).toList ++
      (patternsAmong false q.patterns).flatMap Pattern.nodes) := by
    rw [← foldl_addNew_eq, matched.keys, primary]
    cases node <;> rfl
  rw [listed.keys, front, foldl_addNew_eq]
  rfl

theorem WritesClauses.members {isOptional : Bool} {keyword : String} {behind : Pattern → String}
    {patterns : List (Member Pattern)} {texts : List String}
    (h : WritesClauses isOptional keyword behind patterns seen texts later) :
    patterns.mapM (·.need "kind") = .ok (patterns.filterMap (·.clause?)) := by
  induction h with
  | nil => rfl
  | other _ _ ih | clause _ _ _ ih =>
    rw [List.mapM_cons, ih]
    rfl

/-- Patterns that compile are known, in the order of the calls. -/
theorem knownPlaceholders_eq {node : Option String} {front : String × Introduced}
    (target : q.placeholder? = .ok node) (h : requiredText q [] = .ok front) :
    q.knownPlaceholders = .ok ((placeholders ((q.patterns.filterMap (·.clause?)).flatMap
      Pattern.nodes)).foldl addNew node.toList) := by
  obtain ⟨walked, _, _, -, matched⟩ := requiredText_start target h
  have members := matched.members
  have fold : ∀ (ps : List Pattern) (known : List String),
      ps.foldl (fun known p => addNew (addNew known p.parent.placeholder) p.far.placeholder) known =
        (placeholders (ps.flatMap Pattern.nodes)).foldl addNew known := by
    intro ps
    induction ps with
    | nil => exact fun _ => rfl
    | cons p rest ih =>
      intro known
      have front : placeholders ((p :: rest).flatMap Pattern.nodes) =
          [p.parent.placeholder, p.far.placeholder] ++ placeholders (rest.flatMap Pattern.nodes) := by
        rw [← p.placeholders_nodes]
        simp [placeholders]
      rw [front, List.foldl_append, List.foldl_cons, ih]
      rfl
  unfold Query.knownPlaceholders
  rw [target, walked, members, ← fold]
  rfl

end Cypher

/-! ### Agreement with what is known -/

variable {q : Query}

theorem mem_patternsAmong {isOptional : Bool} {clauses : List (Member Pattern)} {p : Pattern} :
    p ∈ patternsAmong isOptional clauses ↔ .clause p ∈ clauses ∧ p.isOptional = isOptional := by
  have among : p ∈ clauses.filterMap (·.clause?) ↔ .clause p ∈ clauses := by
    rw [List.mem_filterMap]
    constructor
    · rintro ⟨_ | _, member, found⟩
      · obtain rfl := Option.some.inj found
        exact member
      · cases found
    · exact fun member => ⟨_, member, rfl⟩
  simp [patternsAmong, among]

theorem mem_placeholders_append {first second : List NodePattern} :
    name ∈ placeholders (first ++ second) ↔ name ∈ placeholders first ∨ name ∈ placeholders second := by
  simp [placeholders]

theorem mem_placeholders_primary {node : Option String} {labels : List String} :
    name ∈ placeholders (node.map (NodePattern.mk · labels)).toList ↔ node = some name := by
  cases node <;> simp [placeholders, eq_comm]

theorem mem_placeholders_flatMap {ps : List Pattern} :
    name ∈ placeholders (ps.flatMap Pattern.nodes) ↔ ∃ p ∈ ps, p.Binds name := by
  have here (p : Pattern) : name ∈ placeholders p.nodes ↔ p.Binds name := by
    rw [p.placeholders_nodes]
    simp [Pattern.Binds]
  simp only [placeholders, List.map_flatMap, List.mem_flatMap] at here ⊢
  exact exists_congr fun p => and_congr_right fun _ => here p

theorem mem_placeholders_clauses {clauses : List (Member Pattern)} :
    name ∈ placeholders ((clauses.filterMap (·.clause?)).flatMap Pattern.nodes) ↔
      name ∈ placeholders ((patternsAmong false clauses).flatMap Pattern.nodes) ∨
        name ∈ placeholders ((patternsAmong true clauses).flatMap Pattern.nodes) := by
  simp only [mem_placeholders_flatMap, patternsAmong, List.mem_filter, decide_eq_true_eq]
  constructor
  · rintro ⟨p, member, ends⟩
    cases optional : p.isOptional with
    | false => exact Or.inl ⟨p, ⟨member, optional⟩, ends⟩
    | true => exact Or.inr ⟨p, ⟨member, optional⟩, ends⟩
  · rintro (⟨p, member, ends⟩ | ⟨p, member, ends⟩) <;> exact ⟨p, member.1, ends⟩

theorem mem_placeholders_among {isOptional : Bool} :
    name ∈ placeholders ((patternsAmong isOptional q.patterns).flatMap Pattern.nodes) ↔
      ∃ p, Member.clause p ∈ q.patterns ∧ p.isOptional = isOptional ∧ p.Binds name := by
  simp only [mem_placeholders_flatMap, mem_patternsAmong, and_assoc]

/-- Nodes with the same placeholders introduce the same ones. -/
theorem introductions_perm {nodes nodes' : List NodePattern}
    (same : ∀ name, name ∈ placeholders nodes ↔ name ∈ placeholders nodes') :
    (introductions [] nodes).Perm (introductions [] nodes') := by
  refine (List.perm_ext_iff_of_nodup introductions_nodup introductions_nodup).mpr fun name => ?_
  rw [mem_introductions, mem_introductions, same]

/-- Whether a clause states the constraint of a pattern: among the conditions behind a `WHERE`, or in a
`WHERE` of its own behind the pattern. -/
inductive MatchClause.States (p : Pattern) : MatchClause → Prop
  | among {conditions : List String} : constraintText parameter p ∈ conditions →
      States p (.kept ("WHERE " ++ joined " AND " conditions))
  | behind : States p (.optional p)

/-- Whether a select returns whatever its stage has: it chooses no columns, and there are no stages, no
groups and no aggregate. -/
structure Query.ReturnsAll (q : Query) : Prop where
  ungrouped : isStaged q = false
  unstaged : q.hasStages = false
  plain : q.aggregate = none
  unchosen : (chosenColumns q).map isStar = .ok true

/-- The select of a query returns these names behind its stage, and nothing else.  There has to be one. -/
structure Query.SelectsOnly (q : Query) (stage : String) (names : List String) : Prop where
  nothing : names = [] → singleSelect parameter q (conditionsOf parameter q) none =
    .error (.render .nothingToReturn)
  something : ∀ {text : String} {columns : List String},
    singleSelect parameter q (conditionsOf parameter q) none = .ok (text, columns) →
      names ≠ [] ∧ ∃ order skip limit, orderText q = .ok order ∧ skipText q = .ok skip ∧
        limitText q = .ok limit ∧
        text = spaced [stage, "RETURN " ++ distinctText q ++ joined ", " names, order, skip, limit]

/-- What the clauses of the stage of a query introduce, in this order. -/
structure Introduces (q : Query) (clauses : List MatchClause) (names : List String) : Prop where
  written : names = introductions [] (clauses.flatMap (·.nodes))
  once : names.Nodup
  /-- they are the nodes against which columns are resolved -/
  known : ∃ known, q.knownPlaceholders = .ok known ∧ names.Perm known
  primary : ∀ node, q.placeholder? = .ok (some node) → names.head? = some node
  /-- what only an optional pattern introduces comes last -/
  ordered : ∃ first late, names = first ++ late ∧ (∀ name ∈ first, q.BindsFirst [] name) ∧
    ∀ name ∈ late, q.BindsLate [] name
  /-- no constraint stands ahead of its node -/
  stated : ∀ p, .clause p ∈ q.patterns → constraintText parameter p ≠ "" →
    ∃ before c after, clauses = before ++ c :: after ∧ c.States p ∧
      p.parent.placeholder ∈ introductions [] ((before ++ [c]).flatMap (·.nodes))

namespace Cypher

variable {stage : String} {seen : Introduced}

theorem mem_introductions_nil {nodes : List NodePattern} :
    name ∈ introductions [] nodes ↔ name ∈ placeholders nodes := by
  simp [mem_introductions, placeholders]

/-- The constraints of patterns that have to match stand behind these patterns. -/
theorem states_required {p : Pattern} (member : .clause p ∈ q.patterns)
    (required : p.isOptional = false) (some : constraintText parameter p ≠ "") (predicates : String) :
    (MatchClause.kept (whereText parameter q predicates)).States p := by
  have listed : constraintText parameter p ∈ requiredConstraints parameter q := by
    unfold requiredConstraints
    refine List.mem_filter.mpr ⟨List.mem_map_of_mem (List.mem_filter.mpr ⟨?_, by simp [required]⟩),
      by simpa using some⟩
    exact List.mem_filterMap.mpr ⟨_, member, rfl⟩
  have some : requiredConstraints parameter q ≠ [] := List.ne_nil_of_mem listed
  have among (rest : List String) : (MatchClause.kept
      (if (requiredConstraints parameter q ++ rest).isEmpty then ""
        else "WHERE " ++ joined " AND " (requiredConstraints parameter q ++ rest))).States p := by
    rw [if_neg (by simp [some])]
    exact .among (List.mem_append_left _ listed)
  exact among _

theorem stageOf_states {primary : Option NodePattern} {predicates late : String} {p : Pattern}
    (member : .clause p ∈ q.patterns) (some : constraintText parameter p ≠ "") :
    ∃ before c after, stageOf q primary (whereText parameter q predicates) late =
        before ++ c :: after ∧ c.States p ∧
      p.parent.placeholder ∈ introductions [] ((before ++ [c]).flatMap (·.nodes)) := by
  unfold stageOf
  cases optional : p.isOptional with
  | false =>
    refine ⟨(primary.map .target).toList ++ (patternsAmong false q.patterns).map .required,
      .kept (whereText parameter q predicates), _, by rw [List.append_assoc],
      states_required member optional some predicates, mem_introductions_nil.mpr ?_⟩
    have among := mem_patternsAmong.mpr ⟨member, optional⟩
    have here : p.parent ∈ p.nodes := List.mem_cons_self ..
    exact List.mem_map_of_mem (List.mem_flatMap.mpr ⟨.required p, by simp [among], here⟩)
  | true =>
    have among := mem_patternsAmong.mpr ⟨member, optional⟩
    obtain ⟨first, rest, parts⟩ := List.append_of_mem among
    rw [parts]
    refine ⟨(primary.map .target).toList ++ ((patternsAmong false q.patterns).map .required ++
      (.kept (whereText parameter q predicates) :: first.map .optional)), .optional p,
      rest.map .optional ++ [.kept late], by simp, .behind, mem_introductions_nil.mpr ?_⟩
    have here : p.parent ∈ p.nodes := List.mem_cons_self ..
    exact List.mem_map_of_mem (List.mem_flatMap.mpr ⟨.optional p, by simp, here⟩)

/-- A select that chooses nothing returns what its stage introduces; there has to be something. -/
theorem returnItems_all (all : q.ReturnsAll) : returnItems q seen =
    if seen.map Prod.fst = [] then .error (.render .nothingToReturn) else .ok (seen.map Prod.fst) := by
  unfold returnItems
  have unchosen := all.unchosen
  cases chosen : chosenColumns q with
  | error e =>
    rw [chosen] at unchosen
    cases unchosen
  | ok columns =>
    rw [chosen] at unchosen
    have star : isStar columns = true := Except.ok.inj unchosen
    rw [all.ungrouped, if_neg (by decide)]
    show (if isStar columns then _ else _) = _
    rw [star, if_pos rfl, all.unstaged]
    cases seen <;> rfl

theorem withText_all (all : q.ReturnsAll) : withText parameter q = .ok "" := by
  unfold withText
  rw [all.unstaged, all.ungrouped]
  rfl

theorem selectsOnly_seen (all : q.ReturnsAll)
    (h : matchStage parameter q (conditionsOf parameter q) [] = .ok (stage, seen)) :
    q.SelectsOnly stage (seen.map Prod.fst) where
  nothing := by
    intro nothing
    rw [singleSelect_eq, h]
    show (afterStage parameter q none seen >>= _) = _
    unfold afterStage
    rw [withText_all all, all.ungrouped, all.plain, returnItems_all all, if_pos nothing]
    rfl
  something := by
    intro text columns selected
    obtain ⟨_, _, texts, matched, after, rfl⟩ := singleSelect_eq_ok selected
    obtain ⟨rfl, rfl⟩ := Prod.mk.inj (Except.ok.inj (h.symm.trans matched))
    obtain ⟨carried, projection, items, order, skip, limit, grouped, projects, ordered, skipped,
      limited, rfl, -⟩ := afterStage_eq_ok after
    obtain rfl := Except.ok.inj (grouped.symm.trans (withText_all all))
    cases projects with
    | aggregate _ own =>
      rw [all.plain] at own
      cases own
    | listed _ returned =>
      rw [returnItems_all all] at returned
      split at returned
      · cases returned
      · next some =>
        obtain rfl := Except.ok.inj returned
        refine ⟨some, order, skip, limit, ordered, skipped, limited, ?_⟩
        rw [spaced_eq_beside stage, spaced_eq_beside "", spaced_eq_beside stage]
        simp [beside, itemsText]

/-! ### The order of a stage -/

theorem introduces_stageOf {node : Option String} {labels : List String} {predicates late : String}
    (target : q.placeholder? = .ok node)
    (h : matchStage parameter q (conditionsOf parameter q) [] = .ok (stage, seen)) :
    Introduces q (stageOf q (node.map (⟨·, labels⟩)) (whereText parameter q predicates) late)
      (seen.map Prod.fst) := by
  have keys : seen.map Prod.fst = introductions [] (q.nodes (node.map (⟨·, labels⟩))) :=
    matchStage_keys target h
  obtain ⟨front, required, -⟩ := Result.bind_eq_ok h
  let first := (node.map (NodePattern.mk · labels)).toList ++
    (patternsAmong false q.patterns).flatMap Pattern.nodes
  let optional := (patternsAmong true q.patterns).flatMap Pattern.nodes
  have parts : q.nodes (node.map (⟨·, labels⟩)) = first ++ optional := rfl
  have primary : introductions [] (node.map (NodePattern.mk · labels)).toList = node.toList := by
    cases node <;> rfl
  have mem_first (name : String) : name ∈ placeholders first ↔ q.BindsFirst [] name := by
    rw [mem_placeholders_append, mem_placeholders_primary, mem_placeholders_among]
    constructor
    · rintro (rfl | ⟨p, member, required, ends⟩)
      · exact .primary target
      · exact .required member (by simp [required]) ends
    · intro early
      cases early with
      | earlier known => cases known
      | primary found => exact Or.inl (Except.ok.inj (target.symm.trans found))
      | required member required ends => exact Or.inr ⟨_, member, by simpa using required, ends⟩
  have mem_optional (name : String) : name ∈ placeholders optional ↔ q.BindsOptionally name :=
    mem_placeholders_among
  refine ⟨by rw [nodes_stageOf, keys], by rw [keys]; exact introductions_nodup, ?_, fun n found => ?_,
    ?_, fun p member some => stageOf_states member some⟩
  · refine ⟨_, knownPlaceholders_eq target required, ?_⟩
    rw [keys, ← primary, foldl_addNew_eq]
    refine introductions_perm fun name => ?_
    rw [parts, mem_placeholders_append, mem_placeholders_append, mem_placeholders_append,
      mem_placeholders_clauses, or_assoc]
  · obtain rfl := Except.ok.inj (target.symm.trans found)
    rw [keys]
    rfl
  · rw [keys, parts, introductions_append]
    refine ⟨_, _, rfl, fun name member => ?_, fun name member => ?_⟩
    · exact (mem_first name).mp (mem_introductions.mp member).1
    · obtain ⟨late, new⟩ := mem_introductions.mp member
      exact ⟨(mem_optional name).mp late, fun early => new ((mem_first name).mpr early)⟩

/-- A stage that compiles introduces the nodes against which columns are resolved, each of them once and
ahead of the constraints that read it.  A select that chooses nothing returns them in this order. -/
theorem matchStage_introduces
    (h : matchStage parameter q (conditionsOf parameter q) [] = .ok (stage, seen)) :
    ∃ primary early late names, q.placeholder? = .ok (primary.map (·.placeholder)) ∧
      stage = spaced (clauseTexts [] (stageOf q primary early late)) ∧
      Introduces q (stageOf q primary early late) names ∧
      (q.ReturnsAll → q.SelectsOnly stage names) := by
  obtain ⟨node, labels, predicates, late, target, -, rfl⟩ := matchStage_clauses h
  refine ⟨node.map (⟨·, labels⟩), whereText parameter q predicates, late, seen.map Prod.fst,
    ?_, rfl, introduces_stageOf target h, fun all => selectsOnly_seen all h⟩
  rw [target]
  cases node <;> rfl

/-- An optional pattern ahead of one that has to match: its far end is the second node that is known, and
the last one that is introduced. -/
theorem matchStage_introduces_late :
    let q := (LiveQuery.afterCalls [.target (.text "User"),
      .relation (.text "User") (.text "Post") (.text "post") (.text "WROTE") (.text "name")
        (.text "Ada") (.text "out") (.text "or"),
      .relation (.text "User") (.text "Group") (.text "group") (.text "IN") (.text "id") (.int 3)
        (.text "out") Call.andName]).query
    let stage := "MATCH (user:User) MATCH (user)-[rel_in_group:IN]->(group:Group) " ++
      "WHERE id(user) = $iduser OPTIONAL MATCH (user)-[rel_wrote_post:WROTE]->(post:Post) " ++
      "WHERE user.name = $name"
    q.knownPlaceholders.toOption = some ["user", "post", "group"] ∧
    ((singleSelect parameter q (conditionsOf parameter q) none).map Prod.fst).toOption =
      some (stage ++ " RETURN user, group, post") ∧
    ∃ seen, matchStage parameter q (conditionsOf parameter q) [] = .ok (stage, seen) ∧
    ∃ primary early late names, q.placeholder? = .ok (primary.map (·.placeholder)) ∧
      stage = spaced (clauseTexts [] (stageOf q primary early late)) ∧
      Introduces q (stageOf q primary early late) names ∧
      (q.ReturnsAll → q.SelectsOnly stage names) := by
  intro q stage
  have h : matchStage parameter q (conditionsOf parameter q) [] =
      .ok (stage, [("user", ["User"]), ("group", ["Group"]), ("post", ["Post"])]) :=
    Result.of_toOption (by decide +kernel)
  exact ⟨by decide +kernel, by decide +kernel, _, h, matchStage_introduces h⟩

end Cypher

end GraphQuery
