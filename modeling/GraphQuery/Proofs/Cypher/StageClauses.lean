import GraphQuery.Proofs.Cypher.Rows

/-! # The stage of a query as clauses

The text of a stage is that of single clauses with spaces between them: the target if the query has one,
the patterns that have to match, a condition, the optional patterns, and another condition (`stageOf`).
`matchStage_clauses` tells so for every stage that compiles.  Which nodes a clause mentions, and which
of them stood in front of it, decides how it is written (`MatchClause.text`). -/

namespace GraphQuery

open GraphQuery.Cypher GraphQuery.Text

/-! ### Texts side by side -/

/-- Two texts with a space between them, unless one of them is empty. -/
def beside (a b : String) : String :=
  if a = "" then b else if b = "" then a else a ++ " " ++ b

theorem append_ne_empty {a : String} (some : a ≠ "") (b : String) : a ++ b ≠ "" :=
  fun empty => some (String.append_eq_empty_iff.mp empty).1

theorem beside_ne_empty {a : String} (some : a ≠ "") (b : String) : beside a b ≠ "" := by
  unfold beside
  rw [if_neg some]
  split
  · exact some
  · exact append_ne_empty (append_ne_empty some _) _

theorem beside_assoc (a b c : String) : beside (beside a b) c = beside a (beside b c) := by
  by_cases ha : a = ""
  · simp [beside, ha]
  · by_cases hb : b = ""
    · simp [beside, ha, hb]
    · by_cases hc : c = ""
      · simp [beside, ha, hb, hc]
      · have hab : a ++ " " ++ b ≠ "" := append_ne_empty (append_ne_empty ha _) _
        have hbc : b ++ " " ++ c ≠ "" := append_ne_empty (append_ne_empty hb _) _
        simp only [beside, if_neg ha, if_neg hb, if_neg hc, if_neg hab, if_neg hbc]
        simp only [String.append_assoc]

theorem spaced_eq_beside (text : String) (rest : List String) :
    spaced (text :: rest) = beside text (spaced rest) := by
  unfold beside spaced
  by_cases none : text = ""
  · simp [none]
  · rw [if_neg none, List.filter_cons_of_pos (by simpa using none)]
    cases others : rest.filter (· ≠ "") with
    | nil => simp [joined]
    | cons second more =>
      have some : second ≠ "" := by
        have member : second ∈ rest.filter (· ≠ "") := others ▸ List.mem_cons_self ..
        simpa using (List.mem_filter.mp member).2
      have begins : ∃ tail, joined " " (second :: more) = second ++ tail := by
        cases more with
        | nil => exact ⟨"", by simp [joined]⟩
        | cons third more =>
          refine ⟨" " ++ joined " " (third :: more), String.toList_injective ?_⟩
          simp [joined, String.toList_append]
      obtain ⟨tail, begins⟩ := begins
      rw [if_neg (begins ▸ append_ne_empty some tail)]
      apply String.toList_injective
      simp [joined, String.toList_append]

theorem spaced_append (first : List String) : ∀ second : List String,
    spaced (first ++ second) = beside (spaced first) (spaced second) := by
  induction first with
  | nil => exact fun second => rfl
  | cons text rest ih =>
    intro second
    rw [List.cons_append, spaced_eq_beside, ih, spaced_eq_beside, beside_assoc]

theorem spaced_groups : ∀ groups : List (List String),
    spaced (groups.map spaced) = spaced groups.flatten
  | [] => rfl
  | group :: rest => by
    rw [List.map_cons, spaced_eq_beside, spaced_groups rest, List.flatten_cons, spaced_append]

/-- Where no text is empty, none is left out. -/
theorem joined_eq_spaced {texts : List String} (some : ∀ text ∈ texts, text ≠ "") :
    joined " " texts = spaced texts := by
  unfold spaced
  rw [List.filter_eq_self.mpr (by simpa using some)]

/-! ### The clauses of a stage as texts -/

namespace MatchClause

/-- The nodes that a clause mentions. -/
def nodes : MatchClause → List NodePattern
  | target n => [n]
  | required p | optional p => p.nodes
  | kept _ | once _ => []

/-- The text of a clause behind clauses that mention these nodes. -/
def text (earlier : List NodePattern) : MatchClause → String
  | target n => "MATCH " ++ mentionText earlier n
  | required p => "MATCH " ++ patternMention earlier p
  | optional p => "OPTIONAL MATCH " ++ patternMention earlier p ++ constraintClause parameter p
  | kept clause => clause
  | once node => "WITH DISTINCT " ++ node

end MatchClause

/-- The texts of clauses, one behind the other. -/
def clauseTexts (earlier : List NodePattern) : List MatchClause → List String
  | [] => []
  | c :: rest => c.text earlier :: clauseTexts (earlier ++ c.nodes) rest

theorem clauseTexts_append (first second : List MatchClause) : ∀ earlier : List NodePattern,
    clauseTexts earlier (first ++ second) =
      clauseTexts earlier first ++ clauseTexts (earlier ++ first.flatMap (·.nodes)) second := by
  induction first with
  | nil => intro earlier; simp [clauseTexts]
  | cons c rest ih =>
    intro earlier
    simp [clauseTexts, ih]

theorem clauseTexts_required (ps : List Pattern) : ∀ earlier : List NodePattern,
    clauseTexts earlier (ps.map .required) = clauseMentions "MATCH " (fun _ => "") earlier ps := by
  induction ps with
  | nil => exact fun _ => rfl
  | cons p rest ih =>
    intro earlier
    rw [List.map_cons, clauseTexts, clauseMentions, ih, String.append_empty]
    rfl

theorem clauseTexts_optional (ps : List Pattern) : ∀ earlier : List NodePattern,
    clauseTexts earlier (ps.map .optional) =
      clauseMentions "OPTIONAL MATCH " (constraintClause parameter) earlier ps := by
  induction ps with
  | nil => exact fun _ => rfl
  | cons p rest ih =>
    intro earlier
    rw [List.map_cons, clauseTexts, clauseMentions, ih]
    rfl

/-- A pattern is written alike behind nodes that have the same placeholders. -/
theorem clauseMentions_congr {keyword : String} {behind : Pattern → String} (ps : List Pattern) :
    ∀ {earlier earlier' : List NodePattern},
      (∀ name, (firstNode? earlier name).isNone = (firstNode? earlier' name).isNone) →
      clauseMentions keyword behind earlier ps = clauseMentions keyword behind earlier' ps := by
  have more {earlier earlier' : List NodePattern} (ns : List NodePattern)
      (same : ∀ name, (firstNode? earlier name).isNone = (firstNode? earlier' name).isNone)
      (name : String) : (firstNode? (earlier ++ ns) name).isNone =
        (firstNode? (earlier' ++ ns) name).isNone := by
    have both := same name
    unfold firstNode? at both ⊢
    rw [List.find?_append, List.find?_append, Option.isNone_or, Option.isNone_or, both]
  have mention {earlier earlier' : List NodePattern}
      (same : ∀ name, (firstNode? earlier name).isNone = (firstNode? earlier' name).isNone)
      (n : NodePattern) : mentionText earlier n = mentionText earlier' n := by
    unfold mentionText
    rw [same]
  induction ps with
  | nil => exact fun _ => rfl
  | cons p rest ih =>
    intro earlier earlier' same
    have here : patternMention earlier p = patternMention earlier' p := by
      unfold patternMention
      rw [mention same, mention (more [p.parent] same)]
    rw [clauseMentions, clauseMentions, here, ih (more p.nodes same)]

theorem ne_empty_of_mem_clauseMentions {keyword : String} {behind : Pattern → String}
    (some : keyword ≠ "") : ∀ {ps : List Pattern} {earlier : List NodePattern},
      ∀ text ∈ clauseMentions keyword behind earlier ps, text ≠ ""
  | [], _, _, member => by cases member
  | p :: rest, _, text, member => by
    rcases List.mem_cons.mp member with rfl | later
    · exact append_ne_empty (append_ne_empty some _) _
    · exact ne_empty_of_mem_clauseMentions some text later

/-! ### The clauses of a query -/

variable {q : Query}

/-- The clauses of the stage of a query with this target: the patterns that have to match, a condition,
the optional patterns, and another condition. -/
def stageClauses (q : Query) (n : NodePattern) (early late : String) : List MatchClause :=
  .target n :: ((patternsAmong false q.patterns).map .required ++
    (.kept early :: ((patternsAmong true q.patterns).map .optional ++ [.kept late])))

/-- The clauses of the stage of a query that may have no target. -/
def stageOf (q : Query) (primary : Option NodePattern) (early late : String) : List MatchClause :=
  (primary.map .target).toList ++ ((patternsAmong false q.patterns).map .required ++
    (.kept early :: ((patternsAmong true q.patterns).map .optional ++ [.kept late])))

theorem stageOf_some (n : NodePattern) (early late : String) :
    stageOf q (some n) early late = stageClauses q n early late := rfl

theorem nodes_stageOf (primary : Option NodePattern) (early late : String) :
    (stageOf q primary early late).flatMap (·.nodes) = q.nodes primary := by
  have all (make : Pattern → MatchClause) (mentions : ∀ p, (make p).nodes = p.nodes)
      (ps : List Pattern) : (ps.map make).flatMap (·.nodes) = ps.flatMap Pattern.nodes := by
    rw [List.flatMap_map]
    exact List.flatMap_congr fun p _ => mentions p
  have front : (primary.map MatchClause.target).toList.flatMap (·.nodes) = primary.toList := by
    cases primary <;> rfl
  unfold stageOf Query.nodes
  rw [List.flatMap_append, List.flatMap_append, List.flatMap_cons, List.flatMap_append, front,
    all _ fun _ => rfl, all _ fun _ => rfl]
  simp [MatchClause.nodes]

theorem clauseTexts_stageOf (primary : Option NodePattern) (early late : String) :
    clauseTexts [] (stageOf q primary early late) =
      [requiredMentions q primary, [early], optionalMentions parameter q primary, [late]].flatten := by
  have front : clauseTexts [] (primary.map MatchClause.target).toList =
      (primary.map fun n => "MATCH " ++ mentionText [] n).toList := by
    cases primary <;> rfl
  have mentioned : (primary.map MatchClause.target).toList.flatMap (·.nodes) = primary.toList := by
    cases primary <;> rfl
  have required : ((patternsAmong false q.patterns).map MatchClause.required).flatMap (·.nodes) =
      (patternsAmong false q.patterns).flatMap Pattern.nodes := by
    rw [List.flatMap_map]
    rfl
  unfold stageOf
  rw [clauseTexts_append, front, List.nil_append, mentioned, clauseTexts_append, clauseTexts_required,
    clauseTexts, clauseTexts_append, clauseTexts_optional, required]
  -- the condition in between mentions no node
  rw [show (MatchClause.kept early).nodes = [] from rfl, List.append_nil]
  have alone (clause : String) (earlier : List NodePattern) :
      clauseTexts earlier [.kept clause] = [clause] := rfl
  have between (clause : String) (earlier : List NodePattern) :
      (MatchClause.kept clause).text earlier = clause := rfl
  rw [alone, between]
  simp [requiredMentions, optionalMentions]

theorem spaced_stageOf (primary : Option NodePattern) (early late : String) :
    spaced (clauseTexts [] (stageOf q primary early late)) =
      spaced [joined " " (requiredMentions q primary), early,
        joined " " (optionalMentions parameter q primary), late] := by
  have required : ∀ text ∈ requiredMentions q primary, text ≠ "" := by
    intro text member
    rcases List.mem_append.mp member with member | member
    · obtain ⟨n, -, rfl⟩ := Option.map_eq_some_iff.mp (Option.mem_toList.mp member)
      exact append_ne_empty (by decide) _
    · exact ne_empty_of_mem_clauseMentions (by decide) text member
  have optional : ∀ text ∈ optionalMentions parameter q primary, text ≠ "" :=
    ne_empty_of_mem_clauseMentions (by decide)
  have alone (text : String) : spaced [text] = text := by
    by_cases none : text = "" <;> simp [spaced, joined, none]
  have groups := spaced_groups
    [requiredMentions q primary, [early], optionalMentions parameter q primary, [late]]
  simp only [List.map_cons, List.map_nil, alone] at groups
  rw [clauseTexts_stageOf, joined_eq_spaced required, joined_eq_spaced optional, groups]

/-! ### The text of a stage -/

/-- What the front of a stage is made of.  The labels that are written may be others than those that are
compared with the labels of patterns. -/
theorem requiredText_clauses {text : String} {later : Introduced}
    (written : requiredText q [] = .ok (text, later)) :
    ∃ node labels, q.placeholder? = .ok node ∧
      (node.isSome → labelsText q.labels = .ok (labelText labels)) ∧
      text = joined " " (requiredMentions q (node.map (⟨·, labels⟩))) ∧
      Mentioned ((node.map (⟨·, q.labelTexts⟩)).toList ++
        (patternsAmong false q.patterns).flatMap Pattern.nodes) later := by
  have none : Mentioned [] [] := ⟨fun _ => rfl, by simp [Compatible]⟩
  cases requiredText_eq_ok_iff.mp written with
  | bare target _ clauses =>
    obtain ⟨rfl, mentioned⟩ := clauses.mentions none
    exact ⟨Option.none, [], target, by simp, rfl, mentioned⟩
  | @primary node own _ _ target _ labelled clauses =>
    obtain ⟨labels, rfl⟩ : ∃ labels, own = labelText labels := by
      obtain ⟨_, -, labelled⟩ := Result.bind_eq_ok labelled
      obtain ⟨labels, -, labelled⟩ := Result.bind_eq_ok labelled
      exact ⟨labels, (Except.ok.inj labelled).symm⟩
    have primary : Mentioned [⟨node, q.labelTexts⟩] (put node q.labelTexts []) :=
      none.first (n := ⟨node, q.labelTexts⟩) rfl
    obtain ⟨rfl, mentioned⟩ := clauses.mentions primary
    -- the patterns are written behind a node with the same placeholder
    have same (name : String) : (firstNode? [⟨node, q.labelTexts⟩] name).isNone =
        (firstNode? [⟨node, labels⟩] name).isNone := by
      unfold firstNode?
      by_cases same : node = name <;> simp [same]
    have front : "MATCH (" ++ node ++ labelText labels ++ ")" =
        "MATCH " ++ mentionText [] ⟨node, labels⟩ := by
      simp [mentionText, firstNode?, ← String.toList_inj, String.toList_append]
    refine ⟨some node, labels, target, fun _ => labelled, ?_, mentioned⟩
    rw [clauseMentions_congr _ same, front]
    rfl

/-- The stage of a query is the text of its clauses.  The first condition holds the constraints of the
patterns that have to match. -/
theorem matchStage_clauses {stage : String} {seen : Introduced}
    (h : matchStage parameter q (conditionsOf parameter q) [] = .ok (stage, seen)) :
    ∃ node labels predicates late, q.placeholder? = .ok node ∧
      (node.isSome → labelsText q.labels = .ok (labelText labels)) ∧
      stage = spaced (clauseTexts []
        (stageOf q (node.map (⟨·, labels⟩)) (whereText parameter q predicates) late)) := by
  obtain ⟨_, _, _, _, predicates, first, second, -, -, -, whole⟩ := matchStage_eq_ok h
  obtain ⟨node, labels, target, labelled, rfl, mentioned⟩ := requiredText_clauses first
  obtain ⟨-, clauses, listed, rfl⟩ := optionalText_eq_ok_iff.mp second
  obtain ⟨rfl, -⟩ := listed.mentions mentioned
  have same (ns : List NodePattern) (name : String) :
      (firstNode? ((node.map (⟨·, q.labelTexts⟩)).toList ++ ns) name).isNone =
        (firstNode? ((node.map (⟨·, labels⟩)).toList ++ ns) name).isNone := by
    unfold firstNode?
    cases node with
    | none => rfl
    | some node => by_cases same : node = name <;> simp [same]
  rw [clauseMentions_congr _ (same _)] at whole
  split at whole
  · refine ⟨node, labels, "", "WITH * WHERE " ++ predicates, target, labelled, ?_⟩
    rw [spaced_stageOf]
    exact whole
  · refine ⟨node, labels, predicates, "", target, labelled, ?_⟩
    rw [spaced_stageOf]
    have nothing (texts : List String) : spaced (texts ++ [""]) = spaced texts := by simp [spaced]
    exact whole.trans (nothing [_, _, _]).symm

end GraphQuery
