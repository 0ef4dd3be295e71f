import GraphQuery.Proofs.Cypher.Introductions
import GraphQuery.Proofs.Execution.Identity

/-! # Labels in the stage of a query

The stage of a query mentions the nodes of its patterns in a fixed order: the primary node, then both
ends of every pattern that has to match, then those of the optional ones (`Query.nodes`).  A node is
written with its labels where it is mentioned first, and without any later on (`mentionText`).

Every node may have labels of its own under one placeholder.  `matchStage_labels` says which of them are
written: those of the first mention, and these are the labels of every later one that has labels, unless
the first has none.  Then the later ones are not written anywhere. -/

namespace GraphQuery

open GraphQuery.Text

/-! ### The nodes of a query -/

/-- The far end of a pattern as a node; one of any labels has none. -/
def FarEnd.toNode : FarEnd → NodePattern
  | .node pattern _ => pattern
  | .anyNode placeholder _ | .foreign _ placeholder => ⟨placeholder, []⟩

/-- The nodes of a pattern in the order in which they are written. -/
def Pattern.nodes (p : Pattern) : List NodePattern := [p.parent, p.far.toNode]

/-- The patterns among clauses that have to match, or those that are optional. -/
def patternsAmong (isOptional : Bool) (clauses : List (Member Pattern)) : List Pattern :=
  (clauses.filterMap (·.clause?)).filter (·.isOptional = isOptional)

/-- The nodes of a query in the order in which its stage mentions them. -/
def Query.nodes (q : Query) (primary : Option NodePattern) : List NodePattern :=
  primary.toList ++ (patternsAmong false q.patterns).flatMap Pattern.nodes ++
    (patternsAmong true q.patterns).flatMap Pattern.nodes

/-- The first of some nodes that has a placeholder. -/
def firstNode? (nodes : List NodePattern) (placeholder : String) : Option NodePattern :=
  nodes.find? (·.placeholder = placeholder)

/-- Wherever nodes have one placeholder and labels, they have the labels of the first one; there may be
other labels only if the first one has none. -/
def Compatible (nodes : List NodePattern) : Prop :=
  ∀ n ∈ nodes, n.labels ≠ [] → ∃ first, firstNode? nodes n.placeholder = some first ∧
    (first.labels = n.labels ∨ first.labels = [])

theorem firstNode?_append (nodes : List NodePattern) (n : NodePattern) (placeholder : String) :
    firstNode? (nodes ++ [n]) placeholder = (firstNode? nodes placeholder).or
      (if n.placeholder = placeholder then some n else none) := by
  unfold firstNode?
  rw [List.find?_append]
  by_cases same : n.placeholder = placeholder <;> simp [same]

theorem Compatible.snoc {nodes : List NodePattern} {n : NodePattern} (h : Compatible nodes)
    (fits : ∀ first, firstNode? nodes n.placeholder = some first → n.labels ≠ [] →
      first.labels = n.labels ∨ first.labels = []) : Compatible (nodes ++ [n]) := by
  intro m member labelled
  rw [firstNode?_append]
  rcases List.mem_append.mp member with earlier | same
  · obtain ⟨first, found, fits⟩ := h m earlier labelled
    exact ⟨first, by rw [found, Option.some_or], fits⟩
  · obtain rfl := List.mem_singleton.mp same
    cases found : firstNode? nodes m.placeholder with
    | none => exact ⟨m, by simp, Or.inl rfl⟩
    | some first => exact ⟨first, by simp, fits first found labelled⟩

namespace Cypher

/-! ### Mentions -/

/-- A node as it is mentioned behind others. -/
def mentionText (earlier : List NodePattern) (n : NodePattern) : String :=
  "(" ++ n.placeholder ++
    (if (firstNode? earlier n.placeholder).isNone then labelText n.labels else "") ++ ")"

/-- The relationship of a pattern. -/
def relationshipText : FarEnd → String
  | .node pattern relationship =>
    relationshipVariable relationship pattern.placeholder ++ ":" ++ quote relationship
  | .anyNode placeholder relationship => "rel_" ++ placeholder ++ typeText relationship
  | .foreign _ _ => ""

/-- A pattern as it is mentioned behind nodes. -/
def patternMention (earlier : List NodePattern) (p : Pattern) : String :=
  relationText (mentionText earlier p.parent) (relationshipText p.far)
    (mentionText (earlier ++ [p.parent]) p.far.toNode) p.direction

/-- The clauses of patterns behind nodes, each with a keyword and what stands behind it. -/
def clauseMentions (keyword : String) (behind : Pattern → String) :
    List NodePattern → List Pattern → List String
  | _, [] => []
  | earlier, p :: rest => (keyword ++ patternMention earlier p ++ behind p) ::
    clauseMentions keyword behind (earlier ++ p.nodes) rest

/-- The patterns of a query that have to match, behind the primary node. -/
def requiredMentions (q : Query) (primary : Option NodePattern) : List String :=
  (primary.map fun n => "MATCH " ++ mentionText [] n).toList ++
    clauseMentions "MATCH " (fun _ => "") primary.toList (patternsAmong false q.patterns)

/-- The optional patterns of a query, behind all others. -/
def optionalMentions (write : String → String) (q : Query) (primary : Option NodePattern) :
    List String :=
  clauseMentions "OPTIONAL MATCH " (constraintClause write)
    (primary.toList ++ (patternsAmong false q.patterns).flatMap Pattern.nodes) (patternsAmong true q.patterns)

/-! ### What is known of nodes -/

/-- What is known behind some nodes: each placeholder with the labels of the first node that has it, and
no labels are lost but behind one without any. -/
structure Mentioned (nodes : List NodePattern) (seen : Introduced) : Prop where
  known : ∀ placeholder, lookup? placeholder seen = (firstNode? nodes placeholder).map (·.labels)
  compatible : Compatible nodes

variable {nodes : List NodePattern} {seen later : Introduced}

theorem Mentioned.isNone_iff (h : Mentioned nodes seen) (placeholder : String) :
    (firstNode? nodes placeholder).isNone = (lookup? placeholder seen).isNone := by
  rw [h.known, Option.isNone_map]

theorem Mentioned.first {n : NodePattern} (h : Mentioned nodes seen)
    (new : lookup? n.placeholder seen = none) :
    Mentioned (nodes ++ [n]) (put n.placeholder n.labels seen) := by
  have none : firstNode? nodes n.placeholder = none := by
    simpa [h.known] using new
  refine ⟨fun placeholder => ?_, h.compatible.snoc fun first found => ?_⟩
  · rw [lookup?_put, firstNode?_append, h.known]
    by_cases same : n.placeholder = placeholder
    · subst same
      simp [none]
    · simp [same]
  · rw [none] at found
    cases found

theorem Mentioned.again {n : NodePattern} {known : List String} (h : Mentioned nodes seen)
    (found : lookup? n.placeholder seen = some known)
    (fits : n.labels ≠ [] → known = n.labels ∨ known = []) : Mentioned (nodes ++ [n]) seen := by
  obtain ⟨first, here, rfl⟩ := Option.map_eq_some_iff.mp ((h.known _).symm.trans found)
  refine ⟨fun placeholder => ?_, h.compatible.snoc fun other there => ?_⟩
  · rw [firstNode?_append, h.known]
    by_cases same : n.placeholder = placeholder
    · subst same
      simp [here]
    · simp [same]
  · obtain rfl := Option.some.inj (here.symm.trans there)
    exact fits

theorem WritesNode.mentions {n : NodePattern} {text : String} (written : WritesNode n seen text later)
    (h : Mentioned nodes seen) : text = mentionText nodes n ∧ Mentioned (nodes ++ [n]) later := by
  unfold mentionText
  rw [h.isNone_iff]
  cases written with
  | again found fits => exact ⟨by simp [found], h.again found fits⟩
  | first new => exact ⟨by simp [new], h.first new⟩

theorem WritesFar.mentions {far : FarEnd} {relationship text : String}
    (written : WritesFar seen far relationship text later) (h : Mentioned nodes seen) :
    relationship = relationshipText far ∧ text = mentionText nodes far.toNode ∧
      Mentioned (nodes ++ [far.toNode]) later := by
  cases written with
  | node written => exact ⟨rfl, written.mentions h⟩
  | anyNode new =>
    refine ⟨rfl, ?_, h.first (n := ⟨_, []⟩) new⟩
    simp [mentionText, FarEnd.toNode, labelText, String.join]

theorem WritesPattern.mentions {p : Pattern} {text : String} (written : WritesPattern p seen text later)
    (h : Mentioned nodes seen) :
    text = patternMention nodes p ∧ Mentioned (nodes ++ p.nodes) later := by
  obtain ⟨-, first, second⟩ := written
  obtain ⟨rfl, mentioned⟩ := first.mentions h
  obtain ⟨rfl, rfl, mentioned⟩ := second.mentions mentioned
  exact ⟨rfl, by simpa [Pattern.nodes] using mentioned⟩

/-! ### All patterns of a query -/

theorem patternsAmong_cons (isOptional : Bool) (p : Pattern) (rest : List (Member Pattern)) :
    patternsAmong isOptional (.clause p :: rest) =
      if p.isOptional = isOptional then p :: patternsAmong isOptional rest
      else patternsAmong isOptional rest := by
  by_cases same : p.isOptional = isOptional <;> simp [patternsAmong, Member.clause?, same]

theorem WritesClauses.mentions {isOptional : Bool} {keyword : String} {behind : Pattern → String}
    {clauses : List (Member Pattern)} {texts : List String}
    (written : WritesClauses isOptional keyword behind clauses seen texts later)
    (h : Mentioned nodes seen) :
    texts = clauseMentions keyword behind nodes (patternsAmong isOptional clauses) ∧
      Mentioned (nodes ++ (patternsAmong isOptional clauses).flatMap Pattern.nodes) later := by
  induction written generalizing nodes with
  | nil => exact ⟨rfl, by simpa [patternsAmong] using h⟩
  | other skipped _ ih =>
    rw [patternsAmong_cons, if_neg skipped]
    exact ih h
  | clause chosen first _ ih =>
    rw [patternsAmong_cons, if_pos chosen]
    obtain ⟨rfl, mentioned⟩ := first.mentions h
    obtain ⟨rfl, mentioned⟩ := ih mentioned
    exact ⟨rfl, by simpa using mentioned⟩

/-- What is truthy among members consists of texts, and no other text is left out but the empty one. -/
theorem filter_texts : ∀ {members : List Value} {texts : List String},
    (members.filter (·.isTruthy)).mapM textOf = .ok texts →
      texts.filter (· ≠ "") = (members.filterMap (·.text?)).filter (· ≠ "")
  | [], _, h => by
    obtain rfl := Except.ok.inj h
    rfl
  | v :: rest, texts, h => by
    rw [List.filter_cons] at h
    split at h
    · rw [List.mapM_cons] at h
      obtain ⟨s, first, h⟩ := Result.bind_eq_ok h
      obtain ⟨others, later, h⟩ := Result.bind_eq_ok h
      obtain rfl := Except.ok.inj h
      cases v <;> cases first
      have whole : (Value.text s :: rest).filterMap (·.text?) = s :: rest.filterMap (·.text?) := rfl
      rw [whole, List.filter_cons, List.filter_cons, filter_texts later]
    · next empty =>
      rw [filter_texts h]
      cases v with
      | text s =>
        obtain rfl : s = "" := by simpa [Value.isTruthy] using empty
        rfl
      | _ => rfl

/-- Labels that are no single text are written as those among them that are texts. -/
theorem labelsText_eq_ok {q : Query} (several : q.labels.text? = none) {text : String}
    (h : labelsText q.labels = .ok text) : text = labelText q.labelTexts := by
  have filtered : ∀ texts : List String, labelText texts = labelText (texts.filter (· ≠ "")) := by
    simp [labelText, List.filter_filter]
  obtain ⟨labels, present, h⟩ := Result.bind_eq_ok h
  obtain ⟨texts, read, h⟩ := Result.bind_eq_ok h
  obtain rfl := Except.ok.inj h
  rw [filtered, filtered q.labelTexts]
  unfold Query.labelTexts
  unfold presentLabels at present
  split at present
  · next none =>
    obtain rfl := Except.ok.inj present
    obtain rfl := Except.ok.inj read
    rw [none]
    rfl
  · next s single =>
    rw [single] at several
    cases several
  · obtain ⟨members, found, present⟩ := Result.bind_eq_ok present
    obtain rfl := Except.ok.inj present
    have listed : q.labels.members? = some members := by
      unfold Value.members at found
      cases m : q.labels.members? <;> rw [m] at found <;> cases found
      rfl
    rw [filter_texts read, listed]
    rfl

section query

variable {q : Query} (several : q.labels.text? = none)

include several

theorem requiredText_mentions {text : String} (written : requiredText q [] = .ok (text, later)) :
    ∃ node, q.placeholder? = .ok node ∧
      text = joined " " (requiredMentions q (node.map (⟨·, q.labelTexts⟩))) ∧
      Mentioned ((node.map (⟨·, q.labelTexts⟩)).toList ++
        (patternsAmong false q.patterns).flatMap Pattern.nodes) later := by
  have none : Mentioned [] [] := ⟨fun _ => rfl, by simp [Compatible]⟩
  cases requiredText_eq_ok_iff.mp written with
  | bare target _ clauses =>
    obtain ⟨rfl, mentioned⟩ := clauses.mentions none
    exact ⟨_, target, rfl, mentioned⟩
  | @primary node _ _ _ target _ labelled clauses =>
    obtain rfl := labelsText_eq_ok several labelled
    have first : Mentioned [⟨node, q.labelTexts⟩] (put node q.labelTexts []) :=
      none.first (n := ⟨node, q.labelTexts⟩) rfl
    obtain ⟨rfl, mentioned⟩ := clauses.mentions first
    have primary : "MATCH " ++ mentionText [] ⟨node, q.labelTexts⟩ =
        "MATCH (" ++ node ++ labelText q.labelTexts ++ ")" := by
      simp [mentionText, firstNode?, ← String.toList_inj, String.toList_append]
    exact ⟨_, target, by rw [← primary]; rfl, mentioned⟩

/-- The stage of a query mentions every node with its labels where it comes first, and the labels of all
nodes are these, unless the first one has none. -/
theorem matchStage_labels {write : String → String} {conditions : Conditions} {stage : String}
    (h : matchStage write q conditions [] = .ok (stage, seen)) :
    ∃ node predicates : _, q.placeholder? = .ok node ∧ conditions.text = .ok predicates ∧
      let primary := node.map (NodePattern.mk · q.labelTexts)
      let required := joined " " (requiredMentions q primary)
      let optional := joined " " (optionalMentions write q primary)
      (stage = spaced [required, whereText write q predicates, optional] ∨
        stage = spaced [required, whereText write q "", optional, "WITH * WHERE " ++ predicates]) ∧
      Compatible (q.nodes primary) := by
  obtain ⟨⟨required, before⟩, first, h⟩ := Result.bind_eq_ok h
  obtain ⟨⟨optional, after⟩, second, h⟩ := Result.bind_eq_ok h
  obtain ⟨-, -, h⟩ := Result.bind_eq_ok h
  obtain ⟨reads, -, h⟩ := Result.bind_eq_ok h
  obtain ⟨predicates, conditioned, h⟩ := Result.bind_eq_ok h
  obtain ⟨node, target, rfl, mentioned⟩ := requiredText_mentions several first
  obtain ⟨-, clauses, found, rfl⟩ := optionalText_eq_ok_iff.mp second
  obtain ⟨rfl, mentioned⟩ := found.mentions mentioned
  refine ⟨node, predicates, target, conditioned, ?_, mentioned.compatible⟩
  split at h
  · exact Or.inr (Prod.mk.inj (Except.ok.inj h)).1.symm
  · exact Or.inl (Prod.mk.inj (Except.ok.inj h)).1.symm

end query

/-- Several patterns with a node in common, and an optional one among them. -/
theorem matchStage_labels_shared :
    let q := (LiveQuery.afterCalls [.target (.text "User"),
      .relation (.text "User") (.text "Post") (.text "post") (.text "WROTE") .null .null
        (.text "out") (.text "or"),
      .relation (.text "Post") (.text "Tag") (.text "tag") (.text "HAS") .null .null
        (.text "out") Call.andName]).query
    let stage := "MATCH (user:User) MATCH (post:Post)-[rel_has_tag:HAS]->(tag:Tag) " ++
      "OPTIONAL MATCH (user)-[rel_wrote_post:WROTE]->(post)"
    q.labels.text? = none ∧
    ∃ seen, matchStage parameter q (conditionsOf parameter q) [] = .ok (stage, seen) ∧
    ∃ node predicates : _, q.placeholder? = .ok node ∧
      (conditionsOf parameter q).text = .ok predicates ∧
      let primary := node.map (NodePattern.mk · q.labelTexts)
      let required := joined " " (requiredMentions q primary)
      let optional := joined " " (optionalMentions parameter q primary)
      (stage = spaced [required, whereText parameter q predicates, optional] ∨
        stage = spaced [required, whereText parameter q "", optional,
          "WITH * WHERE " ++ predicates]) ∧
      Compatible (q.nodes primary) := by
  intro q stage
  have h : matchStage parameter q (conditionsOf parameter q) [] =
      .ok (stage, [("user", ["User"]), ("post", ["Post"]), ("tag", ["Tag"])]) :=
    Result.of_toOption (by decide +kernel)
  exact ⟨rfl, _, h, matchStage_labels rfl h⟩

/-- A node that an open end introduces: the labels that a later pattern has for it are lost. -/
theorem matchStage_open_end :
    let q := (LiveQuery.afterCalls [.target (.text "User"),
      .anyRelation (.text "User") (.text "post") .null .null (.text "out") Call.andName (.text "LIKES"),
      .relation (.text "Post") (.text "Comment") (.text "comment") (.text "HAS") .null .null
        (.text "out") Call.andName]).query
    let stage := "MATCH (user:User) MATCH (user)-[rel_post:LIKES]->(post) " ++
      "MATCH (post)-[rel_has_comment:HAS]->(comment:Comment)"
    ((matchStage parameter q (conditionsOf parameter q) []).map (·.1)).toOption = some stage ∧
    (⟨"post", ["Post"]⟩ : NodePattern) ∈ q.nodes none ∧
    ¬ "Post".toList <:+: stage.toList := by
  decide +kernel

end Cypher

end GraphQuery
