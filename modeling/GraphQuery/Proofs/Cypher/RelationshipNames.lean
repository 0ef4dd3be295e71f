import GraphQuery.Proofs.Binding.FreshName
import GraphQuery.Proofs.Cypher.StageNodes

/-! # The variables of relationships

A pattern shows its relationship under a variable that is made of the type and the placeholder of the far
end, or of the placeholder alone where the far end may be any node (`FarEnd.linkVariable`).  Nothing keeps
these names apart, so patterns whose names run together have one relationship.

* `OpenEndsAreNew` : in a stage that compiles, a far end that may be any node is a node of its own;
* `matchStage_links` : the variables that a stage shows, which of them are the same, and that they meet a
  node only under a name that begins like the variable of a relationship. -/

namespace GraphQuery

open GraphQuery.Binding GraphQuery.Cypher GraphQuery.Text

/-! ### The variables of patterns -/

/-- A relationship type in the letters of a placeholder. -/
def typeSpelling (relationship : String) : String :=
  String.ofList ((lowercase relationship).toList.map placeholderChar)

namespace FarEnd

/-- What the relationship to a far end is called. -/
def linkName : FarEnd → String
  | .node pattern relationship => typeSpelling relationship ++ "_" ++ pattern.placeholder
  | .anyNode placeholder _ => placeholder
  | .foreign _ _ => ""

/-- The variable of the relationship to a far end. -/
def linkVariable (far : FarEnd) : String := "rel_" ++ far.linkName

/-- What stands behind the variable. -/
def linkType : FarEnd → String
  | .node _ relationship => ":" ++ quote relationship
  | .anyNode _ relationship => typeText relationship
  | .foreign _ _ => ""

/-- Whether two far ends call their relationships alike: a node with the same placeholder along a type
that is spelled the same, or names whose parts run into each other. -/
inductive Merges : FarEnd → FarEnd → Prop
  | alike {n n' : NodePattern} {relationship relationship' : String} :
      typeSpelling relationship = typeSpelling relationship' → n.placeholder = n'.placeholder →
      Merges (.node n relationship) (.node n' relationship')
  | forward {n n' : NodePattern} {relationship relationship' : String} :
      RunsInto (typeSpelling relationship) n.placeholder (typeSpelling relationship') n'.placeholder →
      Merges (.node n relationship) (.node n' relationship')
  | backward {n n' : NodePattern} {relationship relationship' : String} :
      RunsInto (typeSpelling relationship') n'.placeholder (typeSpelling relationship) n.placeholder →
      Merges (.node n relationship) (.node n' relationship')
  | openFirst {n : NodePattern} {relationship placeholder : String} {open? : Option String} :
      placeholder = typeSpelling relationship ++ "_" ++ n.placeholder →
      Merges (.anyNode placeholder open?) (.node n relationship)
  | openSecond {n : NodePattern} {relationship placeholder : String} {open? : Option String} :
      placeholder = typeSpelling relationship ++ "_" ++ n.placeholder →
      Merges (.node n relationship) (.anyNode placeholder open?)

/-- Whether a far end can be written behind nodes: one that may be any node has to be a new one. -/
def FitsBehind (known : List String) : FarEnd → Prop
  | .node _ _ => True
  | .anyNode placeholder _ => placeholder ∉ known
  | .foreign _ _ => False

theorem linkVariable_inj {far far' : FarEnd} :
    far.linkVariable = far'.linkVariable ↔ far.linkName = far'.linkName := by
  unfold linkVariable
  exact String.append_right_inj _

theorem linkVariable_ne_placeholder {far : FarEnd} {known : List String} (fits : far.FitsBehind known) :
    far.linkVariable ≠ far.placeholder := by
  intro same
  have lengths := congrArg String.length same
  have front : "rel_".length = 4 := rfl
  cases far with
  | node pattern relationship =>
    simp only [linkVariable, linkName, placeholder, String.length_append] at lengths
    omega
  | anyNode placeholder relationship =>
    simp only [linkVariable, linkName, FarEnd.placeholder, String.length_append] at lengths
    omega
  | foreign kind placeholder => exact fits

/-- Far ends that are written behind the same nodes call their relationships alike only if they merge,
unless both are the same open end. -/
theorem linkVariable_eq_iff {far far' : FarEnd} {known known' : List String}
    (fits : far.FitsBehind known) (fits' : far'.FitsBehind known') (later : far.placeholder ∈ known') :
    far.linkVariable = far'.linkVariable ↔ far.Merges far' := by
  rw [linkVariable_inj]
  cases far with
  | node n relationship =>
    cases far' with
    | node n' relationship' =>
      refine append_line_eq_iff.trans ⟨?_, fun merges => ?_⟩
      · rintro (⟨spelled, same⟩ | runs | runs)
        · exact .alike spelled same
        · exact .forward runs
        · exact .backward runs
      · cases merges with
        | alike spelled same => exact Or.inl ⟨spelled, same⟩
        | forward runs => exact Or.inr (Or.inl runs)
        | backward runs => exact Or.inr (Or.inr runs)
    | anyNode placeholder relationship' =>
      refine ⟨fun same => .openSecond same.symm, fun merges => ?_⟩
      cases merges with
      | openSecond same => exact same.symm
    | foreign kind placeholder => exact fits'.elim
  | anyNode placeholder relationship =>
    cases far' with
    | node n' relationship' =>
      refine ⟨.openFirst, fun merges => ?_⟩
      cases merges with
      | openFirst same => exact same
    | anyNode placeholder' relationship' =>
      refine ⟨fun same => ?_, fun merges => by cases merges⟩
      -- the second one would have to be new behind the first one
      obtain rfl : placeholder = placeholder' := same
      exact absurd later fits'
    | foreign kind placeholder' => exact fits'.elim
  | foreign kind placeholder => exact fits.elim

end FarEnd

/-! ### Far ends of a stage -/

/-- Whether patterns can be written behind nodes, one after another. -/
def OpenEndsAreNew : (known : List String) → List Pattern → Prop
  | _, [] => True
  | known, p :: rest => p.far.FitsBehind (addNew known p.parent.placeholder) ∧
    OpenEndsAreNew ((placeholders p.nodes).foldl addNew known) rest

theorem mem_foldl_addNew {name : String} : ∀ {names known : List String},
    name ∈ names.foldl addNew known ↔ name ∈ known ∨ name ∈ names
  | [], _ => by simp
  | n :: rest, known => by
    rw [List.foldl_cons, mem_foldl_addNew, mem_addNew, List.mem_cons, or_assoc]

theorem openEndsAreNew_append {second : List Pattern} : ∀ {first : List Pattern} {known : List String},
    OpenEndsAreNew known (first ++ second) ↔ OpenEndsAreNew known first ∧
      OpenEndsAreNew ((placeholders (first.flatMap Pattern.nodes)).foldl addNew known) second
  | [], known => by simp [OpenEndsAreNew, placeholders]
  | p :: rest, known => by
    have nodes : placeholders ((p :: rest).flatMap Pattern.nodes) =
        placeholders p.nodes ++ placeholders (rest.flatMap Pattern.nodes) := by simp [placeholders]
    rw [List.cons_append, OpenEndsAreNew, OpenEndsAreNew, openEndsAreNew_append, nodes,
      List.foldl_append, and_assoc]

theorem OpenEndsAreNew.fitsBehind : ∀ {ps : List Pattern} {known : List String},
    OpenEndsAreNew known ps → ∀ p ∈ ps, p.far.FitsBehind known
  | [], _, _, _, member => by cases member
  | first :: rest, known, h, p, member => by
    have less {far : FarEnd} {more : List String} (inside : ∀ name ∈ known, name ∈ more)
        (fits : far.FitsBehind more) : far.FitsBehind known := by
      cases far with
      | node n relationship => trivial
      | anyNode placeholder relationship => exact fun before => fits (inside _ before)
      | foreign kind placeholder => exact fits
    rcases List.mem_cons.mp member with rfl | later
    · exact less (fun _ before => mem_addNew.mpr (Or.inl before)) h.1
    · exact less (fun _ before => mem_foldl_addNew.mpr (Or.inl before)) (h.2.fitsBehind p later)

/-- The relationships of two patterns have one variable exactly if their far ends merge. -/
theorem OpenEndsAreNew.pairwise : ∀ {ps : List Pattern} {known : List String},
    OpenEndsAreNew known ps → ps.Pairwise fun p p' =>
      p.far.linkVariable = p'.far.linkVariable ↔ p.far.Merges p'.far
  | [], _, _ => List.Pairwise.nil
  | p :: rest, known, h => by
    refine List.Pairwise.cons (fun p' later => ?_) h.2.pairwise
    have there : p.far.placeholder ∈ (placeholders p.nodes).foldl addNew known :=
      mem_foldl_addNew.mpr (Or.inr (by simp [p.placeholders_nodes]))
    exact FarEnd.linkVariable_eq_iff h.1 (h.2.fitsBehind p' later) there

namespace Cypher

variable {seen later : Introduced}

theorem WritesFar.fitsBehind {far : FarEnd} {relationship text : String}
    (h : WritesFar seen far relationship text later) : far.FitsBehind (seen.map Prod.fst) := by
  cases h with
  | node => trivial
  | anyNode new =>
    intro before
    obtain ⟨entry, member, rfl⟩ := List.mem_map.mp before
    exact Option.isSome_iff_ne_none.mp (isSome_lookup?_of_mem member) new

theorem WritesPattern.fitsBehind {p : Pattern} {text : String} (h : WritesPattern p seen text later) :
    p.far.FitsBehind (addNew (seen.map Prod.fst) p.parent.placeholder) := by
  obtain ⟨-, first, second⟩ := h
  rw [← first.keys]
  exact second.fitsBehind

theorem WritesClauses.openEnds {isOptional : Bool} {keyword : String} {behind : Pattern → String}
    {patterns : List (Member Pattern)} {texts : List String}
    (h : WritesClauses isOptional keyword behind patterns seen texts later) :
    OpenEndsAreNew (seen.map Prod.fst) (patternsAmong isOptional patterns) := by
  induction h with
  | nil => trivial
  | other skipped _ ih =>
    rw [patternsAmong_cons, if_neg skipped]
    exact ih
  | clause chosen first _ ih =>
    rw [patternsAmong_cons, if_pos chosen]
    exact ⟨first.fitsBehind, first.keys ▸ ih⟩

end Cypher

/-! ### The relationships of a stage -/

/-- The patterns of a query in the order in which its stage writes them. -/
def Query.stagePatterns (q : Query) : List Pattern :=
  patternsAmong false q.patterns ++ patternsAmong true q.patterns

/-- How the relationships of patterns are named beside nodes. -/
structure NamesLinks (patterns : List Pattern) (nodes : List String) : Prop where
  /-- every pattern shows its relationship under its variable, wherever it is written -/
  shown : ∀ p ∈ patterns, ∀ earlier : List NodePattern, patternMention earlier p =
    relationText (mentionText earlier p.parent) (p.far.linkVariable ++ p.far.linkType)
      (mentionText (earlier ++ [p.parent]) p.far.toNode) p.direction
  apart : patterns.Pairwise fun p p' =>
    p.far.linkVariable = p'.far.linkVariable ↔ p.far.Merges p'.far
  /-- a node that is called like a relationship is another one than its far end -/
  beside : ∀ p ∈ patterns, ∀ node ∈ nodes, p.far.linkVariable = node →
    "rel_".toList <+: node.toList ∧ node ≠ p.far.placeholder

theorem OpenEndsAreNew.namesLinks {ps : List Pattern} {known nodes : List String}
    (h : OpenEndsAreNew known ps) : NamesLinks ps nodes where
  shown := by
    intro p member earlier
    have fits := h.fitsBehind p member
    have link : relationshipText p.far = p.far.linkVariable ++ p.far.linkType := by
      cases far : p.far with
      | node pattern relationship =>
        apply String.toList_injective
        simp [relationshipText, relationshipVariable, FarEnd.linkVariable, FarEnd.linkName,
          FarEnd.linkType, typeSpelling, String.toList_append]
      | anyNode placeholder relationship => rfl
      | foreign kind placeholder =>
        rw [far] at fits
        exact fits.elim
    rw [patternMention, link]
  apart := h.pairwise
  beside := by
    rintro p member node - rfl
    refine ⟨?_, FarEnd.linkVariable_ne_placeholder (h.fitsBehind p member)⟩
    rw [FarEnd.linkVariable, String.toList_append]
    exact List.prefix_append ..

namespace Cypher

variable {q : Query} {stage : String} {seen : Introduced}

/-- The far ends of a stage that compiles can be written behind each other. -/
theorem matchStage_openEnds {write : String → String} {conditions : Conditions} {node : Option String}
    (target : q.placeholder? = .ok node)
    (h : matchStage write q conditions [] = .ok (stage, seen)) :
    OpenEndsAreNew node.toList q.stagePatterns := by
  obtain ⟨⟨required, before⟩, first, h⟩ := Result.bind_eq_ok h
  obtain ⟨⟨optional, after⟩, second, -⟩ := Result.bind_eq_ok h
  obtain ⟨-, start, _, primary, matched⟩ := requiredText_start target first
  obtain ⟨-, _, listed, -⟩ := optionalText_eq_ok_iff.mp second
  refine openEndsAreNew_append.mpr ⟨primary ▸ matched.openEnds, ?_⟩
  rw [← primary, ← matched.keys]
  exact listed.openEnds

/-- A stage that compiles shows every relationship under the variable that its far end gives it.  Two of
them have one variable exactly if their far ends merge, and a node has it only if its own name begins in
the same way. -/
theorem matchStage_links
    (h : matchStage parameter q (conditionsOf parameter q) [] = .ok (stage, seen)) :
    ∃ primary early late, q.placeholder? = .ok (primary.map (·.placeholder)) ∧
      stage = spaced (clauseTexts [] (stageOf q primary early late)) ∧
      NamesLinks q.stagePatterns
        (introductions [] ((stageOf q primary early late).flatMap (·.nodes))) := by
  obtain ⟨node, labels, predicates, late, target, -, rfl⟩ := matchStage_clauses h
  refine ⟨node.map (⟨·, labels⟩), whereText parameter q predicates, late, ?_, rfl,
    (matchStage_openEnds target h).namesLinks⟩
  rw [target]
  cases node <;> rfl

/-- Two relationships to one node along types that are spelled differently, and one to an open end. -/
theorem matchStage_links_apart :
    let q := (LiveQuery.afterCalls [.target (.text "User"),
      .relation (.text "User") (.text "Post") (.text "post") (.text "WROTE") .null .null
        (.text "out") Call.andName,
      .relation (.text "User") (.text "Post") (.text "post") (.text "Has Read") .null .null
        (.text "in") (.text "or"),
      .anyRelation (.text "User") (.text "like") .null .null (.text "out") Call.andName .null]).query
    let stage := "MATCH (user:User) MATCH (user)-[rel_wrote_post:WROTE]->(post:Post) " ++
      "MATCH (user)-[rel_like]->(like) OPTIONAL MATCH (user)<-[rel_has_read_post:`Has Read`]-(post)"
    ∃ seen, matchStage parameter q (conditionsOf parameter q) [] = .ok (stage, seen) ∧
    ∃ primary early late, q.placeholder? = .ok (primary.map (·.placeholder)) ∧
      stage = spaced (clauseTexts [] (stageOf q primary early late)) ∧
      NamesLinks q.stagePatterns
        (introductions [] ((stageOf q primary early late).flatMap (·.nodes))) := by
  intro q stage
  have h : matchStage parameter q (conditionsOf parameter q) [] =
      .ok (stage, [("user", ["User"]), ("post", ["Post"]), ("like", [])]) :=
    Result.of_toOption (by decide +kernel)
  exact ⟨_, h, matchStage_links h⟩

/-- The same type between different nodes and one far end is one relationship.  Types and placeholders can
run into each other as well, and into the name of a node. -/
theorem matchStage_links_merged :
    let liked := (LiveQuery.afterCalls [.target (.text "User"),
      .relation (.text "User") (.text "Post") (.text "post") (.text "LIKED") .null .null
        (.text "out") Call.andName,
      .relation (.text "Admin") (.text "Post") (.text "post") (.text "LIKED") .null .null
        (.text "out") Call.andName]).query
    let spelled := (LiveQuery.afterCalls [.target (.text "Rel_in_of_x"),
      .relation (.text "Rel_in_of_x") (.text "Post") (.text "of_x") (.text "IN") .null .null
        (.text "out") Call.andName,
      .relation (.text "Rel_in_of_x") (.text "Tag") (.text "x") (.text "IN-OF") .null .null
        (.text "out") Call.andName]).query
    let stage (q : Query) := ((matchStage parameter q (conditionsOf parameter q) []).map (·.1)).toOption
    let links (q : Query) := q.stagePatterns.map (·.far.linkVariable)
    stage liked = some ("MATCH (user:User) MATCH (user)-[rel_liked_post:LIKED]->(post:Post) " ++
      "MATCH (admin:Admin)-[rel_liked_post:LIKED]->(post)") ∧
    ¬ (links liked).Nodup ∧
    stage spelled = some ("MATCH (rel_in_of_x:Rel_in_of_x) " ++
      "MATCH (rel_in_of_x)-[rel_in_of_x:IN]->(of_x:Post) " ++
      "MATCH (rel_in_of_x)-[rel_in_of_x:`IN-OF`]->(x:Tag)") ∧
    ¬ (links spelled).Nodup ∧ ∃ link ∈ links spelled, spelled.placeholder? = .ok (some link) := by
  intro liked spelled stage links
  have named : spelled.placeholder? = .ok (some "rel_in_of_x") := Result.of_toOption (by decide +kernel)
  exact ⟨by decide +kernel, by decide +kernel, by decide +kernel, by decide +kernel, "rel_in_of_x",
    by decide +kernel, named⟩

end Cypher

end GraphQuery
