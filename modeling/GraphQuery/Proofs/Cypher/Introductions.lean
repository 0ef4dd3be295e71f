import GraphQuery.Proofs.Cypher.WrittenPatterns

/-! # The nodes that a statement introduces

Patterns introduce nodes, and nothing that has been introduced is lost.

* `requiredText_introduces` tells what is known behind the primary node and the patterns that have to
  match (`Query.BindsFirst`);
* `optionalText_introduces` tells what the optional patterns add to it (`Query.BindsOptionally`). -/

namespace GraphQuery

open GraphQuery.Text

/-! ### The nodes of patterns -/

/-- Whether a node is at one of the ends of a pattern. -/
def Pattern.Binds (p : Pattern) (node : String) : Prop :=
  node = p.parent.placeholder ∨ node = p.far.placeholder

/-- The nodes that are there before the optional patterns of a query: those that were introduced
already, the primary one, and the ends of patterns that have to match. -/
inductive Query.BindsFirst (q : Query) (introduced : Cypher.Introduced) (node : String) : Prop
  | earlier : (lookup? node introduced).isSome → BindsFirst q introduced node
  | primary : q.placeholder? = .ok (some node) → BindsFirst q introduced node
  | required {p : Pattern} : .clause p ∈ q.patterns → ¬ p.isOptional → p.Binds node →
      BindsFirst q introduced node

/-- Whether a node is at one of the ends of an optional pattern of a query. -/
def Query.BindsOptionally (q : Query) (node : String) : Prop :=
  ∃ p, Member.clause p ∈ q.patterns ∧ p.isOptional ∧ p.Binds node

/-- Whether a query has a node: as the primary one, or at an end of a pattern. -/
def Query.HasNode (q : Query) (node : String) : Prop :=
  q.placeholder? = .ok (some node) ∨ ∃ p, Member.clause p ∈ q.patterns ∧ p.Binds node

/-- Whether only an optional pattern of a query introduces a node. -/
def Query.BindsLate (q : Query) (introduced : Cypher.Introduced) (node : String) : Prop :=
  q.BindsOptionally node ∧ ¬ q.BindsFirst introduced node

namespace Cypher

variable {seen later : Introduced} {node : String}

theorem isSome_lookup?_put {key : String} {labels : List String} :
    (lookup? node (put key labels seen)).isSome ↔ (lookup? node seen).isSome ∨ node = key := by
  rw [lookup?_put]
  by_cases h : node = key
  · simp [h]
  · simp [h, Ne.symm h]

/-! ### One pattern -/

theorem WritesNode.introduces {n : NodePattern} {text : String} (h : WritesNode n seen text later) :
    (lookup? node later).isSome ↔ (lookup? node seen).isSome ∨ node = n.placeholder := by
  cases h with
  | again found => exact ⟨Or.inl, fun known => known.elim id fun same => by simp [same, found]⟩
  | first => exact isSome_lookup?_put

theorem WritesFar.introduces {far : FarEnd} {relationship text : String}
    (h : WritesFar seen far relationship text later) :
    (lookup? node later).isSome ↔ (lookup? node seen).isSome ∨ node = far.placeholder := by
  cases h with
  | node written => exact written.introduces
  | anyNode => exact isSome_lookup?_put

theorem WritesPattern.introduces {p : Pattern} {text : String} (h : WritesPattern p seen text later) :
    (lookup? node later).isSome ↔ (lookup? node seen).isSome ∨ p.Binds node := by
  obtain ⟨-, first, second⟩ := h
  rw [second.introduces, first.introduces, or_assoc]
  rfl

/-! ### All patterns of a query -/

/-- Whether one of some patterns has a node at an end. -/
def BoundBy (which : Pattern → Prop) (patterns : List (Member Pattern)) (node : String) : Prop :=
  ∃ p, Member.clause p ∈ patterns ∧ which p ∧ p.Binds node

theorem boundBy_cons {which : Pattern → Prop} {p : Pattern} {rest : List (Member Pattern)} :
    BoundBy which (.clause p :: rest) node ↔ which p ∧ p.Binds node ∨ BoundBy which rest node := by
  constructor
  · rintro ⟨p', member, h⟩
    cases member with
    | head => exact Or.inl h
    | tail _ member => exact Or.inr ⟨p', member, h⟩
  · rintro (h | ⟨p', member, h⟩)
    · exact ⟨p, List.mem_cons_self .., h⟩
    · exact ⟨p', List.mem_cons_of_mem _ member, h⟩

theorem WritesClauses.introduces {isOptional : Bool} {keyword : String} {behind : Pattern → String}
    {patterns : List (Member Pattern)} {texts : List String}
    (h : WritesClauses isOptional keyword behind patterns seen texts later) :
    (lookup? node later).isSome ↔
      (lookup? node seen).isSome ∨ BoundBy (fun p => p.isOptional = isOptional) patterns node := by
  induction h with
  | nil => simp [BoundBy]
  | other skipped _ ih => simp [ih, boundBy_cons, skipped]
  | clause chosen first _ ih => simp [ih, boundBy_cons, first.introduces, chosen, or_assoc]

variable {q : Query} {introduced : Introduced} {text : String}

/-- What is known behind the primary node and the patterns that have to match. -/
theorem requiredText_introduces (h : requiredText q introduced = .ok (text, later)) :
    (lookup? node later).isSome ↔ q.BindsFirst introduced node := by
  have required : BoundBy (fun p => p.isOptional = false) q.patterns node → q.BindsFirst introduced node :=
    fun ⟨p, member, must, ends⟩ => .required member (Bool.eq_false_iff.mp must) ends
  cases requiredText_eq_ok_iff.mp h with
  | bare target _ clauses =>
    rw [clauses.introduces]
    refine ⟨fun known => known.elim .earlier required, fun known => ?_⟩
    cases known with
    | earlier known => exact Or.inl known
    | primary same => cases target.symm.trans same
    | required member must ends => exact Or.inr ⟨_, member, Bool.eq_false_iff.mpr must, ends⟩
  | primary target _ _ clauses =>
    rw [clauses.introduces, isSome_lookup?_put]
    constructor
    · rintro ((known | rfl) | known)
      · exact .earlier known
      · exact .primary target
      · exact required known
    · intro known
      cases known with
      | earlier known => exact Or.inl (Or.inl known)
      | primary same =>
        cases target.symm.trans same
        exact Or.inl (Or.inr rfl)
      | required member must ends => exact Or.inr ⟨_, member, Bool.eq_false_iff.mpr must, ends⟩

theorem optionalText_introduces {write : String → String}
    (h : optionalText write q seen = .ok (text, later)) :
    (lookup? node later).isSome ↔ (lookup? node seen).isSome ∨ q.BindsOptionally node := by
  obtain ⟨-, _, clauses, -⟩ := optionalText_eq_ok_iff.mp h
  exact clauses.introduces

/-- What is known behind all patterns are nodes of the query, or was known before. -/
theorem hasNode_of_introduced {write : String → String} {before : Introduced} {text' : String}
    (first : requiredText q introduced = .ok (text, before))
    (second : optionalText write q before = .ok (text', later))
    (known : (lookup? node later).isSome) : (lookup? node introduced).isSome ∨ q.HasNode node := by
  rcases (optionalText_introduces second).mp known with known | ⟨p, member, -, ends⟩
  · cases (requiredText_introduces first).mp known with
    | earlier known => exact Or.inl known
    | primary target => exact Or.inr (Or.inl target)
    | required member _ ends => exact Or.inr (Or.inr ⟨_, member, ends⟩)
  · exact Or.inr (Or.inr ⟨p, member, ends⟩)

end Cypher

/-! ### Known placeholders -/

theorem mem_addNew {texts : List String} {text node : String} :
    node ∈ addNew texts text ↔ node ∈ texts ∨ node = text := by
  unfold addNew
  split
  · next member => exact ⟨Or.inl, fun h => h.elim id fun same => same ▸ member⟩
  · simp

theorem Query.mem_knownPlaceholders {q : Query} {known : List String} {node : String}
    (h : q.knownPlaceholders = .ok known) (member : node ∈ known) : q.HasNode node := by
  obtain ⟨primary, target, h⟩ := Result.bind_eq_ok h
  obtain ⟨-, -, h⟩ := Result.bind_eq_ok h
  obtain ⟨patterns, clauses, h⟩ := Result.bind_eq_ok h
  cases h
  have all : ∀ p ∈ patterns, Member.clause p ∈ q.patterns := by
    refine Result.forall_of_mapM clauses fun m hm p e => ?_
    cases m with
    | clause c =>
      cases e
      exact hm
    | foreign v => cases e
  have ends : ∀ (ps : List Pattern) (start : List String), (∀ p ∈ ps, Member.clause p ∈ q.patterns) →
      (∀ n ∈ start, q.HasNode n) →
      ∀ n ∈ ps.foldl (fun known p => addNew (addNew known p.parent.placeholder) p.far.placeholder)
        start, q.HasNode n := by
    intro ps
    induction ps with
    | nil => exact fun _ _ h => h
    | cons p ps ih =>
      intro start inside h
      refine ih _ (fun p' hp => inside p' (List.mem_cons_of_mem _ hp)) fun n hn => ?_
      have here := inside p (List.mem_cons_self ..)
      rcases mem_addNew.mp hn with hn | rfl
      · rcases mem_addNew.mp hn with hn | rfl
        · exact h n hn
        · exact Or.inr ⟨p, here, Or.inl rfl⟩
      · exact Or.inr ⟨p, here, Or.inr rfl⟩
  refine ends patterns primary.toList all (fun n hn => Or.inl ?_) node member
  rw [target, Option.mem_toList.mp hn]

end GraphQuery
