import GraphQuery.Cypher.Pattern
import GraphQuery.Proofs.Outcome
import GraphQuery.Proofs.Value.Tables

/-! # How patterns are written

A reference to a column is written on its own.  The text of a pattern depends on the nodes that have been
introduced in front of it, and it may introduce more.  What is written is told here once, by relations
between the nodes in front of a part, its text and the nodes behind it, with one case for each way in which
the part can be written.

* `WritesColumn` : a reference to a column (`columnText_eq_ok_iff`);
* `WritesNode`, `WritesFar`, `WritesPattern` : a node, a far end with its relationship, a pattern.  They
  hold exactly where the part can be written (`nodeText_eq_ok_iff`, `farText_eq_ok_iff`,
  `patternText_eq_ok_iff`);
* `WritesClauses` : the patterns that have to match, or the optional ones, each as a clause
  (`requiredClauses_eq_ok_iff`, `optionalClauses_eq_ok_iff`).  What holds of each of these clauses is
  shown for both by `WritesClauses.forall_mem`;
* `WritesRequired` : the primary node in front of the patterns that have to match. -/

namespace GraphQuery.Cypher

open GraphQuery.Text

variable {seen later : Introduced} {text : String}

/-! ### Column references -/

/-- A column reference is written as the identity of its node, as a property of it, or without a node as a
bare name. -/
inductive WritesColumn (c : ColumnRef) : String → Prop
  | identity {owner : String} (named : c.identity = true) (owned : c.owner? = some owner) :
      WritesColumn c ("id(" ++ owner ++ ")")
  | property {owner : String} (named : c.identity = false) (owned : c.owner? = some owner) :
      WritesColumn c (owner ++ "." ++ quote c.name)
  | bare (named : c.identity = false) (free : c.owner? = none) : WritesColumn c (quote c.name)

theorem columnText_eq_ok_iff {c : ColumnRef} : columnText c = .ok text ↔ WritesColumn c text := by
  unfold columnText
  constructor
  · intro h
    split at h
    · cases h
    · next named owned =>
      cases h
      exact .identity named owned
    · next named owned =>
      cases h
      exact .property named owned
    · next named free =>
      cases h
      exact .bare named free
  · intro h
    cases h with
    | identity named owned | property named owned => rw [named, owned]
    | bare named free => rw [named, free]

/-! ### One pattern -/

/-- A node is written with its labels where it is introduced, and without any later on.  Its labels are
those that it was introduced with, then, or one of both has none. -/
inductive WritesNode (n : NodePattern) (seen : Introduced) : String → Introduced → Prop
  | again {known : List String} (found : lookup? n.placeholder seen = some known)
      (fits : n.labels ≠ [] → known = n.labels ∨ known = []) :
      WritesNode n seen ("(" ++ n.placeholder ++ ")") seen
  | first (new : lookup? n.placeholder seen = none) :
      WritesNode n seen ("(" ++ n.placeholder ++ labelText n.labels ++ ")")
        (put n.placeholder n.labels seen)

/-- A far end is a node, or one without labels that has to be new. -/
inductive WritesFar (seen : Introduced) : FarEnd → String → String → Introduced → Prop
  | node {n : NodePattern} {relationship text : String} {later : Introduced}
      (written : WritesNode n seen text later) :
      WritesFar seen (.node n relationship)
        (relationshipVariable relationship n.placeholder ++ ":" ++ quote relationship) text later
  | anyNode {placeholder : String} {relationship : Option String}
      (new : lookup? placeholder seen = none) :
      WritesFar seen (.anyNode placeholder relationship) ("rel_" ++ placeholder ++ typeText relationship)
        ("(" ++ placeholder ++ ")") (put placeholder [] seen)

/-- Both ends of a pattern are written one after the other, and they are two nodes. -/
inductive WritesPattern (p : Pattern) (seen : Introduced) : String → Introduced → Prop
  | ends {parent relationship far : String} {between later : Introduced}
      (apart : p.far.placeholder ≠ p.parent.placeholder)
      (first : WritesNode p.parent seen parent between)
      (second : WritesFar between p.far relationship far later) :
      WritesPattern p seen (relationText parent relationship far p.direction) later

theorem nodeText_eq_ok_iff {n : NodePattern} :
    nodeText n seen = .ok (text, later) ↔ WritesNode n seen text later := by
  unfold nodeText
  constructor
  · intro h
    split at h
    · next known found =>
      split at h
      · cases h
      · next fits =>
        cases h
        refine .again found fun labelled => ?_
        by_cases same : n.labels = known
        · exact Or.inl same.symm
        · exact Or.inr (by_contra fun other => fits ⟨labelled, other, same⟩)
    · next new =>
      cases h
      exact .first new
  · intro h
    cases h with
    | again found fits =>
      simp only [found]
      exact if_neg fun ⟨labelled, other, apart⟩ => (fits labelled).elim (fun same => apart same.symm) other
    | first new => simp only [new]

theorem farText_eq_ok_iff {far : FarEnd} {relationship : String} :
    farText far seen = .ok ((relationship, text), later) ↔
      WritesFar seen far relationship text later := by
  constructor
  · intro h
    cases far with
    | node n relationship =>
      obtain ⟨⟨text, _⟩, written, h⟩ := Result.bind_eq_ok h
      cases h
      exact .node (nodeText_eq_ok_iff.mp written)
    | anyNode placeholder relationship =>
      simp only [farText] at h
      split at h
      · cases h
      · next new =>
        cases h
        exact .anyNode (by simpa using new)
    | foreign kind placeholder => cases h
  · intro h
    cases h with
    | node written => simp only [farText, nodeText_eq_ok_iff.mpr written]; rfl
    | anyNode new => simp [farText, new]

theorem patternText_eq_ok_iff {p : Pattern} :
    patternText p seen = .ok (text, later) ↔ WritesPattern p seen text later := by
  constructor
  · intro h
    obtain ⟨-, -, h⟩ := Result.bind_eq_ok h
    split at h
    · cases h
    · next apart =>
      obtain ⟨⟨parent, between⟩, first, h⟩ := Result.bind_eq_ok h
      obtain ⟨⟨⟨relationship, far⟩, _⟩, second, h⟩ := Result.bind_eq_ok h
      cases h
      exact .ends apart (nodeText_eq_ok_iff.mp first) (farText_eq_ok_iff.mp second)
  · rintro ⟨apart, first, second⟩
    have known : FarEnd.check p.far = .ok () := by
      cases far : p.far with
      | foreign kind placeholder =>
        rw [far] at second
        cases second
      | _ => rfl
    unfold patternText
    rw [known, if_neg apart, nodeText_eq_ok_iff.mpr first]
    change (farText p.far _ >>= _) = _
    rw [farText_eq_ok_iff.mpr second]
    rfl

/-! ### All patterns of a query -/

/-- The condition behind an optional pattern. -/
def constraintClause (write : String → String) (p : Pattern) : String :=
  if constraintText write p = "" then "" else " WHERE " ++ constraintText write p

/-- Of the patterns of a query those that are optional, or those that are not, are written one after
another, each as a clause with a keyword and with what stands behind it. -/
inductive WritesClauses (isOptional : Bool) (keyword : String) (behind : Pattern → String) :
    List (Member Pattern) → Introduced → List String → Introduced → Prop
  | nil {seen : Introduced} : WritesClauses isOptional keyword behind [] seen [] seen
  | other {p : Pattern} {rest : List (Member Pattern)} {seen later : Introduced} {texts : List String}
      (skipped : p.isOptional ≠ isOptional)
      (others : WritesClauses isOptional keyword behind rest seen texts later) :
      WritesClauses isOptional keyword behind (.clause p :: rest) seen texts later
  | clause {p : Pattern} {rest : List (Member Pattern)} {seen between later : Introduced}
      {text : String} {texts : List String} (chosen : p.isOptional = isOptional)
      (first : WritesPattern p seen text between)
      (others : WritesClauses isOptional keyword behind rest between texts later) :
      WritesClauses isOptional keyword behind (.clause p :: rest) seen
        ((keyword ++ text ++ behind p) :: texts) later

theorem WritesClauses.forall_mem {isOptional : Bool} {keyword : String} {behind : Pattern → String}
    {patterns : List (Member Pattern)} {texts : List String} {holds : String → Prop}
    (h : WritesClauses isOptional keyword behind patterns seen texts later)
    (each : ∀ p, .clause p ∈ patterns → p.isOptional = isOptional → ∀ {seen text later},
      WritesPattern p seen text later → holds (keyword ++ text ++ behind p)) :
    ∀ t ∈ texts, holds t := by
  induction h with
  | nil => exact fun _ member => absurd member List.not_mem_nil
  | other _ _ ih => exact ih fun p member => each p (List.mem_cons_of_mem _ member)
  | clause chosen first _ ih =>
    exact List.forall_mem_cons.mpr ⟨each _ (List.mem_cons_self ..) chosen first,
      ih fun p member => each p (List.mem_cons_of_mem _ member)⟩

/-- The patterns that have to match. -/
abbrev WritesMatches := WritesClauses false "MATCH " fun _ => ""

/-- The patterns that may be missing. -/
abbrev WritesOptionals (write : String → String) :=
  WritesClauses true "OPTIONAL MATCH " (constraintClause write)

theorem requiredClauses_eq_ok_iff {patterns : List (Member Pattern)} {texts : List String} :
    requiredClauses patterns seen = .ok (texts, later) ↔ WritesMatches patterns seen texts later := by
  constructor
  · intro h
    induction patterns generalizing seen texts with
    | nil =>
      cases h
      exact .nil
    | cons m rest ih =>
      cases m with
      | foreign v => cases h
      | clause p =>
        unfold requiredClauses at h
        split at h
        · next optional => exact .other (by simp [optional]) (ih h)
        · next required =>
          obtain ⟨⟨text, between⟩, first, h⟩ := Result.bind_eq_ok h
          obtain ⟨⟨texts, _⟩, others, h⟩ := Result.bind_eq_ok h
          cases h
          rw [← String.append_empty (s := "MATCH " ++ text)]
          exact .clause (by simpa using required) (patternText_eq_ok_iff.mp first) (ih others)
  · intro h
    induction h with
    | nil => rfl
    | other skipped _ ih =>
      rw [requiredClauses, if_pos (by simpa using skipped)]
      exact ih
    | clause chosen first _ ih =>
      rw [requiredClauses, if_neg (by simp [chosen]), patternText_eq_ok_iff.mpr first, String.append_empty]
      exact congrArg (· >>= fun written => pure (_ :: written.1, written.2)) ih

theorem optionalClauses_eq_ok_iff {write : String → String} {patterns : List (Member Pattern)}
    {texts : List String} : optionalClauses write patterns seen = .ok (texts, later) ↔
      WritesOptionals write patterns seen texts later := by
  constructor
  · intro h
    induction patterns generalizing seen texts with
    | nil =>
      cases h
      exact .nil
    | cons m rest ih =>
      cases m with
      | foreign v => cases h
      | clause p =>
        unfold optionalClauses at h
        split at h
        · next optional =>
          obtain ⟨⟨text, between⟩, first, h⟩ := Result.bind_eq_ok h
          obtain ⟨⟨texts, _⟩, others, h⟩ := Result.bind_eq_ok h
          cases h
          exact .clause optional (patternText_eq_ok_iff.mp first) (ih others)
        · next required => exact .other required (ih h)
  · intro h
    induction h with
    | nil => rfl
    | other skipped _ ih =>
      rw [optionalClauses, if_neg skipped]
      exact ih
    | clause chosen first _ ih =>
      rw [optionalClauses, if_pos chosen, patternText_eq_ok_iff.mpr first]
      exact congrArg (· >>= fun written => pure (_ :: written.1, written.2)) ih

variable {q : Query}

/-- The constraints that stand behind a `WHERE` are those of patterns that have to match. -/
theorem mem_requiredConstraints {write : String → String} :
    text ∈ requiredConstraints write q ↔
      (∃ p, .clause p ∈ q.patterns ∧ p.isOptional = false ∧ constraintText write p = text) ∧ text ≠ "" := by
  unfold requiredConstraints
  simp only [List.mem_filter, List.mem_map, List.mem_filterMap, decide_eq_true_eq, Bool.not_eq_true']
  refine and_congr_left fun _ => exists_congr fun p => ?_
  constructor
  · rintro ⟨⟨⟨m, member, found⟩, required⟩, same⟩
    cases m with
    | clause c =>
      obtain rfl := Option.some.inj found
      exact ⟨member, required, same⟩
    | foreign v => cases found
  · exact fun ⟨member, required, same⟩ => ⟨⟨⟨_, member, rfl⟩, required⟩, same⟩

/-- The primary node stands in front of the patterns that have to match, if a query has one. -/
inductive WritesRequired (q : Query) (seen : Introduced) : String → Introduced → Prop
  | bare {texts : List String} {later : Introduced} (target : q.placeholder? = .ok none)
      (walked : q.walk .patterns = .ok ()) (clauses : WritesMatches q.patterns seen texts later) :
      WritesRequired q seen (joined " " texts) later
  | primary {node labels : String} {texts : List String} {later : Introduced}
      (target : q.placeholder? = .ok (some node)) (walked : q.walk .patterns = .ok ())
      (labelled : labelsText q.labels = .ok labels)
      (clauses : WritesMatches q.patterns (put node q.labelTexts seen) texts later) :
      WritesRequired q seen (joined " " (("MATCH (" ++ node ++ labels ++ ")") :: texts)) later

theorem requiredText_eq_ok_iff :
    requiredText q seen = .ok (text, later) ↔ WritesRequired q seen text later := by
  constructor
  · intro h
    obtain ⟨node, target, h⟩ := Result.bind_eq_ok h
    cases node with
    | none =>
      obtain ⟨_, walked, h⟩ := Result.bind_eq_ok h
      obtain ⟨⟨texts, _⟩, found, h⟩ := Result.bind_eq_ok h
      cases h
      exact .bare target walked (requiredClauses_eq_ok_iff.mp found)
    | some node =>
      obtain ⟨_, walked, h⟩ := Result.bind_eq_ok h
      obtain ⟨labels, labelled, h⟩ := Result.bind_eq_ok h
      obtain ⟨⟨texts, _⟩, found, h⟩ := Result.bind_eq_ok h
      cases h
      exact .primary target walked labelled (requiredClauses_eq_ok_iff.mp found)
  · intro h
    unfold requiredText
    cases h with
    | bare target walked clauses =>
      rw [target, walked]
      change (requiredClauses q.patterns seen >>= _) = _
      rw [requiredClauses_eq_ok_iff.mpr clauses]
      rfl
    | primary target walked labelled clauses =>
      rw [target, walked, labelled]
      change (requiredClauses q.patterns _ >>= _) = _
      rw [requiredClauses_eq_ok_iff.mpr clauses]
      rfl

theorem optionalText_eq_ok_iff {write : String → String} :
    optionalText write q seen = .ok (text, later) ↔ q.walk .patterns = .ok () ∧
      ∃ texts, WritesOptionals write q.patterns seen texts later ∧ text = joined " " texts := by
  constructor
  · intro h
    obtain ⟨_, walked, h⟩ := Result.bind_eq_ok h
    obtain ⟨⟨texts, _⟩, found, h⟩ := Result.bind_eq_ok h
    cases h
    exact ⟨walked, texts, optionalClauses_eq_ok_iff.mp found, rfl⟩
  · rintro ⟨walked, texts, clauses, rfl⟩
    unfold optionalText
    rw [walked]
    change (optionalClauses write q.patterns seen >>= _) = _
    rw [optionalClauses_eq_ok_iff.mpr clauses]
    rfl

end GraphQuery.Cypher
