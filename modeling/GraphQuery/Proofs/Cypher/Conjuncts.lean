import GraphQuery.Proofs.Cypher.PredicateTree
import GraphQuery.Proofs.Cypher.QuietSelect
import GraphQuery.Proofs.Execution.Identity

/-! # The constraints of patterns as conjuncts

The condition of a query begins with the constraints of the patterns that have to match, and the
predicates follow behind `AND`.  Two predicates or more stand in parentheses then; a single one stands
as it is.

* `Predicate.IsComposed` are the predicates with recognised operators, whose columns are single pieces
  and whose sub-queries are quiet;
* `Predicate.IsLoose` are those whose own operator joins looser than `AND`.

Every constraint is a conjunct of the condition exactly if nothing looser than `AND` stands outside,
and that is so unless the only predicate is loose (`wheresText_conjuncts`). -/

namespace GraphQuery

open GraphQuery.Text GraphQuery.Cypher

/-! ### Predicates -/

/-- Whether a text is the written form of an operator that is recognised. -/
def IsWritten (operator : String) : Prop :=
  ∃ o : String, isOperator (.text o) ∧ normalizeOperator (.text o) = .ok operator

/-- Whether the text of a column is a single piece: that of a node with a plain name, or of no node and
not spelled like a junction. -/
def ColumnRef.IsSingle (c : ColumnRef) : Prop :=
  (∀ owner ∈ c.owner?, IsPlainText owner) ∧ (c.owner? = none → IsPiece (quote c.name))

mutual
/-- Whether a predicate compares single columns by recognised operators, all its sub-queries are quiet,
and nothing is carried. -/
def Predicate.IsComposed : Predicate → Prop
  | .compared _ c operator _ => c.IsSingle ∧ IsWritten operator
  | .among _ c _ _ | .between _ c _ _ | .isNull _ c _ => c.IsSingle
  | .carried _ _ _ _ => False
  | .nested _ wheres => areComposed wheres
  | .comparedRow _ c operator s => c.IsSingle ∧ IsWritten operator ∧ s.IsQuiet
  | .amongRows _ c s _ => c.IsSingle ∧ s.IsQuiet
  | .present _ s _ => s.IsQuiet
  | .foreign _ => True
/-- The same of all predicates of a list. -/
def areComposed : List Predicate → Prop
  | [] => True
  | p :: rest => p.IsComposed ∧ areComposed rest
end

/-- Whether the operator of a predicate joins looser than `AND`. -/
def Predicate.IsLoose : Predicate → Prop
  | .compared _ _ operator _ | .comparedRow _ _ operator _ => operator = "OR" ∨ operator = "XOR"
  | _ => False

/-- Whether the parents of all patterns have plain names. -/
def Query.HasPlainParents (q : Query) : Prop :=
  ∀ p, Member.clause p ∈ q.patterns →
    IsPlainText p.parent.placeholder ∧ p.parent.placeholder ≠ ""

namespace Cypher

variable {a b test : String}

/-! ### Conjuncts of a conjunction -/

namespace Chain

/-- The texts of the pieces. -/
def texts : Chain → List String
  | last p => [piece p]
  | link p _ rest => piece p :: rest.texts

theorem hasConjunct_onto : ∀ (c : Chain) {t : Tree}, t.isConjunction →
    (∀ j ∈ c.junctions, j = .conjunction) →
      ((c.onto t .conjunction).HasConjunct test ↔
        t.HasConjunct test ∨ ∃ text ∈ c.texts, (Tree.leaf text).HasConjunct test)
  | last p, t, h, _ => by simp [onto, texts, Tree.hasConjunct_attach, h]
  | link p j rest, t, h, all => by
    obtain ⟨rfl, others⟩ := List.forall_mem_cons.mp all
    have next : (t.attach .conjunction (.leaf (piece p))).isConjunction := by simpa using h
    rw [onto, hasConjunct_onto rest next others, Tree.hasConjunct_attach]
    simp [texts, h, or_assoc]

/-- The conjuncts of a conjunction are those of its pieces. -/
theorem hasConjunct_tree {c : Chain} (all : ∀ j ∈ c.junctions, j = .conjunction) :
    c.tree.HasConjunct test ↔ ∃ text ∈ c.texts, (Tree.leaf text).HasConjunct test := by
  cases c with
  | last p => simp [tree, texts]
  | link p j rest =>
    obtain ⟨rfl, others⟩ := List.forall_mem_cons.mp all
    rw [tree, hasConjunct_onto rest (Tree.isConjunction_leaf _) others]
    simp [texts]

theorem texts_prepend_blank (d : Chain) : (d.prepend [.sign ' ']).texts = d.texts := by
  cases d <;> simp [prepend, texts]

theorem texts_glue (j : Junction) (c d : Chain) :
    (c.glue (.link [] j (d.prepend [.sign ' ']))).texts = c.texts ++ d.texts := by
  induction c with
  | last p =>
    have first (rs : List Run) (e : Chain) :
        ((link [] j e).prepend rs).texts = piece (rs ++ []) :: e.texts := rfl
    rw [glue, first, List.append_nil, piece_append_blank, texts_prepend_blank]
    rfl
  | link p k rest ih => simp [glue, texts, ih]

end Chain

theorem hasConjunct_joint (ha : IsConjunction a) (hb : IsConjunction b) :
    HasConjunct test (a ++ " " ++ Connective.all.keyword ++ " " ++ b) ↔
      HasConjunct test a ∨ HasConjunct test b := by
  obtain ⟨c, hc⟩ := isReadable_iff.mp ha.isReadable
  obtain ⟨d, hd⟩ := isReadable_iff.mp hb.isReadable
  have left := (isConjunction_iff hc).mp ha
  have right := (isConjunction_iff hd).mp hb
  have both := chain_joint hc hd .all
  have all : ∀ j ∈ (c.glue (.link [] (junctionOf .all) (d.prepend [.sign ' ']))).junctions,
      j = .conjunction := by
    simpa [Chain.junctions_glue, Chain.junctions, junctionOf, or_imp, forall_and] using
      ⟨left, right⟩
  have trees {text : String} {e : Chain} (h : chain .start (runs text.toList) = some e) :
      HasConjunct test text ↔ e.tree.HasConjunct test := by
    simp [HasConjunct, readCondition, h]
  rw [trees both, trees hc, trees hd, Chain.hasConjunct_tree all, Chain.hasConjunct_tree left,
    Chain.hasConjunct_tree right, Chain.texts_glue]
  simp [or_and_right, exists_or]

/-- A single piece is a conjunction, as it has to be if nothing loose stands in it. -/
theorem tight {loose : Prop} (h : IsPiece a) (apart : ¬ loose) :
    IsReadable a ∧ (IsConjunction a ↔ ¬ loose) :=
  ⟨h.isReadable, iff_of_true h.isConjunction apart⟩

/-- What is no conjunction has no conjuncts. -/
theorem HasConjunct.isConjunction (h : HasConjunct test a) : IsConjunction a := by
  obtain ⟨t, read, h⟩ := h
  refine ⟨t, read, ?_⟩
  cases t with
  | leaf text => rfl
  | node j l r => simpa using (Tree.hasConjunct_node.mp h).1

theorem joinConditions_all : ∀ texts : List String,
    joinConditions (texts.map (Connective.all, ·)) = joined " AND " texts
  | [] => rfl
  | [a] => by simp [joinConditions_singleton, joined]
  | a :: b :: rest => by
    have ih := joinConditions_all (b :: rest)
    rw [List.map_cons, List.map_cons, joinConditions_cons_cons, ← List.map_cons, ih]
    apply String.toList_injective
    simp [joined, Connective.keyword, String.toList_append]

theorem isReadable_joinConditions {entries : List (Connective × String)}
    (h : ∀ e ∈ entries, IsReadable e.2) : IsReadable (joinConditions entries) := by
  cases entries with
  | nil => exact IsPiece.isReadable (by decide)
  | cons first rest => exact (isConjunction_joinConditions h).1

/-- Texts that `AND` joins are a conjunction exactly if each of them is. -/
theorem isConjunction_joined {first : String} {rest : List String}
    (h : ∀ text ∈ first :: rest, IsReadable text) :
    IsConjunction (joined " AND " (first :: rest)) ↔ ∀ text ∈ first :: rest, IsConjunction text := by
  have readable : ∀ e ∈ (Connective.all, first) :: rest.map (Connective.all, ·), IsReadable e.2 := by
    simpa using h
  have all := (isConjunction_joinConditions readable).2
  rw [← joinConditions_all, List.map_cons, all]
  simp

theorem hasConjunct_joined : ∀ {first : String} {rest : List String},
    (∀ text ∈ first :: rest, IsConjunction text) →
      (HasConjunct test (joined " AND " (first :: rest)) ↔
        ∃ text ∈ first :: rest, HasConjunct test text)
  | first, [], _ => by simp [joined]
  | first, second :: rest, h => by
    obtain ⟨front, behind⟩ := List.forall_mem_cons.mp h
    have ih := hasConjunct_joined behind
    have whole := (isConjunction_joined fun text member => (behind text member).isReadable).mpr behind
    rw [← joinConditions_all] at ih whole ⊢
    rw [List.map_cons] at ih whole ⊢
    rw [List.map_cons, joinConditions_cons_cons, hasConjunct_joint front whole, ih]
    simp

/-! ### The texts of predicates -/

theorem columnText_isSingle {c : ColumnRef} (h : c.IsSingle) {text : String}
    (written : columnText c = .ok text) : IsPiece text := by
  cases owner : c.owner? with
  | none =>
    cases columnText_eq_ok_iff.mp written with
    | identity _ owned | property _ owned => cases owner.symm.trans owned
    | bare => exact h.2 owner
  | some node =>
    obtain ⟨text', same, piece, -⟩ := columnText_isPiece ⟨node, owner, h.1 node owner⟩
    obtain rfl := Except.ok.inj (written.symm.trans same)
    exact piece

theorem isWritten_cases {operator : String} (h : IsWritten operator) : IsPiece operator ∨
    ∃ j, (operator, j) ∈ junctionWords := by
  obtain ⟨o, known, written⟩ := h
  have shapes : ∀ s ∈ operators, ∀ w ∈ (normalizeOperator (.text s)).toOption,
      IsPiece w ∨ w ∈ junctionWords.map Prod.fst := by
    decide +kernel
  rw [normalizeOperator_lowercase known] at written
  refine (shapes (lowercase o) (by simpa [isOperator] using known) operator (by rw [written]; rfl)).imp
    id fun junction => ?_
  obtain ⟨⟨w, j⟩, member, rfl⟩ := List.mem_map.mp junction
  exact ⟨j, member⟩

/-- A test of two pieces is a conjunction unless its operator is looser than `AND`. -/
theorem isConjunction_compared {column operator value : String} (first : IsPiece column)
    (known : IsWritten operator) (second : IsPiece value) :
    IsReadable (column ++ " " ++ operator ++ " " ++ value) ∧
      (IsConjunction (column ++ " " ++ operator ++ " " ++ value) ↔
        ¬ (operator = "OR" ∨ operator = "XOR")) := by
  rcases isWritten_cases known with single | ⟨j, member⟩
  · have whole := (first.spaced single).spaced second
    have apart : ¬ (operator = "OR" ∨ operator = "XOR") := by
      rintro (rfl | rfl) <;> exact absurd single (by decide)
    exact ⟨whole.isReadable, iff_of_true whole.isConjunction apart⟩
  · have words : ∀ w ∈ junctionWords, runs w.1.toList = [.word w.1.toList] ∧
        Run.junction? (.word w.1.toList) = some w.2 ∧
        (w.2 = .conjunction ↔ ¬ (w.1 = "OR" ∨ w.1 = "XOR")) := by decide
    obtain ⟨single, found, loose⟩ := words _ member
    have both := chain_junction first second single found
    refine ⟨isReadable_iff.mpr ⟨_, both⟩, ?_⟩
    rw [isConjunction_iff both, ← loose]
    simp [Chain.glue, Chain.prepend, Chain.junctions]

theorem IsPiece.negate (h : IsPiece a) (negated : Bool) : IsPiece (negate negated a) := by
  unfold Cypher.negate
  split
  · exact IsPiece.spaced (a := "NOT") (by decide) h
  · exact h

/-- A sub-query between braces is one piece. -/
theorem isPiece_braced {keyword : String} (h : IsPiece keyword) {text : String}
    (inner : NamesOnly (fun _ => True) text) : IsPiece (braced keyword text) := by
  have blank : Silent " " := by decide
  have whole := h.spaced (isPiece_braces ((blank.front inner).close isSeam_blank).isReadable)
  have same : braced keyword text =
      keyword ++ " " ++ ("\x7b" ++ (" " ++ text ++ " ") ++ "\x7d") := by
    apply String.toList_injective
    simp [braced, String.toList_append]
  rwa [same]

theorem subQueryText_isPiece (keyword : String) (h : IsPiece keyword) {s : SubQuery}
    (quiet : s.IsQuiet) {text : String} (written : subQueryText parameter s = .ok text) :
    IsPiece (braced keyword text) :=
  isPiece_braced h (subQueryText_namesOnly quiet (fun _ _ => trivial) written)

mutual
/-- The text of a composed predicate can be read, and it is a conjunction unless the predicate is
loose. -/
theorem predicateText_isConjunction : ∀ {p : Predicate} {text : String}, p.IsComposed →
    predicateText parameter p = .ok text →
      IsReadable text ∧ (IsConjunction text ↔ ¬ p.IsLoose)
  | .compared _ c operator binding, _, composed, h => by
    obtain ⟨column, found, h⟩ := Result.bind_eq_ok h
    obtain rfl := Except.ok.inj h
    exact isConjunction_compared (columnText_isSingle composed.1 found) composed.2
      (isPiece_parameter binding)
  | .among _ c binding negated, _, composed, h => by
    obtain ⟨column, found, h⟩ := Result.bind_eq_ok h
    obtain rfl := Except.ok.inj h
    exact tight ((isPiece_in (columnText_isSingle composed found)
      (isPiece_parameter binding)).negate negated) not_false
  | .between _ c binding negated, _, composed, h => by
    obtain ⟨column, found, h⟩ := Result.bind_eq_ok h
    obtain rfl := Except.ok.inj h
    have range := isPiece_range (columnText_isSingle composed found) binding
    cases negated with
    | false => exact tight range not_false
    | true =>
      refine tight ?_ not_false
      rw [if_pos rfl, not_parentheses]
      exact IsPiece.spaced (a := "NOT") (by decide) (isPiece_parentheses range.isReadable)
  | .isNull _ c negated, _, composed, h => by
    obtain ⟨column, found, h⟩ := Result.bind_eq_ok h
    obtain rfl := Except.ok.inj h
    exact tight (isPiece_isNull (columnText_isSingle composed found) negated) not_false
  | .carried _ _ _ _, _, composed, _ => composed.elim
  | .nested _ wheres, _, composed, h => by
    obtain ⟨entries, found, h⟩ := Result.bind_eq_ok h
    obtain rfl := Except.ok.inj h
    refine tight ?_ not_false
    split
    · decide
    · exact isPiece_parentheses (isReadable_joinConditions (conditionTexts_isReadable composed found))
  | .comparedRow _ c operator s, _, composed, h => by
    obtain ⟨column, found, h⟩ := Result.bind_eq_ok h
    obtain ⟨inner, written, h⟩ := Result.bind_eq_ok h
    obtain rfl := Except.ok.inj h
    have rows := subQueryText_isPiece "COLLECT" (by decide) composed.2.2 written
    have row : IsPiece ("head" ++ "(" ++ braced "COLLECT" inner ++ ")") :=
      isPiece_call (by decide) (by decide) (by decide) rows.isReadable
    have shape : column ++ " " ++ operator ++ " head(" ++ braced "COLLECT" inner ++ ")" =
        column ++ " " ++ operator ++ " " ++ ("head" ++ "(" ++ braced "COLLECT" inner ++ ")") := by
      simp [← String.toList_inj, String.toList_append]
    rw [shape]
    exact isConjunction_compared (columnText_isSingle composed.1 found) composed.2.1 row
  | .amongRows _ c s negated, _, composed, h => by
    obtain ⟨column, found, h⟩ := Result.bind_eq_ok h
    obtain ⟨inner, written, h⟩ := Result.bind_eq_ok h
    obtain rfl := Except.ok.inj h
    have rows := subQueryText_isPiece "COLLECT" (by decide) composed.2 written
    exact tight ((isPiece_in (columnText_isSingle composed.1 found) rows).negate negated) not_false
  | .present _ s negated, _, composed, h => by
    obtain ⟨inner, written, h⟩ := Result.bind_eq_ok h
    obtain rfl := Except.ok.inj h
    exact tight ((subQueryText_isPiece _ (by decide) composed written).negate negated) not_false
  | .foreign _, _, _, h => by cases h
termination_by structural p => p
theorem conditionTexts_isReadable : ∀ {wheres : List Predicate}
    {entries : List (Connective × String)}, areComposed wheres →
      conditionTexts parameter wheres = .ok entries → ∀ e ∈ entries, IsReadable e.2
  | [], _, _, h => by
    cases h
    simp
  | _ :: _, _, composed, h => by
    refine forall_conditionTexts_cons h (fun text written _ => ?_) fun others found => ?_
    · exact (predicateText_isConjunction composed.1 written).1
    · exact conditionTexts_isReadable composed.2 found
termination_by structural wheres => wheres
end

/-- Several predicates stand in parentheses, and a single one has to be no loose one. -/
theorem isConjunction_predicates {wheres : List Predicate} {entries : List (Connective × String)}
    (composed : areComposed wheres) (h : conditionTexts parameter wheres = .ok entries) :
    1 < wheres.length ∨ IsConjunction (joinConditions entries) ↔
      ¬ ∃ p, wheres = [p] ∧ p.IsLoose := by
  match wheres with
  | [] =>
    obtain rfl := Except.ok.inj h
    exact iff_of_true (Or.inr (IsPiece.isConjunction (by decide))) (by simp)
  | [p] =>
    obtain ⟨text, written, h⟩ := Result.bind_eq_ok h
    obtain rfl := Except.ok.inj h
    have whole : joinConditions (prependCondition p.joint text []) = text := by
      unfold prependCondition
      split
      · next none => exact none.symm
      · exact joinConditions_singleton _
    rw [whole, (predicateText_isConjunction composed.1 written).2]
    simp
  | p :: p' :: rest => simp

/-! ### The condition of a query -/

theorem constraintText_isPiece {p : Pattern} (plain : IsPlainText p.parent.placeholder)
    (some : p.parent.placeholder ≠ "") : IsPiece (constraintText parameter p) := by
  unfold constraintText
  split
  · next binding property _ _ =>
    split
    · decide
    · have column : IsPiece (if property = "id" then "id(" ++ p.parent.placeholder ++ ")"
          else p.parent.placeholder ++ "." ++ quote property) := by
        split
        · exact isPiece_identity plain
        · exact isPiece_property plain some property
      have whole := (column.spaced (b := "=") (by decide)).spaced (isPiece_parameter binding)
      have same (text : String) : text ++ " = " ++ parameter binding =
          text ++ " " ++ "=" ++ " " ++ parameter binding := by
        apply String.toList_injective
        simp [String.toList_append]
      rwa [same]
  · decide

variable {q : Query}

theorem requiredConstraints_isPiece (plain : q.HasPlainParents) :
    ∀ text ∈ requiredConstraints parameter q, IsPiece text := by
  intro text member
  obtain ⟨⟨p, own, -, rfl⟩, -⟩ := mem_requiredConstraints.mp member
  exact constraintText_isPiece (plain p own).1 (plain p own).2

/-- Behind constraints, the condition of a query is a conjunction if the predicates are one or there are
several of them, and the constraints are conjuncts of it then. -/
theorem whereText_conjuncts (constrained : requiredConstraints parameter q ≠ [])
    (plain : q.HasPlainParents) {predicates : String} (readable : IsReadable predicates) :
    ∃ condition, whereText parameter q predicates = "WHERE " ++ condition ∧
      (IsConjunction condition ↔ 1 < q.wheres.length ∨ IsConjunction predicates) ∧
      (IsConjunction condition →
        ∀ text ∈ requiredConstraints parameter q, HasConjunct (trim text) condition) := by
  have pieces := requiredConstraints_isPiece plain
  unfold whereText
  generalize requiredConstraints parameter q = constraints at constrained pieces
  obtain ⟨first, rest, rfl⟩ := List.exists_cons_of_ne_nil constrained
  by_cases none : predicates = ""
  · have single : IsPiece "" := by decide
    have all : ∀ text ∈ first :: rest, IsConjunction text := fun text member =>
      (pieces text member).isConjunction
    refine ⟨joined " AND " (first :: rest), by simp [none], ?_, fun _ text member => ?_⟩
    · rw [isConjunction_joined fun text member => (all text member).isReadable, none]
      exact iff_of_true all (Or.inr single.isConjunction)
    · exact (hasConjunct_joined all).mpr
        ⟨text, member, _, (pieces text member).readCondition, .itself⟩
  · generalize last : (if 1 < q.wheres.length then "(" ++ predicates ++ ")" else predicates) = final
    have shape : IsReadable final ∧
        (IsConjunction final ↔ 1 < q.wheres.length ∨ IsConjunction predicates) := by
      rw [← last]
      split
      · next several =>
        have whole := isPiece_parentheses readable
        exact ⟨whole.isReadable, iff_of_true whole.isConjunction (Or.inl several)⟩
      · next few => exact ⟨readable, by simp [few]⟩
    have full : final ≠ "" := by
      rw [← last]
      split
      · simp [String.append_eq_empty_iff]
      · exact none
    have parts : ∀ text ∈ first :: (rest ++ [final]), text = final ∨ IsPiece text := by
      intro text member
      rw [← List.cons_append] at member
      rcases List.mem_append.mp member with member | member
      · exact Or.inr (pieces text member)
      · exact Or.inl (List.mem_singleton.mp member)
    have readable : ∀ text ∈ first :: (rest ++ [final]), IsReadable text := fun text member =>
      (parts text member).elim (· ▸ shape.1) (·.isReadable)
    have whole := isConjunction_joined readable
    refine ⟨joined " AND " (first :: (rest ++ [final])), by simp [none, last, full], ?_, ?_⟩
    · rw [whole, ← shape.2]
      constructor
      · intro all
        exact all final (by simp)
      · intro conjunction text member
        exact (parts text member).elim (· ▸ conjunction) (·.isConjunction)
    · intro conjunction text member
      refine (hasConjunct_joined (whole.mp conjunction)).mpr
        ⟨text, ?_, _, (pieces text member).readCondition, .itself⟩
      rw [← List.cons_append]
      exact List.mem_append_left _ member

/-- The constraints of patterns are conjuncts of the condition of a query, and the condition is a
conjunction, unless its only predicate is loose. -/
theorem wheresText_conjuncts {text : String} (constrained : requiredConstraints parameter q ≠ [])
    (plain : q.HasPlainParents) (composed : areComposed q.wheres)
    (h : wheresText q true = .ok text) : ∃ condition, text = "WHERE " ++ condition ∧
      (IsConjunction condition ↔ ¬ ∃ p, q.wheres = [p] ∧ p.IsLoose) ∧
      ((∀ c ∈ requiredConstraints parameter q, HasConjunct (trim c) condition) ↔
        IsConjunction condition) := by
  have steps : wheresText q true = (do
      q.walk .patterns
      q.walk .wheres
      return whereText parameter q (← predicatesText parameter q.wheres)) := rfl
  rw [steps] at h
  obtain ⟨-, -, h⟩ := Result.bind_eq_ok h
  obtain ⟨-, -, h⟩ := Result.bind_eq_ok h
  obtain ⟨predicates, written, h⟩ := Result.bind_eq_ok h
  obtain rfl := Except.ok.inj h
  obtain ⟨entries, found, written⟩ := Result.bind_eq_ok written
  obtain rfl := Except.ok.inj written
  obtain ⟨condition, same, conjunction, conjuncts⟩ := whereText_conjuncts constrained plain
    (isReadable_joinConditions (conditionTexts_isReadable composed found))
  refine ⟨condition, same, conjunction.trans ?_, fun all => ?_, conjuncts⟩
  · exact isConjunction_predicates composed found
  · obtain ⟨c, member⟩ := List.exists_mem_of_ne_nil _ constrained
    exact (all c member).isConjunction

/-- With two predicates, one of which is loose. -/
theorem wheresText_conjuncts_several :
    let q := (LiveQuery.afterCalls [.target (.text "User"),
      .relation (.text "User") (.text "Post") (.text "post") (.text "POSTED") (.text "id") (.int 10)
        (.text "out") Call.andName,
      .filter (.value (.text "age")) (some (.value (.text "or"))) (some (.value (.int 5)))
        Call.andName,
      .equals (.text "name") (.text "Ann")]).query
    let text := "WHERE id(user) = $iduser AND (user.age OR $age AND user.name = $name)"
    requiredConstraints parameter q ≠ [] ∧ q.HasPlainParents ∧ areComposed q.wheres ∧
      wheresText q true = .ok text ∧ ∃ condition, text = "WHERE " ++ condition ∧
        (IsConjunction condition ↔ ¬ ∃ p, q.wheres = [p] ∧ p.IsLoose) ∧
        ((∀ c ∈ requiredConstraints parameter q, HasConjunct (trim c) condition) ↔
          IsConjunction condition) := by
  intro q text
  have user : IsPlainText "user" := by decide +kernel
  have constrained : requiredConstraints parameter q ≠ [] := by decide +kernel
  have patterns : q.patterns = [.clause ⟨⟨"user", ["User"]⟩, .node ⟨"post", ["Post"]⟩ "POSTED",
    .outgoing, false, some "id", some "iduser"⟩] := rfl
  have plain : q.HasPlainParents := by
    intro p member
    rw [patterns] at member
    obtain rfl := Member.clause.inj (List.mem_singleton.mp member)
    exact ⟨user, by decide⟩
  have single (name : String) : ColumnRef.IsSingle ⟨name, some "user", false⟩ := by
    refine ⟨fun owner found => ?_, fun none => by simp [ColumnRef.owner?] at none⟩
    obtain rfl := Option.some.inj found
    exact user
  have wheres : q.wheres = [.compared .all ⟨"age", some "user", false⟩ "OR" "age",
    .compared .all ⟨"name", some "user", false⟩ "=" "name"] := rfl
  have composed : areComposed q.wheres := by
    rw [wheres]
    exact ⟨⟨single _, "or", by decide, Result.of_toOption (by decide +kernel)⟩,
      ⟨single _, "=", by decide, Result.of_toOption (by decide +kernel)⟩, trivial⟩
  have written : wheresText q true = .ok text := Result.of_toOption (by decide +kernel)
  exact ⟨constrained, plain, composed, written,
    wheresText_conjuncts constrained plain composed written⟩

/-- The constraint is no conjunct beside a single predicate that is loose: it does not have to hold. -/
theorem constraint_beside_or :
    let q := (LiveQuery.afterCalls [.target (.text "User"),
      .relation (.text "User") (.text "Post") (.text "post") (.text "POSTED") (.text "id") (.int 10)
        (.text "out") Call.andName,
      .filter (.value (.text "age")) (some (.value (.text "or"))) (some (.value (.int 5)))
        Call.andName]).query
    requiredConstraints parameter q = ["id(user) = $iduser"] ∧
      ∃ condition, wheresText q true = .ok ("WHERE " ++ condition) ∧ ¬ IsConjunction condition ∧
        ¬ HasConjunct "id(user) = $iduser" condition := by
  intro q
  have read : readCondition "id(user) = $iduser AND user.age OR $age" =
      some (.node .disjunction (.node .conjunction (.leaf "id(user) = $iduser") (.leaf "user.age"))
        (.leaf "$age")) := by
    decide +kernel
  have loose : ¬ IsConjunction "id(user) = $iduser AND user.age OR $age" := by
    rintro ⟨t, found, conjunction⟩
    obtain rfl := Option.some.inj (read.symm.trans found)
    exact absurd ((Tree.isConjunction_node ..).mp conjunction) (by decide)
  exact ⟨by decide +kernel, "id(user) = $iduser AND user.age OR $age",
    Result.of_toOption (by decide +kernel), loose, fun conjunct => loose conjunct.isConjunction⟩

end Cypher

end GraphQuery
