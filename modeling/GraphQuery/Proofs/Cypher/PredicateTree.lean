import GraphQuery.Proofs.Cypher.Formula

/-! # Predicates and the formula of their text

Predicates form a tree: a list of them means the disjunction of its maximal runs of conjunctions, and a
group means its own list.

* `Predicate.IsTest` are the predicates that compare columns of nodes with plain names, and groups of
  them;
* `Predicate.tests` are the tests of such a predicate, and `Predicate.value` is its truth, given that
  of the tests.

The text of a list of them is a formula with the same tests from left to right and the same truth
(`readFormula_predicatesText`): nothing is lost, doubled or grouped anew. -/

namespace GraphQuery

open GraphQuery.Text GraphQuery.Cypher

/-! ### Trees of predicates -/

/-- Whether a column belongs to a node with a plain name. -/
def ColumnRef.HasPlainOwner (c : ColumnRef) : Prop :=
  ∃ owner, c.owner? = some owner ∧ IsPlainText owner

/-- Whether a text is the written form of an operator that compares, other than those that join
conditions or negate them. -/
def IsComparison (operator : String) : Prop :=
  ∃ o : String, isOperator (.text o) ∧ normalizeOperator (.text o) = .ok operator ∧
    operator ∉ ["AND", "OR", "XOR", "NOT"]

mutual
/-- Whether a predicate compares columns of nodes with plain names, or groups such predicates. -/
def Predicate.IsTest : Predicate → Prop
  | .compared _ c operator _ => c.HasPlainOwner ∧ IsComparison operator
  | .among _ c _ _ | .between _ c _ _ | .isNull _ c _ => c.HasPlainOwner
  | .nested _ wheres => wheres ≠ [] ∧ areTests wheres
  | .carried _ _ _ _ | .comparedRow _ _ _ _ | .amongRows _ _ _ _ | .present _ _ _ | .foreign _ => False
/-- The same of all predicates of a list. -/
def areTests : List Predicate → Prop
  | [] => True
  | p :: rest => p.IsTest ∧ areTests rest
end

namespace Predicate

/-- Whether a predicate negates its test. That a column is not null is a test of its own. -/
def isNegated : Predicate → Bool
  | .among _ _ _ negated | .between _ _ _ negated => negated
  | _ => false

/-- A predicate without its negation. -/
def affirmed : Predicate → Predicate
  | .among j c binding _ => .among j c binding false
  | .between j c binding _ => .between j c binding false
  | p => p

/-- The test of a predicate that is no group. -/
def testText (p : Predicate) : String := trim ((predicateText parameter p.affirmed).toOption.getD "")

end Predicate

mutual
/-- The tests of a predicate from left to right. -/
def Predicate.tests : Predicate → List String
  | .nested _ wheres => testsOf wheres
  | p => [p.testText]
/-- The tests of several predicates. -/
def testsOf : List Predicate → List String
  | [] => []
  | p :: rest => p.tests ++ testsOf rest
end

mutual
/-- The truth of a predicate, given that of its tests. -/
def Predicate.value (v : String → Option Bool) : Predicate → Option Bool
  | .nested _ wheres => alternatives (truthsOf v wheres)
  | p => if p.isNegated then (v p.testText).map (!·) else v p.testText
/-- The truth of several predicates, with the connective in front of each. -/
def truthsOf (v : String → Option Bool) : List Predicate → List (Connective × Option Bool)
  | [] => []
  | p :: rest => (p.joint, p.value v) :: truthsOf v rest
end

/-- Whether a predicate is no group. -/
def Predicate.IsLeaf (p : Predicate) : Prop :=
  p.tests = [p.testText] ∧
    ∀ v, p.value v = if p.isNegated then (v p.testText).map (!·) else v p.testText

namespace Cypher

/-! ### Blanks around a test -/

/-- Trimming takes nothing from a front that begins and ends without a blank. -/
theorem toList_trim {text : String} {front back : List Char} (h : text.toList = front ++ back)
    (some : front ≠ []) (first : ∀ c ∈ front.head?, isBlank c = false)
    (last : ∀ c ∈ front.getLast?, isBlank c = false) :
    (trim text).toList = front ++ back.rdropWhile isBlank := by
  have start : (front ++ back).dropWhile isBlank = front ++ back := by
    cases front with
    | nil => exact absurd rfl some
    | cons c front => simp [first c (by simp)]
  have stop : front.reverse.dropWhile isBlank = front.reverse := by
    cases reversed : front.reverse with
    | nil => rfl
    | cons c rest =>
      have blank := last c (by rw [← List.head?_reverse, reversed]; rfl)
      simp [blank]
  rw [trim, String.toList_ofList, trimWhere, h, start, List.reverse_append, List.dropWhile_append,
    List.rdropWhile]
  split
  · next none => simp [stop, List.isEmpty_iff.mp none]
  · simp

/-- How a test begins: with a name and a sign that ends it, so that it stands neither in parentheses
nor behind a `NOT`. -/
def OpensTest (text : String) : Prop :=
  ∃ (name : List Char) (sign : Char) (back : List Char), text.toList = name ++ sign :: back ∧
    (∀ c ∈ name, isNamePart c = true) ∧ isWord sign = false ∧ isBlank sign = false ∧
    (name = [] → sign ≠ '(') ∧ (sign ≠ '.' → String.ofList (name.map Char.toUpper) ≠ "NOT")

namespace OpensTest

variable {text : String}

theorem append (h : OpensTest text) (more : String) : OpensTest (text ++ more) := by
  obtain ⟨name, sign, back, chars, h⟩ := h
  exact ⟨name, sign, back ++ more.toList, by simp [String.toList_append, chars], h⟩

theorem toList_trim (h : OpensTest text) : ∃ front back, front ≠ [] ∧
    (∀ c ∈ front, isBlank c = false) ∧ text.toList = front ++ back ∧
    (trim text).toList = front ++ back.rdropWhile isBlank ∧ OpensTest (trim text) := by
  obtain ⟨name, sign, back, chars, part, single, blank, shape⟩ := h
  have whole : ∀ c ∈ name ++ [sign], isBlank c = false := by
    intro c hc
    rcases List.mem_append.mp hc with hc | hc
    · exact isBlank_of_isNamePart (part c hc)
    · rwa [List.mem_singleton.mp hc]
  have split : text.toList = (name ++ [sign]) ++ back := by simp [chars]
  have trimmed := Cypher.toList_trim split (by simp)
    (fun c hc => whole c (List.mem_of_mem_head? hc)) fun c hc => whole c (List.mem_of_mem_getLast? hc)
  exact ⟨name ++ [sign], back, by simp, whole, split, trimmed,
    name, sign, _, by simpa using trimmed, part, single, blank, shape⟩

theorem inParentheses?_eq_none (h : OpensTest text) : inParentheses? text = none := by
  obtain ⟨name, sign, back, chars, part, -, -, apart, -⟩ := h
  unfold inParentheses?
  cases name with
  | nil =>
    rw [chars]
    split
    · next rest same => exact absurd (List.cons.inj same).1 (apart rfl)
    · rfl
  | cons c name =>
    rw [chars]
    split
    · next rest same =>
      have paren := part c (List.mem_cons_self ..)
      rw [(List.cons.inj same).1] at paren
      exact absurd paren (by decide)
    · rfl

theorem negated?_eq_none (h : OpensTest text) : negated? text = none := by
  obtain ⟨name, sign, back, chars, part, single, -, -, apart⟩ := h
  unfold negated?
  rw [chars, runs_append_sign single]
  cases name with
  | nil => rfl
  | cons c name =>
    rw [runs_of_all_word (fun d hd => isWord_of_isNamePart (part d hd)) (by simp)]
    have never : ¬ (String.ofList ((c :: name).map Char.toUpper) = "NOT" ∧ sign ≠ '.') :=
      fun h => apart h.2 h.1
    simp only [List.singleton_append, if_neg never]

theorem readPiece (h : OpensTest text) (depth : Nat) :
    readPiece (depth + 1) (trim text) = some (.test (trim text)) := by
  obtain ⟨-, -, -, -, -, -, opens⟩ := h.toList_trim
  simp [Cypher.readPiece, opens.inParentheses?_eq_none, opens.negated?_eq_none]

theorem trim_trim (h : OpensTest text) : trim (trim text) = trim text := by
  obtain ⟨front, back, some, blank, -, chars, -⟩ := h.toList_trim
  apply String.toList_injective
  rw [Cypher.toList_trim chars some (fun c hc => blank c (List.mem_of_mem_head? hc))
    fun c hc => blank c (List.mem_of_mem_getLast? hc), chars, List.rdropWhile_idempotent]

theorem trim_not (h : OpensTest text) : trim ("NOT " ++ text) = "NOT " ++ trim text := by
  obtain ⟨front, back, some, blank, split, chars, -⟩ := h.toList_trim
  apply String.toList_injective
  have whole : ("NOT " ++ text).toList = ("NOT ".toList ++ front) ++ back := by
    simp [String.toList_append, split]
  rw [Cypher.toList_trim whole (by simp) (by simp; decide) ?_, String.toList_append, chars,
    List.append_assoc]
  intro c hc
  rw [List.getLast?_append_of_ne_nil _ some] at hc
  exact blank c (List.mem_of_mem_getLast? hc)

end OpensTest

theorem negated?_not (text : String) : negated? ("NOT " ++ text) = some (trim text) := by
  have blank : isWord ' ' = false := by decide
  have texts : ("NOT " ++ text).toList = ['N', 'O', 'T'] ++ ' ' :: text.toList := by
    simp [String.toList_append]
  unfold negated?
  rw [texts, runs_append_sign blank]
  have word : runs ['N', 'O', 'T'] = [.word ['N', 'O', 'T']] := by decide
  rw [word, List.singleton_append]
  simp only [piece_blank_cons, piece_runs]
  rfl

/-- A `NOT` is no parenthesis. -/
theorem inParentheses?_not (text : String) : inParentheses? ("NOT " ++ text) = none := by
  have texts : ("NOT " ++ text).toList = 'N' :: 'O' :: 'T' :: ' ' :: text.toList := by
    simp [String.toList_append]
  unfold inParentheses?
  rw [texts]
  rfl

theorem inParentheses?_parentheses (text : String) :
    inParentheses? ("(" ++ text ++ ")") = readCondition text := by
  unfold inParentheses?
  rw [toList_parentheses]
  simp

theorem readPiece_not (depth : Nat) (text : String) :
    readPiece (depth + 1) ("NOT " ++ text) = (readPiece depth (trim text)).map .negation := by
  simp [readPiece, inParentheses?_not, negated?_not]

theorem readPiece_parentheses (depth : Nat) {text : String} (h : IsReadable text) :
    readPiece (depth + 1) ("(" ++ text ++ ")") =
      (readCondition text).bind (Tree.formula (readPiece depth)) := by
  obtain ⟨t, read⟩ := Option.isSome_iff_exists.mp h
  simp [readPiece, inParentheses?_parentheses, read]

/-! ### The texts of tests -/

theorem columnText_isPiece {c : ColumnRef} (h : c.HasPlainOwner) :
    ∃ text, columnText c = .ok text ∧ IsPiece text ∧ OpensTest text := by
  obtain ⟨owner, found, plain⟩ := h
  have some : owner ≠ "" := by
    have := Option.filter_eq_some_iff.mp found
    simpa using this.2
  unfold columnText
  rw [found]
  cases c.identity with
  | true =>
    have id : IsPlainText "id" := by decide +kernel
    refine ⟨_, rfl, isPiece_identity plain, "id".toList, '(', owner.toList ++ [')'], ?_, id,
      by decide, by decide, by simp, fun _ => by decide⟩
    simp [String.toList_append]
  | false =>
    refine ⟨_, rfl, isPiece_property plain some c.name, owner.toList, '.', (quote c.name).toList, ?_,
      plain, by decide, by decide, fun none => absurd none (by simpa using some),
      fun other => absurd rfl other⟩
    simp [String.toList_append]

theorem opensTest_parameter (name : String) : OpensTest (parameter name) :=
  ⟨[], '$', (quote name).toList, by simp [parameter, String.toList_append], by simp, by decide,
    by decide, by decide, fun _ => by decide⟩

/-- What an operator is written like depends on its small letters alone. -/
theorem normalizeOperator_lowercase {o : String} (h : isOperator (.text o)) :
    normalizeOperator (.text o) = normalizeOperator (.text (lowercase o)) := by
  have small : ∀ s ∈ operators, lowercase s = s := by decide +kernel
  have known : lowercase o ∈ operators := by simpa [isOperator] using h
  unfold normalizeOperator
  simp only [small _ known]

theorem isPiece_comparison {operator : String} (h : IsComparison operator) : IsPiece operator := by
  obtain ⟨o, known, written, other⟩ := h
  have pieces : ∀ s ∈ operators, ∀ w ∈ (normalizeOperator (.text s)).toOption,
      w ∉ ["AND", "OR", "XOR", "NOT"] → IsPiece w := by
    decide +kernel
  rw [normalizeOperator_lowercase known] at written
  exact pieces (lowercase o) (by simpa [isOperator] using known) operator (by rw [written]; rfl) other

/-! ### Texts that mean predicates -/

/-- What it takes for a text to mean a predicate: it is one piece, and it is read as a formula with the
tests and the truth of the predicate. -/
structure Means (p : Predicate) (text : String) : Prop where
  full : text ≠ ""
  piece : IsPiece text
  reads : ∀ depth, text.length < depth → ∃ f, readPiece depth (trim text) = some f ∧
    f.tests = p.tests ∧ ∀ v, f.truth v = p.value v

section tests

variable {p : Predicate} {text : String}

theorem OpensTest.ne_empty (h : OpensTest text) : text ≠ "" := by
  rintro rfl
  obtain ⟨name, sign, back, chars, -⟩ := h
  cases name <;> cases chars

theorem not_parentheses (a : String) : "NOT (" ++ a ++ ")" = "NOT" ++ " " ++ ("(" ++ a ++ ")") := by
  apply String.toList_injective
  simp [String.toList_append]

theorem testText_eq (ht : predicateText parameter p.affirmed = .ok text) :
    p.testText = trim text := by
  rw [Predicate.testText, ht]
  rfl

theorem means_test (leaf : p.IsLeaf) (plain : p.isNegated = false)
    (ht : predicateText parameter p.affirmed = .ok text) (piece : IsPiece text)
    (opens : OpensTest text) : Means p text where
  full := opens.ne_empty
  piece := piece
  reads
  | 0, short => absurd short (Nat.not_lt_zero _)
  | depth + 1, _ => by
    refine ⟨_, opens.readPiece depth, ?_, fun v => ?_⟩
    · rw [leaf.1, testText_eq ht]
      rfl
    · rw [leaf.2, plain, testText_eq ht]
      rfl

/-- A test behind a `NOT` means its negation. -/
theorem means_not (leaf : p.IsLeaf) (negated : p.isNegated = true)
    (ht : predicateText parameter p.affirmed = .ok text) (piece : IsPiece text)
    (opens : OpensTest text) : Means p ("NOT " ++ text) where
  full := by simp [String.append_eq_empty_iff]
  piece := IsPiece.spaced (a := "NOT") (by decide) piece
  reads
  | 0, short => absurd short (Nat.not_lt_zero _)
  | 1, short => absurd short (by simp [String.length_append])
  | depth + 2, _ => by
    rw [opens.trim_not, readPiece_not, opens.trim_trim, opens.readPiece]
    refine ⟨_, rfl, ?_, fun v => ?_⟩
    · rw [leaf.1, testText_eq ht]
      rfl
    · rw [leaf.2, negated, testText_eq ht]
      rfl

theorem means_not_parentheses (leaf : p.IsLeaf) (negated : p.isNegated = true)
    (ht : predicateText parameter p.affirmed = .ok text) (piece : IsPiece text)
    (opens : OpensTest text) : Means p ("NOT (" ++ text ++ ")") where
  full := by simp [String.append_eq_empty_iff]
  piece := by
    have whole := IsPiece.spaced (a := "NOT") (by decide) (isPiece_parentheses piece.isReadable)
    rwa [not_parentheses]
  reads
  | 0, short => absurd short (Nat.not_lt_zero _)
  | 1, short | 2, short => by
    rw [String.length_append, String.length_append] at short
    have : "NOT (".length = 5 := rfl
    omega
  | depth + 3, _ => by
    have ends : trim ("NOT " ++ ("(" ++ text ++ ")")) = "NOT " ++ ("(" ++ text ++ ")") := by
      have chars : ("NOT " ++ ("(" ++ text ++ ")")).toList =
          'N' :: (['O', 'T', ' ', '('] ++ text.toList ++ [')']) := by
        simp [String.toList_append]
      unfold trim
      rw [chars, trimWhere_eq_self (by decide) (by decide), ← chars, String.ofList_toList]
    have same : "NOT (" ++ text ++ ")" = "NOT " ++ ("(" ++ text ++ ")") := not_parentheses text
    rw [same, ends, readPiece_not, trim_parentheses, readPiece_parentheses _ piece.isReadable,
      piece.readCondition, Option.bind_some, Tree.formula, opens.readPiece]
    refine ⟨_, rfl, ?_, fun v => ?_⟩
    · rw [leaf.1, testText_eq ht]
      rfl
    · rw [leaf.2, negated, testText_eq ht]
      rfl

end tests

/-- Every predicate of a kind that is no group has a text that means it. -/
theorem exists_means_compared {joint : Connective} {c : ColumnRef} {operator binding : String}
    (hc : c.HasPlainOwner) (ho : IsComparison operator) : ∃ text,
      predicateText parameter (.compared joint c operator binding) = .ok text ∧
      Means (.compared joint c operator binding) text := by
  obtain ⟨column, written, piece, opens⟩ := columnText_isPiece hc
  have text : predicateText parameter (.compared joint c operator binding) =
      .ok (column ++ " " ++ operator ++ " " ++ parameter binding) := by
    simp [predicateText, written]
  refine ⟨_, text, means_test ⟨rfl, fun _ => rfl⟩ rfl text ?_ ?_⟩
  · exact (piece.spaced (isPiece_comparison ho)).spaced (isPiece_parameter binding)
  · exact ((opens.append _).append _ |>.append _).append _

theorem isPiece_in {column values : String} (h : IsPiece column) (hvalues : IsPiece values) :
    IsPiece (column ++ " IN " ++ values) := by
  have parts := (h.spaced (b := "IN") (by decide)).spaced hvalues
  have same : column ++ " IN " ++ values = column ++ " " ++ "IN" ++ " " ++ values := by
    apply String.toList_injective
    simp [String.toList_append]
  rwa [same]

theorem exists_means_among {joint : Connective} {c : ColumnRef} {binding : String} {negated : Bool}
    (hc : c.HasPlainOwner) : ∃ text,
      predicateText parameter (.among joint c binding negated) = .ok text ∧
      Means (.among joint c binding negated) text := by
  obtain ⟨column, written, piece, opens⟩ := columnText_isPiece hc
  have test : predicateText parameter (.among joint c binding false) =
      .ok (column ++ " IN " ++ parameter binding) := by
    simp [predicateText, written, negate]
  have single := isPiece_in piece (isPiece_parameter binding)
  have front : OpensTest (column ++ " IN " ++ parameter binding) := (opens.append _).append _
  cases negated with
  | false => exact ⟨_, test, means_test ⟨rfl, fun _ => rfl⟩ rfl test single front⟩
  | true =>
    refine ⟨"NOT " ++ (column ++ " IN " ++ parameter binding), ?_,
      means_not ⟨rfl, fun _ => rfl⟩ rfl test single front⟩
    simp [predicateText, written, negate]

/-- A column between the two elements of a parameter is one piece. -/
theorem isPiece_range {column : String} (h : IsPiece column) (binding : String) :
    IsPiece (parameter binding ++ "[0] <= " ++ column ++ " <= " ++ parameter binding ++ "[1]") := by
  have lower := isPiece_element binding "0" (by decide)
  have upper := isPiece_element binding "1" (by decide)
  have relation : IsPiece "<=" := by decide
  have whole := (((lower.spaced relation).spaced h).spaced relation).spaced upper
  have same : parameter binding ++ "[0] <= " ++ column ++ " <= " ++ parameter binding ++ "[1]" =
      parameter binding ++ "[" ++ "0" ++ "]" ++ " " ++ "<=" ++ " " ++ column ++ " " ++ "<=" ++ " " ++
        (parameter binding ++ "[" ++ "1" ++ "]") := by
    apply String.toList_injective
    simp [String.toList_append]
  rw [same]
  exact whole

theorem exists_means_between {joint : Connective} {c : ColumnRef} {binding : String}
    {negated : Bool} (hc : c.HasPlainOwner) : ∃ text,
      predicateText parameter (.between joint c binding negated) = .ok text ∧
      Means (.between joint c binding negated) text := by
  obtain ⟨column, written, piece, -⟩ := columnText_isPiece hc
  have test : predicateText parameter (.between joint c binding false) =
      .ok (parameter binding ++ "[0] <= " ++ column ++ " <= " ++ parameter binding ++ "[1]") := by
    simp [predicateText, written]
  have single := isPiece_range piece binding
  have front : OpensTest
      (parameter binding ++ "[0] <= " ++ column ++ " <= " ++ parameter binding ++ "[1]") :=
    ((((opensTest_parameter binding).append _).append _).append _).append _ |>.append _
  cases negated with
  | false => exact ⟨_, test, means_test ⟨rfl, fun _ => rfl⟩ rfl test single front⟩
  | true =>
    refine ⟨_, ?_, means_not_parentheses ⟨rfl, fun _ => rfl⟩ rfl test single front⟩
    simp [predicateText, written]

theorem isPiece_isNull {column : String} (h : IsPiece column) (negated : Bool) :
    IsPiece (column ++ " IS " ++ (if negated then "NOT " else "") ++ "NULL") := by
  cases negated with
  | false =>
    have whole := h.spaced (b := "IS NULL") (by decide)
    have same : column ++ " IS " ++ "" ++ "NULL" = column ++ " " ++ "IS NULL" := by
      apply String.toList_injective
      simp [String.toList_append]
    rwa [if_neg (by simp), same]
  | true =>
    have whole := h.spaced (b := "IS NOT NULL") (by decide)
    have same : column ++ " IS " ++ "NOT " ++ "NULL" = column ++ " " ++ "IS NOT NULL" := by
      apply String.toList_injective
      simp [String.toList_append]
    rwa [if_pos rfl, same]

theorem exists_means_isNull {joint : Connective} {c : ColumnRef} {negated : Bool}
    (hc : c.HasPlainOwner) : ∃ text, predicateText parameter (.isNull joint c negated) = .ok text ∧
      Means (.isNull joint c negated) text := by
  obtain ⟨column, written, piece, opens⟩ := columnText_isPiece hc
  have text : predicateText parameter (.isNull joint c negated) =
      .ok (column ++ " IS " ++ (if negated then "NOT " else "") ++ "NULL") := by
    simp [predicateText, written]
  refine ⟨_, text, means_test ⟨rfl, fun _ => rfl⟩ rfl text ?_ ?_⟩
  · exact isPiece_isNull piece negated
  · exact ((opens.append _).append _).append _

/-! ### Lists and groups -/

/-- Texts with connectives that mean predicates, one each. -/
def MeanAll (wheres : List Predicate) (entries : List (Connective × String)) : Prop :=
  List.Forall₂ (fun p e => e.1 = p.joint ∧ Means p e.2) wheres entries

/-- What a piece means when it is read that deep. -/
def meaning (depth : Nat) (text : String) : Formula := (readPiece depth text).getD (.test text)

theorem Means.meaning {p : Predicate} {text : String} (h : Means p text) {depth : Nat}
    (short : text.length < depth) :
    readPiece depth (trim text) = some (meaning depth (trim text)) ∧
      (meaning depth (trim text)).tests = p.tests ∧
      ∀ v, (meaning depth (trim text)).truth v = p.value v := by
  obtain ⟨f, read, same⟩ := h.reads depth short
  have eq : Cypher.meaning depth (trim text) = f := by simp [Cypher.meaning, read]
  rw [eq]
  exact ⟨read, same⟩

theorem length_le_joinConditions : ∀ {entries : List (Connective × String)},
    ∀ e ∈ entries, e.2.length ≤ (joinConditions entries).length
  | [(k, a)], e, he => by
    rw [List.mem_singleton.mp he, joinConditions_singleton]
  | (k, a) :: (l, b) :: rest, e, he => by
    rw [joinConditions_cons_cons]
    simp only [String.length_append]
    rcases List.mem_cons.mp he with rfl | he
    · show a.length ≤ _
      omega
    · have := length_le_joinConditions e he
      omega

namespace MeanAll

variable {wheres : List Predicate} {entries : List (Connective × String)} {depth : Nat}

theorem of_mem (h : MeanAll wheres entries) {e : Connective × String} (he : e ∈ entries) :
    ∃ p, Means p e.2 := by
  induction h with
  | nil => cases he
  | cons first _ ih =>
    rcases List.mem_cons.mp he with rfl | he
    · exact ⟨_, first.2⟩
    · exact ih he

theorem tests (h : MeanAll wheres entries) (short : ∀ e ∈ entries, e.2.length < depth) :
    (entries.map fun e => trim e.2).flatMap (fun text => (meaning depth text).tests) =
      testsOf wheres := by
  induction h with
  | nil => rfl
  | cons first _ ih =>
    rw [List.map_cons, List.flatMap_cons, testsOf,
      (first.2.meaning (short _ (List.mem_cons_self ..))).2.1,
      ih fun e he => short e (List.mem_cons_of_mem _ he)]

theorem values (h : MeanAll wheres entries) (short : ∀ e ∈ entries, e.2.length < depth)
    (v : String → Option Bool) :
    pieceValues (fun text => (meaning depth text).truth v) entries = truthsOf v wheres := by
  induction h with
  | nil => rfl
  | cons first _ ih =>
    have rest := ih fun e he => short e (List.mem_cons_of_mem _ he)
    unfold pieceValues at rest ⊢
    simp only [List.map_cons, truthsOf, first.1,
      (first.2.meaning (short _ (List.mem_cons_self ..))).2.2 v, rest]

/-- Joined texts that mean predicates are a formula with the tests and the truth of the list. -/
theorem reads (h : MeanAll wheres entries) (some : wheres ≠ []) :
    IsReadable (joinConditions entries) ∧
    ∀ depth, (joinConditions entries).length < depth → ∃ f,
      (readCondition (joinConditions entries)).bind (Tree.formula (readPiece depth)) = Option.some f ∧
      f.tests = testsOf wheres ∧ ∀ v, f.truth v = alternatives (truthsOf v wheres) := by
  cases entries with
  | nil => cases h with | nil => exact absurd rfl some
  | cons first rest =>
    have pieces : ∀ e ∈ first :: rest, IsPiece e.2 := by
      intro e he
      obtain ⟨p, means⟩ := h.of_mem he
      exact means.piece
    have read := readCondition_joinConditions pieces
    refine ⟨by simp [IsReadable, read], fun depth short => ?_⟩
    have shorter : ∀ e ∈ first :: rest, e.2.length < depth := fun e he =>
      Nat.lt_of_le_of_lt (length_le_joinConditions e he) short
    have leaves : (joinAll (.leaf (trim first.2)) rest).leaves =
        (first :: rest).map fun e => trim e.2 := by
      rw [leaves_joinAll]
      rfl
    have readable : ∀ text ∈ (joinAll (.leaf (trim first.2)) rest).leaves,
        readPiece depth text = Option.some (meaning depth text) := by
      intro text member
      rw [leaves] at member
      obtain ⟨e, he, rfl⟩ := List.mem_map.mp member
      obtain ⟨p, means⟩ := h.of_mem he
      exact (means.meaning (shorter e he)).1
    obtain ⟨f, hf, tests, truth⟩ := Tree.formula_of_leaves readable
    rw [read, Option.bind_some]
    refine ⟨f, hf, ?_, fun v => ?_⟩
    · rw [tests, leaves, h.tests shorter]
    · rw [truth, truth_joinAll _ first.1, h.values shorter]

theorem full (h : MeanAll wheres entries) (some : wheres ≠ []) : joinConditions entries ≠ "" := by
  rw [Ne, joinConditions_eq_empty fun e he => (h.of_mem he).elim fun _ means => means.full]
  rintro rfl
  cases h
  exact some rfl

end MeanAll

theorem MeanAll.nested {joint : Connective} {wheres : List Predicate}
    {entries : List (Connective × String)} (h : MeanAll wheres entries) (some : wheres ≠ []) :
    Means (.nested joint wheres) ("(" ++ joinConditions entries ++ ")") where
  full := by simp [String.append_eq_empty_iff]
  piece := isPiece_parentheses (h.reads some).1
  reads
  | 0, short => absurd short (Nat.not_lt_zero _)
  | depth + 1, short => by
    rw [trim_parentheses, readPiece_parentheses _ (h.reads some).1]
    refine (h.reads some).2 depth ?_
    rw [String.length_append, String.length_append] at short
    have : "(".length = 1 := rfl
    omega

mutual
/-- Every predicate that compares columns of nodes with plain names has a text that means it. -/
theorem exists_means : ∀ {p : Predicate}, p.IsTest →
    ∃ text, predicateText parameter p = .ok text ∧ Means p text
  | .compared _ _ _ _, h => exists_means_compared h.1 h.2
  | .among _ _ _ _, h => exists_means_among h
  | .between _ _ _ _, h => exists_means_between h
  | .isNull _ _ _, h => exists_means_isNull h
  | .nested _ wheres, h => by
    obtain ⟨entries, texts, means⟩ := exists_meanAll h.2
    refine ⟨_, ?_, means.nested h.1⟩
    simp [predicateText, texts, means.full h.1]
  | .carried _ _ _ _, h | .comparedRow _ _ _ _, h | .amongRows _ _ _ _, h | .present _ _ _, h
  | .foreign _, h => h.elim
termination_by structural p => p
/-- So does every predicate of a list. -/
theorem exists_meanAll : ∀ {wheres : List Predicate}, areTests wheres →
    ∃ entries, conditionTexts parameter wheres = .ok entries ∧ MeanAll wheres entries
  | [], _ => ⟨[], rfl, .nil⟩
  | p :: rest, h => by
    obtain ⟨text, written, means⟩ := exists_means h.1
    obtain ⟨entries, texts, others⟩ := exists_meanAll h.2
    refine ⟨(p.joint, text) :: entries, ?_, .cons ⟨rfl, means⟩ others⟩
    rw [conditionTexts, written, texts]
    show Except.ok (prependCondition p.joint text entries) = _
    rw [prependCondition, if_neg means.full]
termination_by structural wheres => wheres
end

/-- The text of predicates is a formula with their tests from left to right, and true exactly if they
are. Without predicates there is no text. -/
theorem readFormula_predicatesText {wheres : List Predicate} (h : areTests wheres) :
    ∃ text, predicatesText parameter wheres = .ok text ∧ (wheres = [] → text = "") ∧
      (wheres ≠ [] → ∃ f, readFormula text = some f ∧ f.tests = testsOf wheres ∧
        ∀ v, f.truth v = alternatives (truthsOf v wheres)) := by
  obtain ⟨entries, texts, means⟩ := exists_meanAll h
  refine ⟨joinConditions entries, by simp [predicatesText, texts], ?_, fun some => ?_⟩
  · rintro rfl
    cases means
    rfl
  · exact (means.reads some).2 _ (Nat.lt_succ_self _)

/-- With a group between two other predicates, and a name that is spelled like a junction. -/
theorem readFormula_predicatesText_group :
    let title : ColumnRef := ⟨"a OR b", some "post", false⟩
    let wheres : List Predicate := [.compared .any ⟨"age", some "user", false⟩ ">=" "age",
      .nested .all [.among .all title "title" true, .isNull .any title false],
      .between .any ⟨"id", some "user", true⟩ "iduser" true]
    let text := "user.age >= $age AND (NOT post.`a OR b` IN $title OR post.`a OR b` IS NULL)" ++
      " OR NOT ($iduser[0] <= id(user) <= $iduser[1])"
    areTests wheres ∧ predicatesText parameter wheres = .ok text ∧
      ∃ f, readFormula text = some f ∧ f.tests = testsOf wheres ∧
        ∀ v, f.truth v = alternatives (truthsOf v wheres) := by
  intro title wheres text
  have compares : IsComparison ">=" :=
    ⟨">=", by decide, Result.of_toOption (by decide +kernel), by decide⟩
  have user : IsPlainText "user" := by decide +kernel
  have post : IsPlainText "post" := by decide +kernel
  have tests : areTests wheres :=
    ⟨⟨⟨_, rfl, user⟩, compares⟩, ⟨by simp, ⟨_, rfl, post⟩, ⟨_, rfl, post⟩, trivial⟩, ⟨_, rfl, user⟩, trivial⟩
  have written : predicatesText parameter wheres = .ok text := Result.of_toOption (by decide +kernel)
  obtain ⟨text', same, -, formula⟩ := readFormula_predicatesText tests
  obtain rfl := Except.ok.inj (written.symm.trans same)
  exact ⟨tests, written, formula (by simp [wheres])⟩

end Cypher

end GraphQuery
