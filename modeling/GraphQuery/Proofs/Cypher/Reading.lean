import GraphQuery.Proofs.Cypher.Pieces
import GraphQuery.Proofs.Outcome

/-! # Reading a condition

The pieces of a condition are joined by precedence: `AND` before `XOR`, and `XOR` before `OR`.

* `Tree.attach` puts one more piece where precedence wants it, and `readCondition` is the tree of a
  text;
* `IsConjunction` says that nothing looser than `AND` joins the pieces of a text, and `HasConjunct`
  that a test is one of those that have to hold for the whole to hold (`Tree.HasConjunct.truth`).

A test that is added behind `AND` is a conjunct exactly if what stands before it is a conjunction
(`hasConjunct_append`).  Conditions that are joined one after another are a conjunction exactly if
each of them is one and no connective but `AND` stands between them
(`isConjunction_joinConditions`). -/

namespace GraphQuery.Cypher

open GraphQuery.Text

/-! ### Trees -/

/-- The text of a piece. -/
def piece (rs : List Run) : String := trim (String.ofList (rs.flatMap Run.chars))

/-- A condition as it is understood: a single piece, or two conditions that are joined. -/
inductive Tree where
  | leaf (text : String)
  | node (j : Junction) (left right : Tree)
deriving DecidableEq, Repr

namespace Tree

/-- Joins one more condition to what has been read. It goes with the right part of a junction that
binds less tight. -/
def attach : Tree → (j : Junction) → (new : Tree) → Tree
  | leaf text, j, new => node j (leaf text) new
  | node k left right, j, new =>
    if k.rank < j.rank then node k left (right.attach j new) else node j (node k left right) new

/-- Whether nothing looser than `AND` joins the parts. -/
def isConjunction : Tree → Bool
  | leaf _ => true
  | node j _ _ => j = .conjunction

@[simp] theorem isConjunction_leaf (text : String) : (leaf text).isConjunction := rfl

@[simp] theorem isConjunction_node (j : Junction) (l r : Tree) :
    (node j l r).isConjunction ↔ j = .conjunction := by
  simp [isConjunction]

@[simp] theorem isConjunction_attach (t new : Tree) (j : Junction) :
    (t.attach j new).isConjunction ↔ t.isConjunction ∧ j = .conjunction := by
  cases t with
  | leaf text => simp [attach]
  | node k left right =>
    by_cases h : k.rank < j.rank
    · simp only [attach, h, if_true, isConjunction_node]
      cases k <;> cases j <;> simp_all [Junction.rank]
    · simp only [attach, h, if_false, isConjunction_node]
      cases k <;> cases j <;> simp_all [Junction.rank]

end Tree

namespace Chain

/-- Reads a chain behind what has been read and the junction that follows it. -/
def onto (t : Tree) (j : Junction) : Chain → Tree
  | last p => t.attach j (.leaf (piece p))
  | link p k rest => rest.onto (t.attach j (.leaf (piece p))) k

/-- The condition that a chain means. -/
def tree : Chain → Tree
  | last p => .leaf (piece p)
  | link p j rest => rest.onto (.leaf (piece p)) j

theorem isConjunction_onto (t : Tree) (j : Junction) (c : Chain) :
    (c.onto t j).isConjunction ↔
      t.isConjunction ∧ j = .conjunction ∧ ∀ k ∈ c.junctions, k = .conjunction := by
  induction c generalizing t j with
  | last p => simp [onto, junctions]
  | link p k rest ih =>
    rw [onto, ih, Tree.isConjunction_attach]
    simp [junctions, and_assoc]

/-- Precedence does not matter for whether all junctions are conjunctions. -/
theorem isConjunction_tree (c : Chain) :
    c.tree.isConjunction ↔ ∀ j ∈ c.junctions, j = .conjunction := by
  cases c with
  | last p => simp [tree, junctions]
  | link p j rest => simp [tree, isConjunction_onto, junctions]

end Chain

theorem dropWhile_append_blank {p : Char → Bool} {c : Char} (h : p c = true) (cs : List Char) :
    ((cs ++ [c]).reverse.dropWhile p).reverse = (cs.reverse.dropWhile p).reverse := by
  simp [h]

/-- A blank at the end of a piece does not count. -/
theorem trimWhere_append_blank {p : Char → Bool} {c : Char} (h : p c = true) (cs : List Char) :
    trimWhere p (cs ++ [c]) = trimWhere p cs := by
  unfold trimWhere
  rw [List.dropWhile_append]
  split
  · next none => simp [h, List.isEmpty_iff.mp none]
  · exact dropWhile_append_blank h _

theorem trimWhere_eq_self {p : Char → Bool} {c d : Char} (hc : p c = false) (hd : p d = false)
    (cs : List Char) : trimWhere p (c :: (cs ++ [d])) = c :: (cs ++ [d]) := by
  unfold trimWhere
  rw [List.dropWhile_cons_of_neg (by simp [hc])]
  have back : (c :: (cs ++ [d])).reverse = d :: (c :: cs).reverse := by simp
  rw [back, List.dropWhile_cons_of_neg (by simp [hd])]
  simp

theorem isBlank_blank : isBlank ' ' = true := by decide

@[simp] theorem piece_append_blank (rs : List Run) : piece (rs ++ [.sign ' ']) = piece rs := by
  unfold piece trim
  simp [Run.chars, trimWhere_append_blank isBlank_blank]

@[simp] theorem piece_blank_cons (rs : List Run) : piece (.sign ' ' :: rs) = piece rs := by
  unfold piece trim
  simp [Run.chars, trimWhere, isBlank_blank]

@[simp] theorem piece_runs (text : String) : piece (runs text.toList) = trim text := by
  unfold piece
  rw [chars_runs, String.ofList_toList]

namespace Chain

theorem onto_glue_last (t : Tree) (k j : Junction) (c : Chain) (p : List Run) :
    (c.glue (.link [] j (.last (.sign ' ' :: p)))).onto t k =
      (c.onto t k).attach j (.leaf (piece p)) := by
  induction c generalizing t k with
  | last q => simp [glue, prepend, onto]
  | link q i rest ih =>
    rw [glue, onto, ih]
    rfl

/-- A last piece is attached to what was read before. -/
theorem tree_glue_last (c : Chain) (j : Junction) (p : List Run) :
    (c.glue (.link [] j (.last (.sign ' ' :: p)))).tree = c.tree.attach j (.leaf (piece p)) := by
  cases c with
  | last q => simp [glue, prepend, tree, onto]
  | link q k rest => exact onto_glue_last ..

end Chain

/-- The condition that a text means, if nothing is left open in it. -/
def readCondition (text : String) : Option Tree := (chain .start (runs text.toList)).map Chain.tree

/-- Whether quotes, brackets and comments of a text are closed. -/
def IsReadable (text : String) : Prop := (readCondition text).isSome

/-- Whether a text is a conjunction: nothing looser than `AND` joins its pieces. -/
def IsConjunction (text : String) : Prop := ∃ t ∈ readCondition text, t.isConjunction

/-- The tests of a condition each of which has to hold for the whole to hold. Parentheses around a
part make no difference. -/
inductive Tree.HasConjunct (test : String) : Tree → Prop
  | itself : HasConjunct test (.leaf test)
  | inside {inner : String} {t : Tree} : readCondition inner = some t → t.HasConjunct test →
      HasConjunct test (.leaf ("(" ++ inner ++ ")"))
  | left {l r : Tree} : l.HasConjunct test → HasConjunct test (.node .conjunction l r)
  | right {l r : Tree} : r.HasConjunct test → HasConjunct test (.node .conjunction l r)

/-- Whether a test is among the conjuncts of a text. -/
def HasConjunct (test text : String) : Prop := ∃ t ∈ readCondition text, t.HasConjunct test

namespace Tree

variable {test : String}

@[simp] theorem hasConjunct_node {j : Junction} {l r : Tree} :
    (node j l r).HasConjunct test ↔
      j = .conjunction ∧ (l.HasConjunct test ∨ r.HasConjunct test) := by
  constructor
  · intro h
    cases h with
    | left h => exact ⟨rfl, Or.inl h⟩
    | right h => exact ⟨rfl, Or.inr h⟩
  · rintro ⟨rfl, h | h⟩
    · exact .left h
    · exact .right h

/-- What is added behind `AND` counts for the whole exactly if nothing looser stands before it. -/
theorem hasConjunct_attach (t new : Tree) :
    (t.attach .conjunction new).HasConjunct test ↔
      t.isConjunction ∧ (t.HasConjunct test ∨ new.HasConjunct test) := by
  cases t with
  | leaf text => simp [attach]
  | node k left right =>
    cases k with
    | conjunction => simp [attach, Junction.rank]
    | exclusion | disjunction => simp [attach, Junction.rank]

theorem hasConjunct_parentheses {text : String} : (leaf ("(" ++ text ++ ")")).HasConjunct test ↔
    test = "(" ++ text ++ ")" ∨ Cypher.HasConjunct test text := by
  constructor
  · intro h
    generalize e : "(" ++ text ++ ")" = whole at h
    cases h with
    | itself => exact Or.inl rfl
    | @inside inner t read h =>
      have same : text = inner := by
        have := congrArg String.toList e
        simp only [String.toList_append, List.append_cancel_left_eq,
          List.append_cancel_right_eq] at this
        exact String.toList_injective this
      exact Or.inr ⟨t, same ▸ read, h⟩
  · rintro (rfl | ⟨t, read, h⟩)
    · exact .itself
    · exact .inside read h

end Tree

/-! ### Truth -/

/-- The truth of two conditions that are joined; `none` is unknown. -/
def Junction.truth : Junction → Option Bool → Option Bool → Option Bool
  | conjunction, a, b =>
    if a = some false ∨ b = some false then some false
    else if a = none ∨ b = none then none else some true
  | disjunction, a, b =>
    if a = some true ∨ b = some true then some true
    else if a = none ∨ b = none then none else some false
  | exclusion, some a, some b => some (a != b)
  | exclusion, _, _ => none

/-- The truth of a condition, given that of its pieces. -/
def Tree.truth (v : String → Option Bool) : Tree → Option Bool
  | leaf text => v text
  | node j l r => j.truth (l.truth v) (r.truth v)

/-- Whether parentheses change nothing about the truth of pieces. -/
def RespectsParentheses (v : String → Option Bool) : Prop :=
  ∀ text t, readCondition text = some t → v ("(" ++ text ++ ")") = t.truth v

/-- A row that is kept passes every conjunct: the rows that a condition keeps are those for which it
is true. -/
theorem Tree.HasConjunct.truth {test : String} {t : Tree} (h : t.HasConjunct test)
    {v : String → Option Bool} (respects : RespectsParentheses v) (kept : t.truth v = some true) :
    v test = some true := by
  induction h with
  | itself => exact kept
  | inside read _ ih => exact ih ((respects _ _ read).symm.trans kept)
  | @left l r _ ih =>
    apply ih
    simp only [Tree.truth, Junction.truth] at kept
    rcases hl : l.truth v with _ | _ | _ <;> simp_all
  | @right l r _ ih =>
    apply ih
    simp only [Tree.truth, Junction.truth] at kept
    rcases hr : r.truth v with _ | _ | _ <;> simp_all

/-! ### Texts that are put together -/

variable {a b test : String}

theorem isReadable_iff : IsReadable a ↔ ∃ c, chain .start (runs a.toList) = some c := by
  unfold IsReadable readCondition
  cases chain .start (runs a.toList) <;> simp

theorem IsConjunction.isReadable (h : IsConjunction a) : IsReadable a := by
  obtain ⟨t, read, -⟩ := h
  simp [IsReadable, Option.mem_def.mp read]

/-- Whether a text is a conjunction can be told from its junctions alone. -/
theorem isConjunction_iff {c : Chain} (h : chain .start (runs a.toList) = some c) :
    IsConjunction a ↔ ∀ j ∈ c.junctions, j = .conjunction := by
  rw [← Chain.isConjunction_tree]
  simp [IsConjunction, readCondition, h]

theorem toList_parentheses (a : String) : ("(" ++ a ++ ")").toList = '(' :: (a.toList ++ [')']) := by
  simp [String.toList_append]

theorem trim_parentheses (a : String) : trim ("(" ++ a ++ ")") = "(" ++ a ++ ")" := by
  unfold trim
  rw [toList_parentheses, trimWhere_eq_self (by decide) (by decide), ← toList_parentheses,
    String.ofList_toList]

theorem readCondition_parentheses (h : IsReadable a) :
    readCondition ("(" ++ a ++ ")") = some (.leaf ("(" ++ a ++ ")")) := by
  obtain ⟨c, hc⟩ := isReadable_iff.mp h
  have cut : runs ("(" ++ a ++ ")").toList = .sign '(' :: (runs a.toList ++ [.sign ')']) := by
    have first : isWord '(' = false := by decide
    have last : isWord ')' = false := by decide
    rw [toList_parentheses]
    simp only [runs, first, runs_append_sign last]
    rfl
  have whole : chain .start (runs ("(" ++ a ++ ")").toList) =
      some (.last (runs ("(" ++ a ++ ")").toList)) := by
    rw [cut, chain_parentheses ⟨rfl, rfl⟩ hc]
    simp [chain, Stand.start, Stand.isAtRest]
  rw [readCondition, whole, Option.map_some, Chain.tree, piece_runs, trim_parentheses]

theorem Chain.eq_last_of_tree {c : Chain} {text : String} (h : c.tree = .leaf text) :
    ∃ p, c = .last p ∧ piece p = text := by
  cases c with
  | last p => exact ⟨p, rfl, by simpa [tree] using h⟩
  | link p j rest =>
    have never : ∀ (t : Tree) (j : Junction) (c : Chain), c.onto t j ≠ .leaf text := by
      intro t j c
      induction c generalizing t j with
      | last p =>
        cases t with
        | leaf _ => simp [onto, Tree.attach]
        | node k l r =>
          simp only [onto, Tree.attach]
          split <;> simp
      | link p k rest ih => exact ih _ _
    exact absurd h (never _ _ _)

theorem readCondition_append {t : Tree} {text : String} (ha : readCondition a = some t)
    (hb : readCondition b = some (.leaf text)) :
    readCondition (a ++ " AND " ++ b) = some (t.attach .conjunction (.leaf text)) := by
  obtain ⟨c, hc, rfl⟩ := Option.map_eq_some_iff.mp ha
  obtain ⟨d, hd, single⟩ := Option.map_eq_some_iff.mp hb
  obtain ⟨p, rfl, rfl⟩ := Chain.eq_last_of_tree single
  have texts : a ++ " AND " ++ b = a ++ " " ++ Connective.all.keyword ++ " " ++ b := by
    apply String.toList_injective
    simp [String.toList_append, Connective.keyword]
  rw [texts, readCondition, chain_joint hc hd, Option.map_some]
  exact congrArg some (Chain.tree_glue_last ..)

/-- A test behind `AND` is a conjunct of the whole exactly if a conjunction stands before it. -/
theorem hasConjunct_append {text : String} (ha : IsReadable a)
    (hb : readCondition b = some (.leaf text)) : HasConjunct test (a ++ " AND " ++ b) ↔
      IsConjunction a ∧ (HasConjunct test a ∨ HasConjunct test b) := by
  obtain ⟨t, read⟩ := Option.isSome_iff_exists.mp ha
  simp [HasConjunct, IsConjunction, readCondition_append read hb, read, hb,
    Tree.hasConjunct_attach]

/-- Parentheses around a text make no difference to its conjuncts, other than the text itself. -/
theorem hasConjunct_parentheses (h : IsReadable a) : HasConjunct test ("(" ++ a ++ ")") ↔
    test = "(" ++ a ++ ")" ∨ HasConjunct test a := by
  rw [HasConjunct, readCondition_parentheses h]
  simp [Tree.hasConjunct_parentheses]

theorem joinConditions_cons_cons (k l : Connective) (rest : List (Connective × String)) :
    joinConditions ((k, a) :: (l, b) :: rest) =
      a ++ " " ++ l.keyword ++ " " ++ joinConditions ((l, b) :: rest) := by
  apply String.toList_injective
  simp [joinConditions, joined, String.toList_append]

theorem joinConditions_singleton (k : Connective) : joinConditions [(k, a)] = a := by
  simp [joinConditions, joined]

theorem mem_prependCondition {joint : Connective} {text : String} {rest : List (Connective × String)}
    {e : Connective × String} :
    e ∈ prependCondition joint text rest ↔ (e = (joint, text) ∧ text ≠ "") ∨ e ∈ rest := by
  unfold prependCondition
  split
  · next none => simp [none]
  · next some => simp [some]

theorem forall_conditionTexts_cons {write : String → String} {good : String → Prop} {p : Predicate}
    {rest : List Predicate} {entries : List (Connective × String)}
    (h : conditionTexts write (p :: rest) = .ok entries)
    (first : ∀ text, predicateText write p = .ok text → text ≠ "" → good text)
    (later : ∀ others, conditionTexts write rest = .ok others → ∀ e ∈ others, good e.2) :
    ∀ e ∈ entries, good e.2 := by
  obtain ⟨text, written, h⟩ := Result.bind_eq_ok h
  obtain ⟨others, found, h⟩ := Result.bind_eq_ok h
  obtain rfl := Except.ok.inj h
  intro e he
  rcases mem_prependCondition.mp he with ⟨rfl, some⟩ | he
  · exact first text written some
  · exact later others found e he

theorem conditionTexts_ne_empty {write : String → String} : ∀ {wheres : List Predicate}
    {entries : List (Connective × String)}, conditionTexts write wheres = .ok entries →
      ∀ e ∈ entries, e.2 ≠ ""
  | [], entries, h, e, he => by
    obtain rfl := Except.ok.inj h
    cases he
  | _ :: _, _, h, e, he =>
    forall_conditionTexts_cons h (fun _ _ some => some) (fun _ => conditionTexts_ne_empty) e he

/-- Conditions that leave a trace leave one when they are joined. -/
theorem joinConditions_eq_empty {entries : List (Connective × String)}
    (h : ∀ e ∈ entries, e.2 ≠ "") : joinConditions entries = "" ↔ entries = [] := by
  match entries, h with
  | [], _ => simp [joinConditions]
  | [(j, a)], h => simpa [joinConditions_singleton] using h (j, a) (List.mem_cons_self ..)
  | (j, a) :: (l, b) :: rest, h =>
    rw [joinConditions_cons_cons]
    simp [String.append_eq_empty_iff]

/-- Conditions that are joined one after another can be read if each of them can, and the junctions
are those inside of them with the connectives between them. -/
theorem isConjunction_joinConditions : ∀ {first : Connective × String}
    {rest : List (Connective × String)}, (∀ e ∈ first :: rest, IsReadable e.2) →
      IsReadable (joinConditions (first :: rest)) ∧
      (IsConjunction (joinConditions (first :: rest)) ↔
        (∀ e ∈ first :: rest, IsConjunction e.2) ∧ ∀ e ∈ rest, e.1 = .all)
  | (k, a), [], h => by
    rw [joinConditions_singleton]
    simpa using h
  | (k, a), (l, b) :: rest, h => by
    obtain ⟨read, ih⟩ := @isConjunction_joinConditions (l, b) rest
      fun e he => h e (List.mem_cons_of_mem _ he)
    obtain ⟨c, hc⟩ := isReadable_iff.mp (h (k, a) (List.mem_cons_self ..))
    obtain ⟨d, hd⟩ := isReadable_iff.mp read
    have both := chain_joint hc hd l
    rw [joinConditions_cons_cons]
    refine ⟨isReadable_iff.mpr ⟨_, both⟩, ?_⟩
    have joint : junctionOf l = .conjunction ↔ l = .all := by cases l <;> simp [junctionOf]
    rw [isConjunction_iff hd] at ih
    rw [isConjunction_iff both, Chain.junctions_glue]
    simp only [Chain.junctions, Chain.junctions_prepend, List.mem_append, List.mem_cons, or_imp,
      forall_and, forall_eq, joint, ih, isConjunction_iff hc]
    constructor
    · rintro ⟨hfirst, hl, ⟨hb, hrest⟩, hjoints⟩
      exact ⟨⟨hfirst, hb, hrest⟩, hl, hjoints⟩
    · rintro ⟨⟨hfirst, hb, hrest⟩, hl, hjoints⟩
      exact ⟨hfirst, hl, ⟨hb, hrest⟩, hjoints⟩

example : readCondition "a = $a OR b = $b AND id(user) = $iduser" =
    some (.node .disjunction (.leaf "a = $a")
      (.node .conjunction (.leaf "b = $b") (.leaf "id(user) = $iduser"))) := by decide +kernel

end GraphQuery.Cypher
