import GraphQuery.Proofs.Cypher.SinglePieces
import Mathlib.Data.List.DropRight
import Mathlib.Data.List.SplitBy

/-! # Conditions as formulas

A condition is a formula over tests: `NOT` binds tighter than `AND`, `AND` tighter than `OR`, and
parentheses group.  Quoted names and parameters belong to the test they stand in.

* `readFormula` reads a text as a formula;
* `Formula.tests` are its tests from left to right, and `Formula.truth` is its truth, given that of
  the tests.

Single pieces with connectives between them mean the disjunction of their maximal runs of conjunctions
(`truth_joinAll`). -/

namespace GraphQuery.Cypher

open GraphQuery.Text

/-! ### Formulas -/

/-- A condition with nothing left to be read in it but its tests. -/
inductive Formula where
  | test (text : String)
  | negation (f : Formula)
  | joined (j : Junction) (left right : Formula)
deriving DecidableEq, Repr

namespace Formula

/-- The tests from left to right. -/
def tests : Formula → List String
  | test text => [text]
  | negation f => f.tests
  | joined _ l r => l.tests ++ r.tests

/-- The truth of a formula, given that of its tests. What is unknown stays so when it is negated. -/
def truth (v : String → Option Bool) : Formula → Option Bool
  | test text => v text
  | negation f => (f.truth v).map (!·)
  | joined j l r => j.truth (l.truth v) (r.truth v)

end Formula

/-- A condition as a formula, given a way to read its pieces. -/
def Tree.formula (read : String → Option Formula) : Tree → Option Formula
  | leaf text => read text
  | node j l r => do return .joined j (← l.formula read) (← r.formula read)

/-- The condition that stands in the parentheses around a text. They have to belong together: what
stands between has to be closed. -/
def inParentheses? (text : String) : Option Tree :=
  match text.toList with
  | '(' :: rest =>
    if rest.getLast? = some ')' then readCondition (String.ofList rest.dropLast) else none
  | _ => none

/-- What stands behind a `NOT` in any case. Before a point it is a name. -/
def negated? (text : String) : Option String :=
  match runs text.toList with
  | .word w :: .sign c :: rest =>
    if String.ofList (w.map Char.toUpper) = "NOT" ∧ c ≠ '.' then
      some (piece (.sign c :: rest))
    else none
  | _ => none

/-- Reads a piece with so many parentheses and negations inside of each other at most. -/
def readPiece : (depth : Nat) → String → Option Formula
  | 0, _ => none
  | depth + 1, text =>
    match inParentheses? text, negated? text with
    | some inner, _ => inner.formula (readPiece depth)
    | none, some rest => (readPiece depth rest).map .negation
    | none, none => some (.test text)

/-- Reads a text as a formula. No more parentheses and negations can be inside of each other than the
text has characters. -/
def readFormula (text : String) : Option Formula :=
  (readCondition text).bind (Tree.formula (readPiece (text.length + 1)))

example : readFormula "a.x = $x OR NOT (a.y = 1 AND a.`b OR c` = $`d`)" =
    some (.joined .disjunction (.test "a.x = $x") (.negation (.joined .conjunction (.test "a.y = 1")
      (.test "a.`b OR c` = $`d`")))) := by
  decide +kernel

/-! ### The tests of a tree -/

namespace Tree

/-- The texts of the pieces from left to right. -/
def leaves : Tree → List String
  | leaf text => [text]
  | node _ l r => l.leaves ++ r.leaves

/-- A tree all of whose pieces can be read has a formula, with the tests of the pieces and with the
truth that they have. -/
theorem formula_of_leaves {read : String → Option Formula} {meaning : String → Formula} :
    ∀ {t : Tree}, (∀ text ∈ t.leaves, read text = some (meaning text)) →
      ∃ f, t.formula read = some f ∧ f.tests = t.leaves.flatMap (fun text => (meaning text).tests) ∧
        ∀ v, f.truth v = t.truth fun text => (meaning text).truth v
  | leaf text, h => ⟨meaning text, h text (List.mem_singleton_self _), by simp [leaves], fun _ => rfl⟩
  | node j l r, h => by
    simp only [leaves, List.mem_append] at h
    obtain ⟨f, hf, ftests, ftruth⟩ := formula_of_leaves fun text hl => h text (Or.inl hl)
    obtain ⟨g, hg, gtests, gtruth⟩ := formula_of_leaves fun text hr => h text (Or.inr hr)
    refine ⟨.joined j f g, by simp [formula, hf, hg], ?_, fun v => ?_⟩
    · simp [Formula.tests, leaves, ftests, gtests]
    · simp [Formula.truth, truth, ftruth, gtruth]

theorem leaves_attach (t new : Tree) (j : Junction) :
    (t.attach j new).leaves = t.leaves ++ new.leaves := by
  induction t with
  | leaf text => rfl
  | node k l r _ ih =>
    simp only [attach]
    split
    · simp [leaves, ih]
    · simp [leaves]

theorem truth_attach_conjunction (v : String → Option Bool) {t : Tree} (h : t.isConjunction)
    (new : Tree) : (t.attach .conjunction new).truth v =
      Junction.conjunction.truth (t.truth v) (new.truth v) := by
  cases t with
  | leaf text => rfl
  | node k l r =>
    obtain rfl := (isConjunction_node ..).mp h
    simp [attach, truth]

end Tree

/-! ### Alternatives -/

/-- Whether all of some conditions are true. -/
def allOf (values : List (Option Bool)) : Option Bool :=
  values.foldr Junction.conjunction.truth (some true)

/-- Whether one of some conditions is true. -/
def anyOf (values : List (Option Bool)) : Option Bool :=
  values.foldr Junction.disjunction.truth (some false)

/-- The truth of conditions that connectives join: one of the maximal runs that `AND` joins has to be
true as a whole. The connective of the first condition does not count. -/
def alternatives (entries : List (Connective × Option Bool)) : Option Bool :=
  anyOf ((entries.splitBy fun _ e => e.1 = .all).map fun run => allOf (run.map Prod.snd))

theorem Junction.truth_assoc (j : Junction) (a b c : Option Bool) :
    j.truth (j.truth a b) c = j.truth a (j.truth b c) := by
  cases j <;> rcases a with _ | _ | _ <;> rcases b with _ | _ | _ <;> rcases c with _ | _ | _ <;> rfl

theorem Junction.conjunction_true (a : Option Bool) :
    Junction.conjunction.truth a (some true) = a := by
  rcases a with _ | _ | _ <;> rfl

theorem Junction.disjunction_false (a : Option Bool) :
    Junction.disjunction.truth a (some false) = a := by
  rcases a with _ | _ | _ <;> rfl

/-- The first run goes up to the first `OR`. -/
theorem alternatives_cons (k : Connective) (x : Option Bool)
    (rest : List (Connective × Option Bool)) : alternatives ((k, x) :: rest) =
      Junction.disjunction.truth
        (allOf (x :: (rest.takeWhile (·.1 = .all)).map Prod.snd))
        (alternatives (rest.dropWhile (·.1 = .all))) := by
  have run : ((k, x) :: rest.takeWhile (·.1 = .all)).splitBy (fun _ e => e.1 = .all) =
      [(k, x) :: rest.takeWhile (·.1 = .all)] := by
    refine List.splitBy_of_isChain (by simp) ?_
    have all : ∀ e ∈ rest.takeWhile (·.1 = .all), e.1 = .all := fun e he => by
      simpa using List.mem_takeWhile_imp he
    generalize rest.takeWhile (·.1 = .all) = others at all
    generalize (k, x) = first
    induction others generalizing first with
    | nil => exact .singleton _
    | cons e others ih =>
      refine .cons_cons (by simpa using all e (List.mem_cons_self ..)) (ih ?_ _)
      exact fun d hd => all d (List.mem_cons_of_mem _ hd)
  have apart : ((k, x) :: rest).splitBy (fun _ e => e.1 = .all) =
      ((k, x) :: rest.takeWhile (·.1 = .all)).splitBy (fun _ e => e.1 = .all) ++
        (rest.dropWhile (·.1 = .all)).splitBy (fun _ e => e.1 = .all) := by
    rw [← List.splitBy_append, List.cons_append, List.takeWhile_append_dropWhile]
    intro _ _ e he
    have stops := List.head?_dropWhile_not (fun e : Connective × Option Bool => e.1 = .all) rest
    rw [Option.mem_def.mp he] at stops
    exact stops
  unfold alternatives
  rw [apart, run]
  rfl

theorem alternatives_singleton (k : Connective) (x : Option Bool) : alternatives [(k, x)] = x := by
  rw [alternatives_cons]
  simp [alternatives, allOf, anyOf, Junction.conjunction_true, Junction.disjunction_false]

/-- What `AND` joins belongs to the same run. -/
theorem alternatives_all (k : Connective) (x y : Option Bool)
    (rest : List (Connective × Option Bool)) : alternatives ((k, x) :: (.all, y) :: rest) =
      alternatives ((k, Junction.conjunction.truth x y) :: rest) := by
  rw [alternatives_cons, alternatives_cons k]
  simp [allOf, Junction.truth_assoc]

/-- An `OR` begins a new run. -/
theorem alternatives_any (k : Connective) (x y : Option Bool)
    (rest : List (Connective × Option Bool)) : alternatives ((k, x) :: (.any, y) :: rest) =
      Junction.disjunction.truth x (alternatives ((.any, y) :: rest)) := by
  rw [alternatives_cons k]
  simp [allOf, Junction.conjunction_true]

/-! ### Pieces that connectives join -/

/-- Joins pieces to what has been read, one after another. -/
def joinAll (t : Tree) (rest : List (Connective × String)) : Tree :=
  rest.foldl (fun t e => t.attach (junctionOf e.1) (.leaf (trim e.2))) t

theorem leaves_joinAll (t : Tree) (rest : List (Connective × String)) :
    (joinAll t rest).leaves = t.leaves ++ rest.map fun e => trim e.2 := by
  induction rest generalizing t with
  | nil => simp [joinAll]
  | cons e rest ih =>
    rw [joinAll, List.foldl_cons, ← joinAll, ih, Tree.leaves_attach]
    simp [Tree.leaves]

/-- The values of pieces with their connectives. -/
def pieceValues (v : String → Option Bool) (entries : List (Connective × String)) :
    List (Connective × Option Bool) :=
  entries.map fun e => (e.1, v (trim e.2))

/-- What is read on the right of an `OR` goes on with the next pieces, and what is read without one is
the first run of them. -/
theorem truth_joinAll_onto (v : String → Option Bool) (k : Connective) :
    ∀ (rest : List (Connective × String)) (t : Tree), t.isConjunction →
      (joinAll t rest).truth v = alternatives ((k, t.truth v) :: pieceValues v rest) ∧
      ∀ l : Tree, (joinAll (.node .disjunction l t) rest).truth v =
        Junction.disjunction.truth (l.truth v)
          (alternatives ((k, t.truth v) :: pieceValues v rest))
  | [], t, _ => by simp [joinAll, pieceValues, alternatives_singleton, Tree.truth]
  | (.all, b) :: rest, t, h => by
    have next : (t.attach .conjunction (.leaf (trim b))).isConjunction := by simpa using h
    obtain ⟨here, inside⟩ := truth_joinAll_onto v k rest _ next
    rw [Tree.truth_attach_conjunction v h] at here inside
    simp only [pieceValues, List.map_cons, alternatives_all]
    refine ⟨here, fun l => ?_⟩
    have same : (Tree.node .disjunction l t).attach .conjunction (.leaf (trim b)) =
        .node .disjunction l (t.attach .conjunction (.leaf (trim b))) := rfl
    rw [joinAll, List.foldl_cons, ← joinAll, junctionOf, same]
    exact inside l
  | (.any, b) :: rest, t, h => by
    obtain ⟨-, inside⟩ := truth_joinAll_onto v .any rest (.leaf (trim b)) rfl
    have same (u : Tree) : u.attach .disjunction (.leaf (trim b)) =
        .node .disjunction u (.leaf (trim b)) := by
      cases u <;> simp [Tree.attach, Junction.rank]
    simp only [pieceValues, List.map_cons, alternatives_any]
    refine ⟨?_, fun l => ?_⟩
    · rw [joinAll, List.foldl_cons, ← joinAll, junctionOf, same]
      exact inside t
    · rw [joinAll, List.foldl_cons, ← joinAll, junctionOf, same, ← Junction.truth_assoc]
      exact inside (.node .disjunction l t)

/-- Single pieces mean the disjunction of the maximal runs that `AND` joins. -/
theorem truth_joinAll (v : String → Option Bool) (k : Connective) (text : String)
    (rest : List (Connective × String)) :
    (joinAll (.leaf (trim text)) rest).truth v = alternatives (pieceValues v ((k, text) :: rest)) :=
  (truth_joinAll_onto v k rest _ rfl).1

theorem chain_joinConditions : ∀ {first : Connective × String} {rest : List (Connective × String)},
    (∀ e ∈ first :: rest, IsPiece e.2) →
      ∃ c, chain .start (runs (joinConditions (first :: rest)).toList) = some c ∧
        c.tree = joinAll (.leaf (trim first.2)) rest ∧
        ∀ (t : Tree) (j : Junction), (c.prepend [.sign ' ']).onto t j =
          joinAll (t.attach j (.leaf (trim first.2))) rest
  | (k, a), [], h => by
    have ha := h (k, a) (List.mem_cons_self ..)
    rw [joinConditions_singleton]
    exact ⟨_, ha, by simp [Chain.tree, joinAll], fun t j => by
      simp [Chain.prepend, Chain.onto, joinAll]⟩
  | (k, a), (l, b) :: rest, h => by
    have ha := h (k, a) (List.mem_cons_self ..)
    obtain ⟨d, hd, -, onto⟩ := @chain_joinConditions (l, b) rest
      fun e he => h e (List.mem_cons_of_mem _ he)
    have glued : (Chain.last (runs a.toList)).glue (.link [] (junctionOf l) (d.prepend [.sign ' '])) =
        .link (runs a.toList ++ [.sign ' ']) (junctionOf l) (d.prepend [.sign ' ']) := by
      simp [Chain.glue, Chain.prepend]
    have ends : piece ([.sign ' '] ++ (runs a.toList ++ [.sign ' '])) = trim a := by simp
    rw [joinConditions_cons_cons]
    refine ⟨_, chain_joint ha hd l, ?_, fun t j => ?_⟩
    · rw [glued, Chain.tree, onto, piece_append_blank, piece_runs]
      rfl
    · rw [glued, Chain.prepend, Chain.onto, onto, ends]
      rfl

/-- Joined pieces are read one after another. -/
theorem readCondition_joinConditions {first : Connective × String}
    {rest : List (Connective × String)} (h : ∀ e ∈ first :: rest, IsPiece e.2) :
    readCondition (joinConditions (first :: rest)) =
      some (joinAll (.leaf (trim first.2)) rest) := by
  obtain ⟨c, hc, tree, -⟩ := chain_joinConditions h
  rw [readCondition, hc, Option.map_some, tree]

end GraphQuery.Cypher
