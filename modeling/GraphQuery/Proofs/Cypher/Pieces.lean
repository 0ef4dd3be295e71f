import GraphQuery.Cypher.Select

/-! # The pieces of a condition

A condition is sent as a text, and the query language decides where its parts end.  What stands
between quotes, inside brackets or in a comment is not looked into; the words `AND`, `XOR` and `OR`
that are left over join the pieces between them.

* `runs` cuts a text into words and single signs, and `Stand.step` tells where a reader stands behind
  one of them;
* `chain` are the pieces of a text with the junctions between them, and `none` if a quotation, a
  bracket or a comment is left open.

Behind a blank the reading starts afresh wherever nothing is left open (`chain_append`), and what
stands in parentheses belongs to one piece (`chain_parentheses`). -/

namespace GraphQuery.Cypher

open GraphQuery.Text

/-! ### Words and signs -/

/-- A word, or a single sign between words. -/
inductive Run where
  | word (cs : List Char)
  | sign (c : Char)
deriving DecidableEq, Repr

/-- The characters of a run. -/
def Run.chars : Run → List Char
  | word cs => cs
  | sign c => [c]

/-- Puts a character of a word in front. -/
def lengthen (c : Char) : List Run → List Run
  | .word w :: rest => .word (c :: w) :: rest
  | rest => .word [c] :: rest

/-- The words and signs of a text. -/
def runs : List Char → List Run
  | [] => []
  | c :: cs => if isWord c then lengthen c (runs cs) else .sign c :: runs cs

@[simp] theorem runs_nil : runs [] = [] := rfl

theorem chars_lengthen (c : Char) (rs : List Run) :
    (lengthen c rs).flatMap Run.chars = c :: rs.flatMap Run.chars := by
  match rs with
  | [] | .sign _ :: _ | .word _ :: _ => simp [lengthen, Run.chars]

/-- Nothing of a text is lost. -/
theorem chars_runs (cs : List Char) : (runs cs).flatMap Run.chars = cs := by
  induction cs with
  | nil => rfl
  | cons c cs ih =>
    by_cases h : isWord c
    · simp only [runs, h, if_true, chars_lengthen, ih]
    · simp [runs, h, ih, Run.chars]

theorem lengthen_append {c d : Char} (rs ss : List Run) :
    lengthen c (rs ++ .sign d :: ss) = lengthen c rs ++ .sign d :: ss := by
  match rs with
  | [] | .sign _ :: _ | .word _ :: _ => rfl

theorem runs_append_sign {c : Char} (h : isWord c = false) (cs ds : List Char) :
    runs (cs ++ c :: ds) = runs cs ++ .sign c :: runs ds := by
  induction cs with
  | nil => simp [runs, h]
  | cons d cs ih =>
    by_cases hd : isWord d
    · simp only [List.cons_append, runs, hd, if_true, ih, lengthen_append]
    · simp [runs, hd, ih]

theorem runs_of_all_word {cs : List Char} (h : ∀ c ∈ cs, isWord c = true) (some : cs ≠ []) :
    runs cs = [.word cs] := by
  induction cs with
  | nil => exact absurd rfl some
  | cons c cs ih =>
    have hc := h c (List.mem_cons_self ..)
    cases cs with
    | nil => simp [runs, hc, lengthen]
    | cons d cs =>
      have hrest := ih (fun e he => h e (List.mem_cons_of_mem _ he)) (by simp)
      rw [runs, if_pos hc, hrest]
      rfl

/-! ### Where a reader stands -/

/-- What a reader is in the middle of. -/
inductive Place where
  | bare
  | quoted (mark : Char)
  | lineComment
  | blockComment
deriving DecidableEq, Repr

/-- Where a reader stands: what it is in the middle of, how many brackets are open, and the sign just
before. -/
structure Stand where
  place : Place
  depth : Nat
  lead : Char
deriving DecidableEq, Repr

/-- The signs that open and close a quotation. -/
def marks : List Char := ['\x22', '\x27', backquote]

/-- The signs that open a bracket. -/
def opening : List Char := ['(', '[', '\x7b']

/-- The signs that close a bracket. -/
def closing : List Char := [')', ']', '\x7d']

/-- The backslash, which takes the next sign of a quotation its meaning. -/
def backslash : Char := '\x5c'

namespace Stand

/-- At the beginning of a text. -/
def start : Stand := ⟨.bare, 0, ' '⟩

/-- One bracket deeper. -/
def deeper (s : Stand) : Stand := { s with depth := s.depth + 1 }

/-- Behind a sign outside of quotations and comments. -/
def stepBare (s : Stand) (c : Char) : Option Stand :=
  if c ∈ marks then some ⟨.quoted c, s.depth, ' '⟩
  else if s.lead = '/' ∧ c = '/' then some ⟨.lineComment, s.depth, ' '⟩
  else if s.lead = '/' ∧ c = '*' then some ⟨.blockComment, s.depth, ' '⟩
  else if c ∈ opening then some ⟨.bare, s.depth + 1, ' '⟩
  else if c ∈ closing then if s.depth = 0 then none else some ⟨.bare, s.depth - 1, ' '⟩
  else some ⟨.bare, s.depth, c⟩

/-- Behind a run. A bracket that was never opened cannot be closed. -/
def step (s : Stand) : Run → Option Stand
  | .word _ => some { s with lead := '_' }
  | .sign c =>
    match s.place with
    | .bare => s.stepBare c
    | .quoted mark =>
      if s.lead = backslash ∧ mark ≠ backquote then some { s with lead := ' ' }
      else if c = mark then some ⟨.bare, s.depth, ' '⟩
      else some { s with lead := c }
    | .lineComment => some (if c = '\n' then ⟨.bare, s.depth, ' '⟩ else s)
    | .blockComment =>
      some (if s.lead = '*' ∧ c = '/' then ⟨.bare, s.depth, ' '⟩ else { s with lead := c })

/-- Whether nothing is left open. -/
def isAtRest (s : Stand) : Prop := s.place = .bare ∧ s.depth = 0

instance (s : Stand) : Decidable s.isAtRest := inferInstanceAs (Decidable (_ ∧ _))

end Stand

/-! ### Junctions -/

/-- How pieces of a condition are joined. -/
inductive Junction where
  | conjunction
  | exclusion
  | disjunction
deriving DecidableEq, Repr

/-- The words that join pieces. -/
def junctionWords : List (String × Junction) :=
  [("AND", .conjunction), ("XOR", .exclusion), ("OR", .disjunction)]

/-- How tight a junction binds. -/
def Junction.rank : Junction → Nat
  | conjunction => 2
  | exclusion => 1
  | disjunction => 0

/-- The junction that a word stands for, in any case. -/
def Run.junction? : Run → Option Junction
  | .word w => lookup? (String.ofList (w.map Char.toUpper)) junctionWords
  | .sign _ => none

/-- The junction that a run is at its place. Behind a point, a colon or a dollar sign stands a name,
and so it does before a point. -/
def Stand.junction? (s : Stand) (r : Run) (next : Option Run) : Option Junction :=
  if s.isAtRest ∧ s.lead ∉ ['.', ':', '$'] ∧ next ≠ some (.sign '.') then r.junction? else none

/-! ### Pieces -/

/-- The pieces of a text with the junctions between them. -/
inductive Chain where
  | last (piece : List Run)
  | link (piece : List Run) (j : Junction) (rest : Chain)
deriving DecidableEq, Repr

namespace Chain

/-- Puts runs in front of the first piece. -/
def prepend (rs : List Run) : Chain → Chain
  | last p => last (rs ++ p)
  | link p j rest => link (rs ++ p) j rest

/-- Puts a run in front that is a junction or belongs to the first piece. -/
def add (r : Run) : Option Junction → Chain → Chain
  | some j, c => link [] j c
  | none, c => c.prepend [r]

/-- One chain behind another, with a blank in the piece where they meet. -/
def glue : Chain → Chain → Chain
  | last p, d => d.prepend (p ++ [.sign ' '])
  | link p j rest, d => link p j (rest.glue d)

/-- The junctions of a chain. -/
def junctions : Chain → List Junction
  | last _ => []
  | link _ j rest => j :: rest.junctions

@[simp] theorem prepend_last (rs p : List Run) : (last p).prepend rs = last (rs ++ p) := rfl

@[simp] theorem prepend_nil (c : Chain) : c.prepend [] = c := by
  cases c <;> rfl

@[simp] theorem prepend_prepend (rs ss : List Run) (c : Chain) :
    (c.prepend ss).prepend rs = c.prepend (rs ++ ss) := by
  cases c <;> simp [prepend]

@[simp] theorem junctions_prepend (rs : List Run) (c : Chain) :
    (c.prepend rs).junctions = c.junctions := by
  cases c <;> rfl

theorem prepend_glue (rs : List Run) (c d : Chain) :
    (c.glue d).prepend rs = (c.prepend rs).glue d := by
  cases c with
  | last p => simp [glue]
  | link p j rest => rfl

theorem add_glue (r : Run) (j : Option Junction) (c d : Chain) :
    (c.glue d).add r j = (c.add r j).glue d := by
  cases j with
  | none => exact prepend_glue [r] c d
  | some j => rfl

theorem junctions_glue (c d : Chain) : (c.glue d).junctions = c.junctions ++ d.junctions := by
  induction c with
  | last p => simp [glue, junctions]
  | link p j rest ih => simp [glue, junctions, ih]

end Chain

/-- The pieces of a text that is read on from some place. -/
def chain (s : Stand) : List Run → Option Chain
  | [] => if s.isAtRest then some (.last []) else none
  | r :: rest =>
    (s.step r).bind fun after => (chain after rest).map (Chain.add r (s.junction? r rest.head?))

theorem chain_cons {s after : Stand} {r : Run} (h : s.step r = some after) (rest : List Run) :
    chain s (r :: rest) = (chain after rest).map (Chain.add r (s.junction? r rest.head?)) := by
  simp [chain, h]

theorem chain_cons_eq_some {s : Stand} {r : Run} {rest : List Run} {c : Chain}
    (h : chain s (r :: rest) = some c) : ∃ after c', s.step r = some after ∧
      chain after rest = some c' ∧ c'.add r (s.junction? r rest.head?) = c := by
  obtain ⟨after, hs, h⟩ := Option.bind_eq_some_iff.mp h
  obtain ⟨c', hc, h⟩ := Option.map_eq_some_iff.mp h
  exact ⟨after, c', hs, hc, h⟩

theorem chain_nil_eq_some {s : Stand} {c : Chain} (h : chain s [] = some c) :
    s.isAtRest ∧ c = .last [] := by
  simp only [chain] at h
  split at h
  · next rest => exact ⟨rest, (Option.some.inj h).symm⟩
  · cases h

theorem Stand.step_blank {s : Stand} (h : s.isAtRest) : s.step (.sign ' ') = some .start := by
  simp [step, h.1, stepBare, h.2, marks, opening, closing, backquote, start]

theorem Stand.junction?_sign (s : Stand) (c : Char) (next : Option Run) :
    s.junction? (.sign c) next = none := by
  simp [junction?, Run.junction?]

/-- Reading on behind a blank starts afresh where nothing is left open. -/
theorem chain_append {s : Stand} {rs : List Run} {c : Chain} (h : chain s rs = some c)
    (ss : List Run) : chain s (rs ++ .sign ' ' :: ss) = (chain .start ss).map c.glue := by
  induction rs generalizing s c with
  | nil =>
    obtain ⟨rest, rfl⟩ := chain_nil_eq_some h
    rw [List.nil_append, chain_cons (Stand.step_blank rest), Stand.junction?_sign]
    rfl
  | cons r rest ih =>
    obtain ⟨after, c', hs, hc, rfl⟩ := chain_cons_eq_some h
    have same : s.junction? r (rest ++ .sign ' ' :: ss).head? = s.junction? r rest.head? := by
      cases rest <;> simp [Stand.junction?]
    rw [List.cons_append, chain_cons hs, same, ih hc, Option.map_map]
    congr 1
    funext d
    exact Chain.add_glue ..

/-- The junction that a connective is. -/
def junctionOf : Connective → Junction
  | .all => .conjunction
  | .any => .disjunction

/-- A word between blanks that is a junction joins what stands before and behind it. -/
theorem chain_junction {a b word : String} {c d : Chain} {j : Junction}
    (ha : chain .start (runs a.toList) = some c) (hb : chain .start (runs b.toList) = some d)
    (single : runs word.toList = [.word word.toList])
    (found : Run.junction? (.word word.toList) = some j) :
    chain .start (runs (a ++ " " ++ word ++ " " ++ b).toList) =
      some (c.glue (.link [] j (d.prepend [.sign ' ']))) := by
  have cut : runs (a ++ " " ++ word ++ " " ++ b).toList = runs a.toList ++
      .sign ' ' :: .word word.toList :: .sign ' ' :: runs b.toList := by
    have blank : isWord ' ' = false := by decide
    have texts : (a ++ " " ++ word ++ " " ++ b).toList =
        a.toList ++ ' ' :: (word.toList ++ ' ' :: b.toList) := by
      simp [String.toList_append]
    rw [texts, runs_append_sign blank, runs_append_sign blank, single]
    rfl
  have passed : Stand.start.step (.word word.toList) = some ⟨.bare, 0, '_'⟩ := rfl
  have joins : Stand.start.junction? (.word word.toList) (some (.sign ' ')) = some j := by
    simp [Stand.junction?, Stand.start, Stand.isAtRest, found]
  rw [cut, chain_append ha, chain_cons passed, List.head?_cons, joins,
    chain_cons (Stand.step_blank ⟨rfl, rfl⟩), Stand.junction?_sign, hb]
  rfl

theorem chain_joint {a b : String} {c d : Chain} (ha : chain .start (runs a.toList) = some c)
    (hb : chain .start (runs b.toList) = some d) (k : Connective) :
    chain .start (runs (a ++ " " ++ k.keyword ++ " " ++ b).toList) =
      some (c.glue (.link [] (junctionOf k) (d.prepend [.sign ' ']))) :=
  chain_junction ha hb (by cases k <;> decide) (by cases k <;> decide)

/-! ### Parentheses -/

theorem Stand.step_deeper {s after : Stand} {r : Run} (h : s.step r = some after) :
    s.deeper.step r = some after.deeper := by
  cases r with
  | word w =>
    obtain rfl := Option.some.inj h
    rfl
  | sign c =>
    rcases s with ⟨place, depth, lead⟩
    cases place with
    | bare =>
      simp only [step, stepBare, deeper] at h ⊢
      grind
    | quoted mark =>
      simp only [step, deeper] at h ⊢
      grind
    | lineComment =>
      simp only [step, deeper] at h ⊢
      grind
    | blockComment =>
      simp only [step, deeper] at h ⊢
      grind

theorem Stand.junction?_deeper (s : Stand) (r : Run) (next : Option Run) :
    s.deeper.junction? r next = none := by
  simp [junction?, isAtRest, deeper]

/-- Inside of a bracket everything belongs to one piece. -/
theorem chain_deeper {s : Stand} {rs : List Run} {c : Chain} {close : Char}
    (hclose : close ∈ closing) (h : chain s rs = some c) (ss : List Run) :
    chain s.deeper (rs ++ .sign close :: ss) =
      (chain .start ss).map (Chain.prepend (rs ++ [.sign close])) := by
  induction rs generalizing s c with
  | nil =>
    obtain ⟨rest, -⟩ := chain_nil_eq_some h
    have behind : s.deeper.step (.sign close) = some .start := by
      simp only [closing, List.mem_cons, List.not_mem_nil, or_false] at hclose
      rcases hclose with rfl | rfl | rfl <;>
        simp [Stand.step, Stand.deeper, rest.1, Stand.stepBare, rest.2, marks, opening, closing,
          backquote, Stand.start]
    rw [List.nil_append, chain_cons behind, Stand.junction?_sign]
    rfl
  | cons r rest ih =>
    obtain ⟨after, c', hs, hc, -⟩ := chain_cons_eq_some h
    rw [List.cons_append, chain_cons (Stand.step_deeper hs), Stand.junction?_deeper, ih hc,
      Option.map_map]
    congr 1
    funext d
    exact Chain.prepend_prepend ..

theorem chain_brackets {s : Stand} {rs : List Run} {c : Chain} {opens close : Char}
    (hopens : opens ∈ opening) (hclose : close ∈ closing) (bare : s.place = .bare)
    (rest : s.depth = 0) (h : chain .start rs = some c) (ss : List Run) :
    chain s (.sign opens :: (rs ++ .sign close :: ss)) =
      (chain .start ss).map (Chain.prepend (.sign opens :: (rs ++ [.sign close]))) := by
  have behind : s.step (.sign opens) = some Stand.start.deeper := by
    simp only [opening, List.mem_cons, List.not_mem_nil, or_false] at hopens
    rcases hopens with rfl | rfl | rfl <;>
      simp [Stand.step, Stand.deeper, bare, Stand.stepBare, rest, marks, opening, backquote,
        Stand.start]
  rw [chain_cons behind, Stand.junction?_sign, chain_deeper hclose h, Option.map_map]
  congr 1
  funext d
  exact Chain.prepend_prepend ..

theorem chain_parentheses {s : Stand} {rs : List Run} {c : Chain} (rest : s.isAtRest)
    (h : chain .start rs = some c) (ss : List Run) :
    chain s (.sign '(' :: (rs ++ .sign ')' :: ss)) =
      (chain .start ss).map (Chain.prepend (.sign '(' :: (rs ++ [.sign ')']))) :=
  chain_brackets (by decide) (by decide) rest.1 rest.2 h ss

end GraphQuery.Cypher
