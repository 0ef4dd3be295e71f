import GraphQuery.Proofs.Cypher.Mentions

/-! # Tokens

The query language reads a text as names, numbers and signs.  A name is a word, or whatever stands between
back quotes; inside of these a back quote is written twice.

* `Reading.step` is where a reader comes to with one character, and `tokens` are the tokens of a text;
* `Piece` is a part of a statement: a text of the writer's own, or a name in one of its forms;
* `Spells names parameters` : a text that is put together from pieces and is read as the tokens of these,
  one by one, whatever follows that does not go on with a name.

Pieces are read apart from each other, so each way of putting texts together has a law:
`Spells.front`, `Spells.behind`, `Spells.close`, `spells_joined`.  A name is read as one token whatever it
holds, unless it ends in a line break (`reads_quote`). -/

namespace GraphQuery.Cypher

open GraphQuery.Text

/-! ### Reading -/

/-- What a text is made of for a reader. -/
inductive Token where
  | name (n : String)
  | number (n : String)
  | sign (c : Char)
deriving DecidableEq, Repr

/-- What a reader is in the middle of, with the characters of it that have been read. -/
inductive Reading where
  | bare
  /-- behind a slash, with which a comment may begin -/
  | slash
  | word (cs : List Char)
  | quoted (cs : List Char)
  /-- behind a back quote inside of a quotation, which ends it unless a second one follows -/
  | quote (cs : List Char)
deriving DecidableEq, Repr

/-- A word that begins with a digit is a number. -/
def wordToken (cs : List Char) : Token :=
  if cs.head?.any isPlainDigit then .number (String.ofList cs) else .name (String.ofList cs)

namespace Reading

/-- The tokens that end where a reader stands; a quotation may not end there. -/
def ended : Reading → Option (List Token)
  | bare | slash => some []
  | word cs => some [wordToken cs]
  | quote cs => some [.name (String.ofList cs)]
  | quoted _ => none

/-- A character outside of names. A text has neither other quotations nor comments. -/
def begin (c : Char) : Option (Reading × List Token) :=
  if isWord c then some (word [c], [])
  else if c = backquote then some (quoted [], [])
  else if isBlank c then some (bare, [])
  else if c ∈ marks then none
  else some (if c = '/' then slash else bare, [.sign c])

/-- Behind one more character, with the tokens that have ended before it. -/
def step : Reading → Char → Option (Reading × List Token)
  | bare, c => begin c
  | slash, c => if c = '/' ∨ c = '*' then none else begin c
  | word cs, c =>
    if isWord c then some (word (cs ++ [c]), [])
    else (begin c).map fun next => (next.1, wordToken cs :: next.2)
  | quoted cs, c => some (if c = backquote then quote cs else quoted (cs ++ [c]), [])
  | quote cs, c =>
    if c = backquote then some (quoted (cs ++ [c]), [])
    else (begin c).map fun next => (next.1, .name (String.ofList cs) :: next.2)

/-- Where a reader comes to with some characters, and the tokens on the way. -/
def pass : Reading → List Char → Option (Reading × List Token)
  | r, [] => some (r, [])
  | r, c :: cs => (r.step c).bind fun next =>
    (next.1.pass cs).map fun last => (last.1, next.2 ++ last.2)

/-- The tokens from where a reader stands up to the end. -/
def tokensFrom : Reading → List Char → Option (List Token)
  | r, [] => r.ended
  | r, c :: cs => (r.step c).bind fun next => (next.1.tokensFrom cs).map (next.2 ++ ·)

theorem tokensFrom_append : ∀ {cs : List Char} {r r' : Reading} {ts : List Token},
    r.pass cs = some (r', ts) → ∀ rest, r.tokensFrom (cs ++ rest) = (r'.tokensFrom rest).map (ts ++ ·)
  | [], _, _, _, h, rest => by
    obtain ⟨rfl, rfl⟩ := Prod.mk.inj (Option.some.inj h)
    simp
  | c :: cs, r, r', ts, h, rest => by
    obtain ⟨⟨next, first⟩, step, h⟩ := Option.bind_eq_some_iff.mp h
    obtain ⟨⟨last, more⟩, passed, same⟩ := Option.map_eq_some_iff.mp h
    obtain ⟨rfl, rfl⟩ := Prod.mk.inj same
    rw [List.cons_append, tokensFrom, step, Option.bind_some, tokensFrom_append passed, Option.map_map]
    simp [Function.comp_def]

/-- A name ends where something follows that does not go on with it. -/
theorem tokensFrom_ended {r : Reading} {last : List Token} (h : r.ended = some last) (other : r ≠ slash)
    {rest : List Char} (apart : Delimits rest) :
    r.tokensFrom rest = (bare.tokensFrom rest).map (last ++ ·) := by
  cases rest with
  | nil => rw [tokensFrom, h, tokensFrom, ended, Option.map_some, List.append_nil]
  | cons c rest =>
    obtain ⟨sign, mark⟩ := apart c rfl
    cases r
    case slash => exact absurd rfl other
    case quoted => cases h
    all_goals
      obtain rfl := Option.some.inj h
      simp [tokensFrom, step, sign, mark, Option.bind_map, Option.map_bind, Function.comp_def]

theorem pass_word : ∀ {cs : List Char} (front : List Char), (∀ c ∈ cs, isWord c = true) →
    (word front).pass cs = some (word (front ++ cs), [])
  | [], front, _ => by simp [pass]
  | c :: cs, front, h => by
    obtain ⟨first, others⟩ := List.forall_mem_cons.mp h
    rw [pass, step, if_pos first, Option.bind_some, pass_word (front ++ [c]) others]
    simp

theorem pass_doubled : ∀ (cs front : List Char),
    (quoted front).pass (doubleBackquotes cs ++ [backquote]) = some (quote (front ++ cs), [])
  | [], front => by simp [doubleBackquotes, pass, step]
  | c :: cs, front => by
    by_cases same : c = backquote
    · have rest := pass_doubled cs (front ++ [c])
      simp only [doubleBackquotes, same, if_true, List.cons_append, pass, step, Option.bind_some] at rest ⊢
      simp [rest]
    · have rest := pass_doubled cs (front ++ [c])
      simp [doubleBackquotes, same, pass, step, rest]

end Reading

/-- The tokens of a text; none if a quotation is left open. -/
def tokens (text : String) : Option (List Token) := Reading.bare.tokensFrom text.toList

/-! ### Texts that are read apart -/

/-- A text that is read as some tokens, whatever follows that does not go on with a name. -/
def Reads (text : String) (ts : List Token) : Prop := ∀ rest, Delimits rest →
  Reading.bare.tokensFrom (text.toList ++ rest) = (Reading.bare.tokensFrom rest).map (ts ++ ·)

theorem Reads.tokens {text : String} {ts : List Token} (h : Reads text ts) : tokens text = some ts := by
  have whole := h [] (by simp [Delimits])
  rw [List.append_nil] at whole
  rw [Cypher.tokens, whole, Reading.tokensFrom, Reading.ended, Option.map_some, List.append_nil]

/-- A word that does not begin with a digit is one name. -/
theorem reads_word {n : String} {c : Char} {cs : List Char} (chars : n.toList = c :: cs)
    (first : isNameStart c = true) (others : ∀ d ∈ cs, isWord d = true) : Reads n [.name n] := by
  have digit : isPlainDigit c = false := by
    simp only [isNameStart, Bool.or_eq_true, Bool.and_eq_true, beq_iff_eq, decide_eq_true_eq] at first
    rcases first with (rfl | first) | first
    · decide
    all_goals simp [isPlainDigit]; omega
  have token : wordToken n.toList = .name n := by
    rw [wordToken, chars, List.head?_cons, Option.any_some, digit, ← chars, String.ofList_toList]
    rfl
  have passed : Reading.bare.pass n.toList = some (.word n.toList, []) := by
    have start := isWord_of_isNamePart (isNamePart_of_isNameStart first)
    rw [chars, Reading.pass, Reading.step, Reading.begin, if_pos start, Option.bind_some,
      Reading.pass_word [c] others]
    rfl
  intro rest apart
  have last := Reading.tokensFrom_ended (r := .word n.toList) rfl (by simp) apart
  rw [Reading.tokensFrom_append passed, last, token, Option.map_map]
  rfl

theorem reads_identifier {n : String} (h : IsIdentifier n) : Reads n [.name n] := by
  obtain ⟨c, cs, chars, first, others⟩ := h
  exact reads_word chars first fun d hd => isWord_of_isNamePart (others d hd)

/-- Whether a name is no plain name with a line break behind it, which is taken for a plain one. -/
def IsWhole (n : String) : Prop := isPlainName n.toList = true → n.toList.getLast? ≠ some '\n'

instance (n : String) : Decidable (IsWhole n) := inferInstanceAs (Decidable (_ → _))

/-- A name is read as it is, quoted or not. -/
theorem reads_quote {n : String} (h : IsWhole n) : Reads (quote n) [.name n] := by
  unfold quote quoteChars
  split
  · next plain =>
    rw [String.ofList_toList]
    have last := h plain
    obtain ⟨c, w, first, word, chars | chars⟩ := isPlainName_cases plain
    · exact reads_word chars first word
    · rw [chars] at last
      exact absurd (List.getLast?_concat (l := c :: w)) last
  · have passed : Reading.bare.pass (backquote :: (doubleBackquotes n.toList ++ [backquote])) =
        some (.quote n.toList, []) := by
      rw [Reading.pass, Reading.step, Reading.begin, if_neg (by decide), if_pos rfl, Option.bind_some,
        Reading.pass_doubled]
      rfl
    intro rest apart
    have last := Reading.tokensFrom_ended (r := .quote n.toList) rfl (by simp) apart
    rw [String.toList_ofList, Reading.tokensFrom_append passed, last, String.ofList_toList, Option.map_map]
    rfl

theorem reads_parameter {n : String} (h : IsWhole n) : Reads (parameter n) [.sign '$', .name n] := by
  have front : Reading.bare.pass "$".toList = some (.bare, [.sign '$']) := by decide +kernel
  intro rest apart
  rw [parameter, String.toList_append, List.append_assoc, Reading.tokensFrom_append front,
    reads_quote h rest apart, Option.map_map]
  rfl

/-! ### Pieces -/

/-- A part of a statement. -/
inductive Piece where
  /-- a text of the writer's own -/
  | fixed (text : String)
  /-- a label, a type or a property, which may be any text -/
  | name (n : String)
  /-- a node or a relationship, by the word that stands for it -/
  | placeholder (n : String)
  | parameter (n : String)
deriving DecidableEq, Repr

/-- Operators with a blank on either side, as they are given and in capitals. -/
def spacedOperators : List String :=
  operators.map (fun o => " " ++ o ++ " ") ++ operators.map fun o => " " ++ uppercase o ++ " "

/-- The texts of a writer of selects that stand between two others. -/
def gaps : List String :=
  [" ", ")", ":", ".", ", ", " = ", " AND ", " IN ", " IS ", " AS ", " WHERE ", "-[", "<-[", "]->", "]-"] ++
    spacedOperators

/-- The texts that stand in front of another one. -/
def openers : List String :=
  ["(", "id(", "MATCH ", "OPTIONAL MATCH ", "WHERE ", "WITH * WHERE ", "NOT ", "RETURN "]

/-- The texts that stand by themselves. -/
def keywords : List String := ["*", "id", "AND", "OR", "NULL"]

/-- All of them. -/
def fixedTexts : List String := openers ++ gaps ++ keywords

namespace Piece

/-- How a piece is written. -/
def text : Piece → String
  | fixed s => s
  | name n => quote n
  | placeholder n => n
  | parameter n => Text.parameter n

/-- What a piece is meant to be read as. -/
def tokens : Piece → List Token
  | fixed s => (Cypher.tokens s).getD []
  | name n | placeholder n => [.name n]
  | parameter n => [.sign '$', .name n]

/-- Whether a piece is one of those that a statement is made of: one of the fixed texts, one of some names
or parameters, or a placeholder that is a plain name. -/
def IsOneOf (names parameters : String → Prop) : Piece → Prop
  | fixed s => s ∈ fixedTexts
  | name n => names n
  | placeholder n => IsIdentifier n
  | parameter n => parameters n

end Piece

/-- A text that is put together from pieces and is read as the tokens of these, one by one. -/
def Spells (names parameters : String → Prop) (text : String) : Prop :=
  ∃ pieces : List Piece, (∀ p ∈ pieces, p.IsOneOf names parameters) ∧
    text = String.join (pieces.map (·.text)) ∧ Reads text (pieces.flatMap (·.tokens))

theorem openers_pass : ∀ a ∈ openers ++ gaps,
    (Reading.bare.pass a.toList).any (fun last => last.1 = .bare) = true := by
  decide +kernel

theorem gaps_begin : ∀ gap ∈ gaps, (gap.toList.head?.any fun c => !isWord c && c != backquote) = true := by
  decide +kernel

theorem keywords_pass : ∀ a ∈ keywords, (Reading.bare.pass a.toList).any
    (fun last => last.1.ended.isSome ∧ last.1 ≠ .slash) = true := by
  decide +kernel

variable {a b : String} {names parameters : String → Prop}

/-- Behind an opener or a gap the reading starts afresh. -/
theorem tokensFrom_opener (h : a ∈ openers ++ gaps) (rest : List Char) :
    Reading.bare.tokensFrom (a.toList ++ rest) =
      (Reading.bare.tokensFrom rest).map ((Piece.fixed a).tokens ++ ·) := by
  have found := openers_pass a h
  rw [Option.any_eq_true] at found
  obtain ⟨⟨r, ts⟩, passed, same⟩ := found
  obtain rfl : r = .bare := of_decide_eq_true same
  have own : Cypher.tokens a = some ts := by
    have whole := Reading.tokensFrom_append passed []
    rwa [List.append_nil, Reading.tokensFrom, Reading.ended, Option.map_some, List.append_nil] at whole
  rw [Reading.tokensFrom_append passed, Piece.tokens, own]
  rfl

theorem delimits_gap (h : a ∈ gaps) (rest : List Char) : Delimits (a.toList ++ rest) := by
  have first := gaps_begin a h
  rw [Option.any_eq_true] at first
  obtain ⟨c, head, apart⟩ := first
  intro d hd
  rw [List.head?_append, head] at hd
  obtain rfl := Option.some.inj hd
  simpa using apart

theorem Reads.front {ts : List Token} (h : a ∈ openers ++ gaps) (hb : Reads b ts) :
    Reads (a ++ b) ((Piece.fixed a).tokens ++ ts) := by
  intro rest apart
  rw [String.toList_append, List.append_assoc, tokensFrom_opener h, hb rest apart, Option.map_map]
  simp [Function.comp_def]

/-- What is behind a gap is read apart from what is before it. -/
theorem Reads.behind {ts us : List Token} (ha : Reads a ts) {gap : String} (between : gap ∈ gaps)
    (hb : Reads b us) : Reads (a ++ gap ++ b) (ts ++ ((Piece.fixed gap).tokens ++ us)) := by
  intro rest apart
  have next := hb.front (List.mem_append_right _ between) rest apart
  have whole := ha _ (delimits_gap between (b.toList ++ rest))
  rw [String.toList_append, List.append_assoc] at next
  rw [next, Option.map_map] at whole
  simp only [String.toList_append, List.append_assoc, Function.comp_def] at whole ⊢
  exact whole

theorem reads_empty : Reads "" [] := fun rest _ => by simp

theorem Reads.close {ts : List Token} (h : Reads a ts) {gap : String} (between : gap ∈ gaps) :
    Reads (a ++ gap) (ts ++ (Piece.fixed gap).tokens) := by
  have whole := h.behind between reads_empty
  rwa [String.append_empty, List.append_nil] at whole

theorem spells_piece {p : Piece} (h : p.IsOneOf names parameters) (reads : Reads p.text p.tokens) :
    Spells names parameters p.text :=
  ⟨[p], List.forall_mem_singleton.mpr h, by simp, by simpa using reads⟩

theorem spells_empty : Spells names parameters "" := ⟨[], by simp, rfl, reads_empty⟩

theorem spells_keyword (h : a ∈ keywords) : Spells names parameters a := by
  refine spells_piece (p := .fixed a) (List.mem_append_right _ h) fun rest apart => ?_
  have found := keywords_pass a h
  rw [Option.any_eq_true] at found
  obtain ⟨⟨r, ts⟩, passed, holds⟩ := found
  obtain ⟨some, other⟩ := of_decide_eq_true holds
  obtain ⟨last, ended⟩ := Option.isSome_iff_exists.mp some
  have own : Cypher.tokens a = .some (ts ++ last) := by
    have whole := Reading.tokensFrom_append passed []
    rwa [List.append_nil, Reading.tokensFrom, ended, Option.map_some] at whole
  show Reading.bare.tokensFrom (a.toList ++ rest) = _
  rw [Reading.tokensFrom_append passed, Reading.tokensFrom_ended ended other apart, Piece.tokens, own,
    Option.map_map]
  simp [Function.comp_def]

theorem spells_name {n : String} (h : names n) (whole : IsWhole n) : Spells names parameters (quote n) :=
  spells_piece (p := .name n) h (reads_quote whole)

theorem spells_placeholder {n : String} (h : IsIdentifier n) : Spells names parameters n :=
  spells_piece (p := .placeholder n) h (reads_identifier h)

theorem spells_parameter {n : String} (h : parameters n) (whole : IsWhole n) :
    Spells names parameters (parameter n) := spells_piece (p := .parameter n) h (reads_parameter whole)

namespace Spells

theorem front (ha : a ∈ openers ++ gaps) (hb : Spells names parameters b) : Spells names parameters (a ++ b) := by
  obtain ⟨pieces, known, rfl, reads⟩ := hb
  refine ⟨.fixed a :: pieces, List.forall_mem_cons.mpr ⟨List.mem_append_left _ ha, known⟩, ?_, reads.front ha⟩
  rw [List.map_cons, String.join_cons, Piece.text]

/-- What is behind a gap is read apart from what is before it. -/
theorem behind (ha : Spells names parameters a) {gap : String} (between : gap ∈ gaps)
    (hb : Spells names parameters b) : Spells names parameters (a ++ gap ++ b) := by
  obtain ⟨pieces, known, rfl, reads⟩ := ha
  obtain ⟨later, known', rfl, reads'⟩ := hb
  refine ⟨pieces ++ .fixed gap :: later, ?_, ?_, ?_⟩
  · have own : (Piece.fixed gap).IsOneOf names parameters :=
      List.mem_append_left _ (List.mem_append_right _ between)
    exact List.forall_mem_append.mpr ⟨known, List.forall_mem_cons.mpr ⟨own, known'⟩⟩
  · rw [List.map_append, List.map_cons, String.join_append, String.join_cons, Piece.text, String.append_assoc]
  · rw [List.flatMap_append, List.flatMap_cons]
    exact reads.behind between reads'

theorem close (ha : Spells names parameters a) {gap : String} (h : gap ∈ gaps) :
    Spells names parameters (a ++ gap) := by
  have whole := ha.behind h spells_empty
  rwa [String.append_empty] at whole

theorem parentheses (ha : Spells names parameters a) : Spells names parameters ("(" ++ a ++ ")") :=
  (ha.front (by decide)).close (by decide)

end Spells

theorem spells_joined {gap : String} (between : gap ∈ gaps) {texts : List String}
    (h : ∀ t ∈ texts, Spells names parameters t) : Spells names parameters (joined gap texts) :=
  joined_of_forall spells_empty (fun first second => first.behind between second) h

end GraphQuery.Cypher
