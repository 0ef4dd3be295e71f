import GraphQuery.Proofs.Cypher.Reading
import GraphQuery.Proofs.Query.PlainNames

/-! # Texts of a single piece

A text is one piece if everything in it is closed and no junction stands outside of its quotations and
brackets (`IsPiece`).  A condition that holds such a text has it as a leaf.

* `Passes` says of some words and signs that a reader gets over them without meeting a junction,
  whatever follows;
* pieces with a blank between them are one piece (`IsPiece.spaced`), and so is whatever stands in
  brackets (`isPiece_brackets`);
* names are one piece whether they are quoted or not: columns (`isPiece_column`) and parameters
  (`isPiece_parameter`). -/

namespace GraphQuery.Cypher

open GraphQuery.Text

/-! ### Getting over words and signs -/

/-- Words and signs that lead from one stand to another, with no junction among them. -/
inductive Passes : Stand → List Run → Stand → Prop
  | nil (s : Stand) : Passes s [] s
  | cons {s t u : Stand} {r : Run} {rest : List Run} : s.step r = some t →
      (∀ next, s.junction? r (rest.head?.or next) = none) → Passes t rest u →
      Passes s (r :: rest) u

namespace Passes

variable {s t u : Stand} {rs ss : List Run}

theorem chain (h : Passes s rs t) (ss : List Run) :
    Cypher.chain s (rs ++ ss) = (Cypher.chain t ss).map (Chain.prepend rs) := by
  induction h with
  | nil s => simp [show Chain.prepend [] = id from funext Chain.prepend_nil]
  | cons step apart _ ih =>
    rw [List.cons_append, chain_cons step, List.head?_append, apart, ih, Option.map_map]
    congr 1
    funext c
    exact Chain.prepend_prepend ..

theorem append (h : Passes s rs t) (h' : Passes t ss u) : Passes s (rs ++ ss) u := by
  induction h with
  | nil _ => exact h'
  | @cons s t _ r rest step apart _ ih =>
    refine .cons step (fun next => ?_) (ih h')
    have apart' := apart (ss.head?.or next)
    rwa [← Option.or_assoc, ← List.head?_append] at apart'

theorem sign {c : Char} (step : s.step (.sign c) = some t) (h : Passes t rs u) :
    Passes s (.sign c :: rs) u :=
  .cons step (fun _ => Stand.junction?_sign ..) h

/-- A word inside of a quotation is no junction. -/
theorem quotedWord {mark : Char} {depth : Nat} {lead : Char} {w : List Char}
    (h : Passes ⟨.quoted mark, depth, '_'⟩ rs t) :
    Passes ⟨.quoted mark, depth, lead⟩ (.word w :: rs) t :=
  .cons rfl (fun _ => by simp [Stand.junction?, Stand.isAtRest]) h

end Passes

/-- What stands between back quotes, with back quotes inside of it twice, is passed as a whole. -/
theorem passes_doubled (depth : Nat) : ∀ (cs : List Char) (lead : Char), ∃ last,
    Passes ⟨.quoted backquote, depth, lead⟩ (runs (doubleBackquotes cs))
      ⟨.quoted backquote, depth, last⟩
  | [], lead => ⟨lead, .nil _⟩
  | c :: cs, lead => by
    by_cases same : c = backquote
    · obtain ⟨last, h⟩ := passes_doubled depth cs ' '
      subst same
      have sign : isWord backquote = false := by decide
      simp only [doubleBackquotes, if_true, runs, sign]
      exact ⟨last, .sign (by simp [Stand.step]; rfl) (.sign (by simp [Stand.step]; rfl) h)⟩
    · obtain ⟨last, h⟩ := passes_doubled depth cs (if isWord c then '_' else c)
      simp only [doubleBackquotes, same, if_false, runs]
      split
      · next word =>
        simp only [word, if_true] at h
        unfold lengthen
        split
        · next w rest cut =>
          rw [cut] at h
          cases h with
          | cons step _ h =>
            obtain rfl := Option.some.inj step
            exact ⟨last, .quotedWord h⟩
        · exact ⟨last, .quotedWord h⟩
      · next sign =>
        simp only [sign] at h
        refine ⟨last, .sign ?_ h⟩
        simp [Stand.step, same]

/-- The later characters of a plain name are those of a word, with a line break behind it perhaps. -/
theorem isPlainRest_cases : ∀ {cs : List Char}, isPlainRest cs = true →
    ∃ w, (cs = w ∨ cs = w ++ ['\n']) ∧ ∀ c ∈ w, isWord c = true
  | [], _ => ⟨[], Or.inl rfl, by simp⟩
  | [c], h => by
    by_cases same : c = '\n'
    · exact ⟨[], Or.inr (by simp [same]), by simp⟩
    · have part : isNamePart c = true := by simpa [isPlainRest, same] using h
      exact ⟨[c], Or.inl rfl, by simpa using isWord_of_isNamePart part⟩
  | c :: d :: cs, h => by
    simp only [isPlainRest, Bool.and_eq_true] at h
    obtain ⟨w, shape, word⟩ := isPlainRest_cases h.2
    refine ⟨c :: w, ?_, ?_⟩
    · rcases shape with shape | shape
      · exact Or.inl (congrArg _ shape)
      · exact Or.inr (congrArg _ shape)
    · rintro e (_ | ⟨_, member⟩)
      · exact isWord_of_isNamePart h.1
      · exact word e member

theorem isPlainName_cases {cs : List Char} (plain : isPlainName cs = true) :
    ∃ c w, isNameStart c = true ∧ (∀ d ∈ w, isWord d = true) ∧ (cs = c :: w ∨ cs = c :: w ++ ['\n']) := by
  cases cs with
  | nil => cases plain
  | cons c rest =>
    obtain ⟨first, others⟩ := (Bool.and_eq_true ..).mp plain
    obtain ⟨w, rfl | rfl, word⟩ := isPlainRest_cases others
    · exact ⟨c, _, first, word, Or.inl rfl⟩
    · exact ⟨c, w, first, word, Or.inr rfl⟩

theorem step_lineBreak {depth : Nat} {lead : Char} :
    Stand.step ⟨.bare, depth, lead⟩ (.sign '\n') = some ⟨.bare, depth, '\n'⟩ := by
  simp [Stand.step, Stand.stepBare, marks, opening, closing, backquote]

/-- A name behind a point, a colon or a dollar sign is passed, quoted or not. -/
theorem passes_quote (depth : Nat) (lead : Char) (behind : lead ∈ ['.', ':', '$']) (name : String) :
    ∃ last, Passes ⟨.bare, depth, lead⟩ (runs (quote name).toList) ⟨.bare, depth, last⟩ := by
  unfold quote quoteChars
  rw [String.toList_ofList]
  split
  · next plain =>
    obtain ⟨c, w, start, word, shape⟩ := isPlainName_cases plain
    have whole : ∀ d ∈ c :: w, isWord d = true :=
      List.forall_mem_cons.mpr ⟨isWord_of_isNamePart (isNamePart_of_isNameStart start), word⟩
    have first : ∀ next, Stand.junction? ⟨.bare, depth, lead⟩ (.word (c :: w)) next = none := by
      intro next
      simp [Stand.junction?, behind]
    rcases shape with chars | chars
    · rw [chars, runs_of_all_word whole (by simp)]
      exact ⟨'_', .cons rfl (fun _ => first _) (.nil _)⟩
    · have sign : isWord '\n' = false := by decide
      rw [chars, runs_append_sign sign, runs_of_all_word whole (by simp)]
      exact ⟨'\n', .cons rfl (fun _ => first _) (.sign step_lineBreak (.nil _))⟩
  · have sign : isWord backquote = false := by decide
    obtain ⟨last, passed⟩ := passes_doubled depth name.toList ' '
    rw [runs, sign, if_neg (by simp), runs_append_sign sign]
    refine ⟨' ', .sign ?_ (passed.append (.sign ?_ (.nil _)))⟩
    · simp [Stand.step, Stand.stepBare, marks]
    · simp [Stand.step]

/-! ### Single pieces -/

/-- Whether everything in a text is closed and it has no junction outside. -/
def IsPiece (text : String) : Prop :=
  chain .start (runs text.toList) = some (.last (runs text.toList))

instance (text : String) : Decidable (IsPiece text) := inferInstanceAs (Decidable (_ = _))

variable {a b : String}

theorem IsPiece.isReadable (h : IsPiece a) : IsReadable a := isReadable_iff.mpr ⟨_, h⟩

theorem IsPiece.readCondition (h : IsPiece a) : readCondition a = some (.leaf (trim a)) := by
  rw [Cypher.readCondition, h, Option.map_some, Chain.tree, piece_runs]

theorem IsPiece.isConjunction (h : IsPiece a) : IsConjunction a :=
  ⟨_, h.readCondition, Tree.isConjunction_leaf _⟩

theorem isPiece_of_passes {last : Char}
    (h : Passes .start (runs a.toList) ⟨.bare, 0, last⟩) : IsPiece a := by
  have whole := h.chain []
  rwa [List.append_nil, chain, if_pos ⟨rfl, rfl⟩, Option.map_some, Chain.prepend_last,
    List.append_nil] at whole

theorem IsPiece.spaced (ha : IsPiece a) (hb : IsPiece b) : IsPiece (a ++ " " ++ b) := by
  have blank : isWord ' ' = false := by decide
  have texts : (a ++ " " ++ b).toList = a.toList ++ ' ' :: b.toList := by
    simp [String.toList_append]
  unfold IsPiece
  rw [texts, runs_append_sign blank, chain_append ha, hb]
  simp [Chain.glue]

/-- Brackets behind a word that is no junction, or behind nothing, belong to the piece. -/
theorem isPiece_brackets (opens close : Char) (hopens : opens ∈ opening) (hclose : close ∈ closing)
    {word : List Run} {s : Stand} (front : Passes .start word s) (bare : s.place = .bare)
    (rest : s.depth = 0) (h : IsReadable a) {text : String}
    (cut : runs text.toList = word ++ .sign opens :: (runs a.toList ++ [.sign close])) :
    IsPiece text := by
  obtain ⟨c, hc⟩ := isReadable_iff.mp h
  unfold IsPiece
  rw [cut, front.chain, chain_brackets hopens hclose bare rest hc]
  simp [chain, Stand.start, Stand.isAtRest]

theorem isPiece_parentheses (h : IsReadable a) : IsPiece ("(" ++ a ++ ")") := by
  have last : isWord ')' = false := by decide
  refine isPiece_brackets '(' ')' (by decide) (by decide) (.nil _) rfl rfl h ?_
  rw [toList_parentheses, runs, if_neg (by decide), runs_append_sign last]
  rfl

theorem isPiece_braces (h : IsReadable a) : IsPiece ("\x7b" ++ a ++ "\x7d") := by
  have last : isWord '\x7d' = false := by decide
  have texts : ("\x7b" ++ a ++ "\x7d").toList = '\x7b' :: (a.toList ++ ['\x7d']) := by
    simp [String.toList_append]
  refine isPiece_brackets '\x7b' '\x7d' (by decide) (by decide) (.nil _) rfl rfl h ?_
  rw [texts, runs, if_neg (by decide), runs_append_sign last]
  rfl

theorem passes_word {w : List Char} (apart : Run.junction? (.word w) = none) :
    Passes .start [.word w] ⟨.bare, 0, '_'⟩ :=
  .cons rfl (fun _ => by simp [Stand.junction?, apart]) (.nil _)

theorem isPiece_call {f : String} (plain : IsPlainText f) (some : f ≠ "")
    (apart : Run.junction? (.word f.toList) = none) (h : IsReadable a) :
    IsPiece (f ++ "(" ++ a ++ ")") := by
  have first : isWord '(' = false := by decide
  have last : isWord ')' = false := by decide
  have word : ∀ c ∈ f.toList, isWord c = true := fun c hc => isWord_of_isNamePart (plain c hc)
  have texts : (f ++ "(" ++ a ++ ")").toList = f.toList ++ '(' :: (a.toList ++ [')']) := by
    simp [String.toList_append]
  refine isPiece_brackets '(' ')' (by decide) (by decide) (passes_word apart) rfl rfl h ?_
  rw [texts, runs_append_sign first, runs_of_all_word word (by simpa using some),
    runs_append_sign last]
  rfl

/-! ### Columns and parameters -/

theorem IsPlainText.isReadable {text : String} (h : IsPlainText text) : IsReadable text := by
  rw [isReadable_iff]
  by_cases none : text.toList = []
  · exact ⟨.last [], by simp [none, chain, Stand.start, Stand.isAtRest]⟩
  · rw [runs_of_all_word (fun c hc => isWord_of_isNamePart (h c hc)) none]
    exact ⟨_, rfl⟩

/-- A column behind the plain name of its node is one piece, whatever that name and its own are. -/
theorem isPiece_property {owner : String} (plain : IsPlainText owner) (some : owner ≠ "")
    (name : String) : IsPiece (owner ++ "." ++ quote name) := by
  have point : isWord '.' = false := by decide
  have word : ∀ c ∈ owner.toList, isWord c = true := fun c hc => isWord_of_isNamePart (plain c hc)
  have texts : (owner ++ "." ++ quote name).toList = owner.toList ++ '.' :: (quote name).toList := by
    simp [String.toList_append]
  obtain ⟨last, passed⟩ := passes_quote 0 '.' (by decide) name
  refine isPiece_of_passes (?_ : Passes .start _ ⟨.bare, 0, last⟩)
  rw [texts, runs_append_sign point, runs_of_all_word word (by simpa using some)]
  -- a word before a point is a name, even if it is spelled like a junction
  refine .cons rfl (fun _ => by simp [Stand.junction?]) (.sign ?_ passed)
  simp [Stand.step, Stand.stepBare, Stand.start, marks, opening, closing, backquote]

theorem isPiece_identity {owner : String} (plain : IsPlainText owner) :
    IsPiece ("id(" ++ owner ++ ")") :=
  isPiece_call (f := "id") (by decide +kernel) (by decide) (by decide) plain.isReadable

theorem step_dollar : Stand.start.step (.sign '$') = some ⟨.bare, 0, '$'⟩ := by decide

theorem runs_parameter (name : String) :
    runs (parameter name).toList = .sign '$' :: runs (quote name).toList := by
  have texts : (parameter name).toList = '$' :: (quote name).toList := by
    simp [parameter, String.toList_append]
  rw [texts, runs, if_neg (by decide)]

theorem isPiece_parameter (name : String) : IsPiece (parameter name) := by
  obtain ⟨last, passed⟩ := passes_quote 0 '$' (by decide) name
  refine isPiece_of_passes (?_ : Passes .start _ ⟨.bare, 0, last⟩)
  rw [runs_parameter]
  exact .sign step_dollar passed

/-- An element of a list that a parameter holds is one piece. -/
theorem isPiece_element (name index : String) (h : IsPiece index) :
    IsPiece (parameter name ++ "[" ++ index ++ "]") := by
  have first : isWord '[' = false := by decide
  have final : isWord ']' = false := by decide
  have texts : (parameter name ++ "[" ++ index ++ "]").toList =
      (parameter name).toList ++ '[' :: (index.toList ++ [']']) := by
    simp [String.toList_append]
  obtain ⟨last, passed⟩ := passes_quote 0 '$' (by decide) name
  refine isPiece_brackets '[' ']' (by decide) (by decide) (.sign step_dollar passed) rfl rfl
    h.isReadable ?_
  rw [texts, runs_append_sign first, runs_append_sign final, runs_parameter]
  rfl

end GraphQuery.Cypher
