import GraphQuery.Proofs.Cypher.SinglePieces
import Mathlib.Data.List.TakeWhile

/-! # The parameters that a text mentions

A reader goes over a text character by character.  Outside of quotations and comments a dollar sign
begins a parameter (`scan`); its name stands in back quotes, or is as long as there are characters of
words (`parameterName`).

* `Silent` : a text that mentions nothing and leaves nothing open.
* `NamesOnly allowed` : a text that leaves nothing open and mentions nothing but what is allowed,
  whatever follows that does not go on with a name.

Texts are put together from parts that are read apart from each other, so each way of doing it has a
law: `Silent.front`, `NamesOnly.behind`, `NamesOnly.close`, `NamesOnly.brackets`, `namesOnly_joined`.
The parameter of a binding is mentioned under its own name (`namesOnly_parameter`, `spoken_eq`). -/

namespace GraphQuery.Cypher

open GraphQuery.Text

/-! ### Reading character by character -/

/-- Behind a character. -/
def Stand.advance (s : Stand) (c : Char) : Option Stand :=
  s.step (if isWord c then .word [c] else .sign c)

/-- What stands between back quotes, up to the one that ends it. -/
def quotedName : List Char → List Char
  | a :: b :: cs =>
    if a = backquote then if b = backquote then backquote :: quotedName cs else []
    else a :: quotedName (b :: cs)
  | cs => cs.takeWhile (· ≠ backquote)

/-- The name behind a dollar sign. -/
def parameterName (cs : List Char) : String :=
  String.ofList (if cs.head? = some backquote then quotedName (cs.drop 1) else cs.takeWhile isWord)

/-- Whether a character begins a parameter where a reader stands. -/
def Stand.begins (s : Stand) (c : Char) : Prop := s.place = .bare ∧ c = '$'

instance (s : Stand) (c : Char) : Decidable (s.begins c) := inferInstanceAs (Decidable (_ ∧ _))

/-- The parameters that are mentioned from some place on, and whether nothing is left open at the end.
There is no reading if a bracket is closed that was never opened. -/
def scan (s : Stand) : List Char → Option (List String × Bool)
  | [] => some ([], decide s.isAtRest)
  | c :: cs =>
    (s.advance c).bind fun after => (scan after cs).map fun found =>
      (if s.begins c then parameterName cs :: found.1 else found.1, found.2)

/-- The parameters that a text mentions. -/
def parametersIn (text : String) : Option (List String) := (scan .start text.toList).map (·.1)

theorem chain_lengthen (s : Stand) (c : Char) (rs : List Run) :
    (chain s (lengthen c rs)).isSome = (chain { s with lead := '_' } rs).isSome := by
  have step (w : List Char) : s.step (.word w) = some { s with lead := '_' } := rfl
  cases rs with
  | nil =>
    have new : lengthen c [] = [.word [c]] := rfl
    rw [new, chain_cons (step _), Option.isSome_map]
  | cons r rest =>
    cases r with
    | word w =>
      have again : Stand.step { s with lead := '_' } (.word w) = some { s with lead := '_' } := rfl
      rw [lengthen, chain_cons (step _), chain_cons again, Option.isSome_map, Option.isSome_map]
    | sign d =>
      have new : lengthen c (.sign d :: rest) = .word [c] :: .sign d :: rest := rfl
      rw [new, chain_cons (step _), Option.isSome_map]

theorem isSome_chain_of_scan : ∀ {cs : List Char} {s : Stand} {names : List String},
    scan s cs = some (names, true) → (chain s (runs cs)).isSome
  | [], s, names, h => by
    obtain ⟨-, rest⟩ := Prod.mk.inj (Option.some.inj h)
    simp [chain, of_decide_eq_true rest]
  | c :: cs, s, names, h => by
    obtain ⟨after, step, h⟩ := Option.bind_eq_some_iff.mp h
    obtain ⟨⟨found, closed⟩, read, e⟩ := Option.map_eq_some_iff.mp h
    obtain rfl : closed = true := (Prod.mk.inj e).2
    have rest := isSome_chain_of_scan read
    unfold Stand.advance at step
    by_cases word : isWord c
    · rw [if_pos word] at step
      obtain rfl := Option.some.inj step
      rwa [runs, if_pos word, chain_lengthen]
    · rw [if_neg word] at step
      rw [runs, if_neg word, chain_cons step, Option.isSome_map]
      exact rest

theorem isReadable_of_scan {text : String} {names : List String}
    (h : scan .start text.toList = some (names, true)) : IsReadable text :=
  isReadable_iff.mpr (Option.isSome_iff_exists.mp (isSome_chain_of_scan h))

/-! ### Where a reader comes to -/

/-- Where a reader stands behind a part that mentions nothing. -/
def through (s : Stand) : List Char → Option Stand
  | [] => some s
  | c :: cs => if s.begins c then none else (s.advance c).bind (through · cs)

theorem through_cons_eq_some {s t : Stand} {c : Char} {cs : List Char} :
    through s (c :: cs) = some t ↔
      ¬ s.begins c ∧ ∃ after, s.advance c = some after ∧ through after cs = some t := by
  by_cases begins : s.begins c <;> simp [through, begins, Option.bind_eq_some_iff]

theorem through_append (s : Stand) (cs ds : List Char) :
    through s (cs ++ ds) = (through s cs).bind (through · ds) := by
  induction cs generalizing s with
  | nil => rfl
  | cons c cs ih =>
    by_cases begins : s.begins c
    · simp [through, begins]
    · simp only [List.cons_append, through, begins, if_false, ih, Option.bind_assoc]

theorem scan_through : ∀ {cs : List Char} {s t : Stand}, through s cs = some t →
    ∀ rest, scan s (cs ++ rest) = scan t rest
  | [], _, _, h, _ => by rw [← Option.some.inj h, List.nil_append]
  | c :: cs, s, t, h, rest => by
    obtain ⟨begins, after, step, h⟩ := through_cons_eq_some.mp h
    simp only [List.cons_append, scan, step, Option.bind_some, scan_through h, begins, if_false]
    simp

theorem Stand.advance_deeper {s t : Stand} {c : Char} (h : s.advance c = some t) :
    s.deeper.advance c = some t.deeper := step_deeper h

theorem through_deeper : ∀ {cs : List Char} {s t : Stand}, through s cs = some t →
    through s.deeper cs = some t.deeper
  | [], _, _, h => congrArg (Option.map Stand.deeper) h
  | c :: cs, s, t, h => by
    obtain ⟨begins, after, step, h⟩ := through_cons_eq_some.mp h
    exact through_cons_eq_some.mpr ⟨begins, _, Stand.advance_deeper step, through_deeper h⟩

/-- A part is read the same way at every depth. -/
theorem through_bare {cs : List Char} {lead last : Char}
    (h : through ⟨.bare, 0, lead⟩ cs = some ⟨.bare, 0, last⟩) :
    ∀ depth, through ⟨.bare, depth, lead⟩ cs = some ⟨.bare, depth, last⟩
  | 0 => h
  | depth + 1 => through_deeper (through_bare h depth)

/-- The sign before does not matter, unless it can begin a comment. -/
theorem Stand.advance_lead {depth : Nat} {lead : Char} (h : lead ≠ '/') (c : Char) :
    advance ⟨.bare, depth, lead⟩ c = advance ⟨.bare, depth, ' '⟩ c := by
  unfold advance
  split
  · rfl
  · simp [step, stepBare, h]

theorem scan_lead {depth : Nat} {lead : Char} (h : lead ≠ '/') :
    ∀ cs : List Char, scan ⟨.bare, depth, lead⟩ cs = scan ⟨.bare, depth, ' '⟩ cs
  | [] => rfl
  | c :: cs => by
    simp only [scan, Stand.advance_lead h]
    rfl

theorem through_lead {depth : Nat} {lead : Char} (h : lead ≠ '/') (c : Char) (cs : List Char) :
    through ⟨.bare, depth, lead⟩ (c :: cs) = through ⟨.bare, depth, ' '⟩ (c :: cs) := by
  simp only [through, Stand.advance_lead h]
  rfl

/-! ### Silent texts -/

/-- Whether a text mentions no parameter and leaves nothing open, not even what could become the
beginning of a comment. -/
def Silent (text : String) : Prop :=
  ∃ last, last ≠ '/' ∧ through .start text.toList = some ⟨.bare, 0, last⟩

instance (text : String) : Decidable (Silent text) :=
  decidable_of_iff
    ((through .start text.toList).any fun s => decide (s.isAtRest ∧ s.lead ≠ '/')) (by
      rw [Option.any_eq_true]
      constructor
      · rintro ⟨⟨place, depth, lead⟩, found, h⟩
        obtain ⟨⟨rfl, rfl⟩, other⟩ := of_decide_eq_true h
        exact ⟨lead, other, found⟩
      · rintro ⟨last, other, found⟩
        exact ⟨_, found, by simpa [Stand.isAtRest] using other⟩)

variable {a b : String}

/-- Silent texts are read apart from what follows. -/
theorem Silent.scan (h : Silent a) (depth : Nat) (rest : List Char) :
    scan ⟨.bare, depth, ' '⟩ (a.toList ++ rest) = scan ⟨.bare, depth, ' '⟩ rest := by
  obtain ⟨last, other, found⟩ := h
  rw [scan_through (through_bare found depth), scan_lead other]

theorem silent_empty : Silent "" := ⟨' ', by decide, by simp [through, Stand.start]⟩

theorem Silent.append (ha : Silent a) (hb : Silent b) : Silent (a ++ b) := by
  obtain ⟨last, other, found⟩ := ha
  obtain ⟨last', other', found'⟩ := hb
  cases chars : b.toList with
  | nil => exact ⟨last, other, by rw [String.toList_append, chars, List.append_nil, found]⟩
  | cons c cs =>
    refine ⟨last', other', ?_⟩
    rw [String.toList_append, through_append, found, Option.bind_some, chars,
      through_lead other, ← chars]
    exact found'

/-- A character that means nothing by itself. -/
def IsHarmless (c : Char) : Prop :=
  isWord c = true ∨ c ∉ marks ∧ c ∉ opening ∧ c ∉ closing ∧ c ≠ '$' ∧ c ≠ '/'

theorem IsHarmless.advance {c : Char} (h : IsHarmless c) {depth : Nat} {lead : Char}
    (other : lead ≠ '/') : ∃ last, last ≠ '/' ∧ ¬ Stand.begins ⟨.bare, depth, lead⟩ c ∧
      Stand.advance ⟨.bare, depth, lead⟩ c = some ⟨.bare, depth, last⟩ := by
  unfold Stand.advance
  by_cases word : isWord c
  · refine ⟨'_', by decide, ?_, by rw [if_pos word]; rfl⟩
    rintro ⟨-, rfl⟩
    exact absurd word (by decide)
  · obtain ⟨mark, opens, closes, dollar, slash⟩ := h.resolve_left word
    exact ⟨c, slash, fun begins => dollar begins.2,
      by simp [word, Stand.step, Stand.stepBare, mark, opens, closes, other]⟩

theorem through_harmless : ∀ {cs : List Char}, (∀ c ∈ cs, IsHarmless c) → ∀ {lead : Char},
    lead ≠ '/' → ∃ last, last ≠ '/' ∧ through ⟨.bare, 0, lead⟩ cs = some ⟨.bare, 0, last⟩
  | [], _, lead, other => ⟨lead, other, rfl⟩
  | c :: cs, h, lead, other => by
    obtain ⟨next, apart, begins, step⟩ := (h c (List.mem_cons_self ..)).advance other
    obtain ⟨last, end_, found⟩ :=
      through_harmless (fun d hd => h d (List.mem_cons_of_mem _ hd)) apart
    exact ⟨last, end_, by rw [through, if_neg begins, step]; exact found⟩

theorem silent_of_harmless (h : ∀ c ∈ a.toList, IsHarmless c) : Silent a :=
  through_harmless h (by decide)

theorem isHarmless_of_isNamePart {c : Char} (h : isNamePart c = true) : IsHarmless c :=
  Or.inl (isWord_of_isNamePart h)

theorem IsPlainText.silent (h : IsPlainText a) : Silent a :=
  silent_of_harmless fun c hc => isHarmless_of_isNamePart (h c hc)

theorem silent_toString (n : Int) : Silent (toString n) := by
  have digits : ∀ m : Nat, ∀ c ∈ (toString m).toList, IsHarmless c := by
    intro m c hc
    refine isHarmless_of_isNamePart ?_
    have digit : c ∈ Nat.toDigits 10 m := by simpa [Nat.repr, toString] using hc
    have := Nat.isDigit_of_mem_toDigits (by decide) (by decide) digit
    simp only [Char.isDigit, Bool.and_eq_true, decide_eq_true_eq] at this
    simp only [isNamePart, Bool.or_eq_true, Bool.and_eq_true, decide_eq_true_eq]
    exact Or.inr this
  have minus : IsHarmless '-' := Or.inr (by decide)
  refine silent_of_harmless fun c hc => ?_
  cases n with
  | ofNat m => exact digits m c hc
  | negSucc m =>
    have chars : (toString (Int.negSucc m)).toList = '-' :: (toString (m + 1)).toList := by
      rw [show toString (Int.negSucc m) = "-" ++ toString (m + 1) from rfl]
      simp [String.toList_append]
    rw [chars] at hc
    rcases List.mem_cons.mp hc with rfl | hc
    · exact minus
    · exact digits (m + 1) c hc

/-- What stands between back quotes, with back quotes inside of it twice, is read as a whole. -/
theorem through_doubled (depth : Nat) : ∀ (cs : List Char) (lead : Char),
    through ⟨.quoted backquote, depth, lead⟩ (doubleBackquotes cs ++ [backquote]) =
      some ⟨.bare, depth, ' '⟩
  | [], lead => by
    have sign : isWord backquote = false := by decide
    simp [doubleBackquotes, through, Stand.begins, Stand.advance, sign, Stand.step]
  | c :: cs, lead => by
    have sign : isWord backquote = false := by decide
    have dollar : backquote ≠ '$' := by decide
    by_cases same : c = backquote
    · have rest := through_doubled depth cs ' '
      simp only [doubleBackquotes, same, if_true, List.cons_append, through, Stand.begins,
        Stand.advance, sign, Stand.step, dollar]
      simpa [Stand.stepBare, marks] using rest
    · have rest := fun lead => through_doubled depth cs lead
      simp only [doubleBackquotes, same, if_false, List.cons_append, through, Stand.begins,
        Stand.advance]
      by_cases word : isWord c <;> simpa [word, Stand.step, same] using rest _

/-- A name is silent, quoted or not. -/
theorem silent_quote (name : String) : Silent (quote name) := by
  unfold quote quoteChars
  split
  · next plain =>
    refine silent_of_harmless fun c hc => ?_
    rw [String.toList_ofList] at hc
    obtain ⟨first, w, start, word, shape⟩ := isPlainName_cases plain
    have lineBreak : IsHarmless '\n' := Or.inr (by decide)
    have whole : ∀ d ∈ first :: w, IsHarmless d := List.forall_mem_cons.mpr
      ⟨isHarmless_of_isNamePart (isNamePart_of_isNameStart start), fun d hd => Or.inl (word d hd)⟩
    rcases shape with chars | chars
    · exact whole c (chars ▸ hc)
    · rcases List.mem_append.mp (chars ▸ hc) with hc | hc
      · exact whole c hc
      · rwa [List.mem_singleton.mp hc]
  · have sign : isWord backquote = false := by decide
    refine ⟨' ', by decide, ?_⟩
    rw [String.toList_ofList, through, Stand.advance, sign, if_neg (by decide)]
    simpa [Stand.start, Stand.step, Stand.stepBare, marks] using through_doubled 0 name.toList ' '

/-! ### Texts that mention what is allowed -/

/-- A text that does not go on with the name before it. -/
def Delimits (cs : List Char) : Prop := ∀ c ∈ cs.head?, isWord c = false ∧ c ≠ backquote

/-- A text that leaves nothing open and mentions nothing but what is allowed, whatever follows that
does not go on with a name. -/
def NamesOnly (allowed : String → Prop) (text : String) : Prop :=
  ∀ depth rest, Delimits rest → ∃ names, (∀ n ∈ names, allowed n) ∧
    scan ⟨.bare, depth, ' '⟩ (text.toList ++ rest) =
      (scan ⟨.bare, depth, ' '⟩ rest).map fun found => (names ++ found.1, found.2)

/-- A silent text that does not go on with the name before it, whatever it stands before. -/
def IsSeam (text : String) : Prop :=
  Silent text ∧ ∃ c ∈ text.toList.head?, isWord c = false ∧ c ≠ backquote

instance (text : String) : Decidable (IsSeam text) :=
  decidable_of_iff (Silent text ∧
    (text.toList.head?.any fun c => !isWord c && c != backquote)) (by
      simp [IsSeam, Option.any_eq_true])

theorem IsSeam.delimits (h : IsSeam a) (rest : List Char) : Delimits (a.toList ++ rest) := by
  obtain ⟨-, c, first, apart⟩ := h
  intro d hd
  have : (a.toList ++ rest).head? = some c := by
    rw [List.head?_append, Option.mem_def.mp first]
    rfl
  rw [this] at hd
  rwa [← Option.some.inj hd]

theorem isSeam_blank : IsSeam " " := by decide

/-! ### Brackets -/

theorem Stand.advance_opening {c : Char} (h : c ∈ opening) (depth : Nat) :
    Stand.advance ⟨.bare, depth, ' '⟩ c = some ⟨.bare, depth + 1, ' '⟩ := by
  simp only [opening, List.mem_cons, List.not_mem_nil, or_false] at h
  rcases h with rfl | rfl | rfl <;> rfl

theorem Stand.advance_closing {c : Char} (h : c ∈ closing) (depth : Nat) :
    Stand.advance ⟨.bare, depth + 1, ' '⟩ c = some ⟨.bare, depth, ' '⟩ := by
  simp only [closing, List.mem_cons, List.not_mem_nil, or_false] at h
  rcases h with rfl | rfl | rfl <;> rfl

theorem Stand.not_begins_bracket {s : Stand} {c : Char} (h : c ∈ opening ∨ c ∈ closing) :
    ¬ s.begins c := by
  rintro ⟨-, rfl⟩
  exact absurd h (by decide)

theorem delimits_closing {c : Char} (h : c ∈ closing) (rest : List Char) : Delimits (c :: rest) := by
  intro d hd
  obtain rfl := Option.some.inj hd
  simp only [closing, List.mem_cons, List.not_mem_nil, or_false] at h
  rcases h with rfl | rfl | rfl <;> decide

theorem Silent.identity (h : Silent a) : Silent ("id(" ++ a ++ ")") := by
  obtain ⟨last, other, found⟩ := h
  have opened : through .start "id(".toList = some ⟨.bare, 1, ' '⟩ := by decide
  have closed : through ⟨.bare, 1, last⟩ ")".toList = some ⟨.bare, 0, ' '⟩ := by
    rw [show ")".toList = [')'] from rfl, through_lead other]
    decide
  refine ⟨' ', by decide, ?_⟩
  rw [String.toList_append, String.toList_append, through_append, through_append, opened,
    Option.bind_some, through_bare found 1, Option.bind_some, closed]

/-! ### Texts that mention what is allowed, put together -/

variable {allowed : String → Prop}

theorem Silent.namesOnly (h : Silent a) : NamesOnly allowed a := fun depth rest _ =>
  ⟨[], by simp, by simp [h.scan]⟩

theorem namesOnly_empty : NamesOnly allowed "" := silent_empty.namesOnly

theorem Silent.front (ha : Silent a) (hb : NamesOnly allowed b) : NamesOnly allowed (a ++ b) := by
  intro depth rest delimits
  rw [String.toList_append, List.append_assoc, ha.scan]
  exact hb depth rest delimits

namespace NamesOnly

theorem mono {wider : String → Prop} (h : NamesOnly allowed a) (more : ∀ n, allowed n → wider n) :
    NamesOnly wider a := fun depth rest delimits =>
  (h depth rest delimits).imp fun _ found => ⟨fun n hn => more n (found.1 n hn), found.2⟩

/-- What is behind a seam is read apart from what is before it. -/
theorem behind (ha : NamesOnly allowed a) {seam : String} (between : IsSeam seam)
    (hb : NamesOnly allowed b) : NamesOnly allowed (a ++ seam ++ b) := by
  intro depth rest delimits
  obtain ⟨second, bounded', found'⟩ := hb depth rest delimits
  obtain ⟨first, bounded, found⟩ := ha depth (seam.toList ++ (b.toList ++ rest)) (between.delimits _)
  refine ⟨first ++ second, ?_, ?_⟩
  · exact fun n hn => (List.mem_append.mp hn).elim (bounded n) (bounded' n)
  · simp only [String.toList_append, List.append_assoc]
    rw [found, between.1.scan, found', Option.map_map]
    simp [Function.comp_def]

theorem spaced (ha : NamesOnly allowed a) (hb : NamesOnly allowed b) :
    NamesOnly allowed (a ++ " " ++ b) := ha.behind isSeam_blank hb

theorem close (ha : NamesOnly allowed a) {seam : String} (h : IsSeam seam) :
    NamesOnly allowed (a ++ seam) := by
  have whole := ha.behind h namesOnly_empty
  rwa [String.append_empty] at whole

theorem brackets {front : String} (before : Silent front) (first last : Char)
    (opens : first ∈ opening) (closes : last ∈ closing) (ha : NamesOnly allowed a) {text : String}
    (cut : text.toList = front.toList ++ first :: (a.toList ++ [last])) :
    NamesOnly allowed text := by
  intro depth rest _
  obtain ⟨names, bounded, found⟩ := ha (depth + 1) (last :: rest) (delimits_closing closes rest)
  refine ⟨names, bounded, ?_⟩
  rw [cut, List.append_assoc, before.scan, List.cons_append, List.append_assoc,
    List.singleton_append, Cypher.scan, Stand.advance_opening opens, Option.bind_some, found,
    Cypher.scan, Stand.advance_closing closes, Option.bind_some]
  simp [Stand.not_begins_bracket (Or.inl opens), Stand.not_begins_bracket (Or.inr closes),
    Function.comp_def]

theorem parentheses (ha : NamesOnly allowed a) : NamesOnly allowed ("(" ++ a ++ ")") :=
  ha.brackets silent_empty '(' ')' (by decide) (by decide) (by simp [String.toList_append])

theorem identity (ha : NamesOnly allowed a) : NamesOnly allowed ("id(" ++ a ++ ")") :=
  ha.brackets (show Silent "id" by decide) '(' ')' (by decide) (by decide)
    (by simp [String.toList_append])

theorem parametersIn (h : NamesOnly allowed a) :
    ∃ names, Cypher.parametersIn a = some names ∧ ∀ n ∈ names, allowed n := by
  obtain ⟨names, bounded, found⟩ := h 0 [] (by simp [Delimits])
  refine ⟨names, ?_, bounded⟩
  rw [List.append_nil] at found
  rw [Cypher.parametersIn, Stand.start, found]
  simp [Cypher.scan]

theorem isReadable (h : NamesOnly allowed a) : IsReadable a := by
  obtain ⟨names, -, found⟩ := h 0 [] (by simp [Delimits])
  rw [List.append_nil] at found
  have whole : Cypher.scan .start a.toList = some (names, true) := by
    rw [Stand.start, found]
    simp [Cypher.scan, Stand.isAtRest]
  exact isReadable_of_scan whole

end NamesOnly

/-- What holds of texts holds of them joined, if it holds of two texts with the seam between them. -/
theorem joined_of_forall {seam : String} {holds : String → Prop} (empty : holds "")
    (behind : ∀ {a b : String}, holds a → holds b → holds (a ++ seam ++ b)) : ∀ {texts : List String},
    (∀ t ∈ texts, holds t) → holds (joined seam texts)
  | [], _ => empty
  | [t], h => by
    rw [joined, String.intercalate_singleton]
    exact h t (List.mem_singleton_self t)
  | t :: u :: rest, h => by
    obtain ⟨first, others⟩ := List.forall_mem_cons.mp h
    rw [joined, String.intercalate_cons_cons]
    exact behind first (joined_of_forall empty behind others)

theorem namesOnly_joined {seam : String} (between : IsSeam seam) {texts : List String}
    (h : ∀ t ∈ texts, NamesOnly allowed t) : NamesOnly allowed (joined seam texts) :=
  joined_of_forall namesOnly_empty (fun first second => first.behind between second) h

/-! ### Parameters -/

/-- The name under which the parameter of a binding is mentioned. -/
def spoken (name : String) : String := parameterName (quote name).toList

theorem quotedName_doubled (rest : List Char) (delimits : Delimits rest) : ∀ cs : List Char,
    quotedName (doubleBackquotes cs ++ backquote :: rest) = cs
  | [] => by
    cases rest with
    | nil => simp [doubleBackquotes, quotedName]
    | cons d ds =>
      have other := (delimits d rfl).2
      simp [doubleBackquotes, quotedName, other]
  | c :: cs => by
    have ih := quotedName_doubled rest delimits cs
    by_cases same : c = backquote
    · simp [doubleBackquotes, same, quotedName, ih]
    · cases more : doubleBackquotes cs ++ backquote :: rest with
      | nil => simp at more
      | cons d ds =>
        rw [more] at ih
        simp [doubleBackquotes, same, more, quotedName, ih]

theorem takeWhile_word_append {rest : List Char} (delimits : Delimits rest) (cs : List Char) :
    (cs ++ rest).takeWhile isWord = cs.takeWhile isWord := by
  rw [List.takeWhile_append]
  split
  · next all =>
    have none : rest.takeWhile isWord = [] := by
      cases rest with
      | nil => rfl
      | cons d ds => simp [(delimits d rfl).1]
    rw [none, List.append_nil, (List.takeWhile_prefix isWord).eq_of_length all]
  · rfl

theorem ne_backquote_of_isNameStart {c : Char} (h : isNameStart c = true) : c ≠ backquote := by
  rintro rfl
  exact absurd h (by decide)

theorem not_backquote_of_isPlainName {cs : List Char} (plain : isPlainName cs = true) :
    ∃ c rest, cs = c :: rest ∧ c ≠ backquote := by
  obtain ⟨c, w, start, -, shape | shape⟩ := isPlainName_cases plain
  · exact ⟨c, w, shape, ne_backquote_of_isNameStart start⟩
  · exact ⟨c, w ++ ['\n'], shape, ne_backquote_of_isNameStart start⟩

theorem parameterName_quote (name : String) {rest : List Char} (delimits : Delimits rest) :
    parameterName ((quote name).toList ++ rest) = spoken name := by
  unfold spoken parameterName quote quoteChars
  split
  · next plain =>
    obtain ⟨c, cs, chars, first⟩ := not_backquote_of_isPlainName plain
    simp only [chars, String.toList_ofList, List.cons_append, List.head?_cons, Option.some.injEq, first,
      if_false]
    exact congrArg String.ofList (takeWhile_word_append delimits (c :: cs))
  · simp only [String.toList_ofList, List.cons_append, List.head?_cons, if_true, List.drop_succ_cons,
      List.drop_zero, List.append_assoc, List.nil_append]
    rw [quotedName_doubled rest delimits, quotedName_doubled [] (by simp [Delimits])]

/-- Without a line break, a parameter is mentioned under the name of its binding. -/
theorem spoken_eq {name : String} (h : '\n' ∉ name.toList) : spoken name = name := by
  unfold spoken parameterName quote quoteChars
  split
  · next plain =>
    obtain ⟨c, w, start, word, shape⟩ := isPlainName_cases plain
    rcases shape with chars | chars
    · have first : c ≠ backquote := ne_backquote_of_isNameStart start
      have whole : (c :: w).takeWhile isWord = c :: w := List.takeWhile_eq_self_iff.mpr
        (List.forall_mem_cons.mpr ⟨isWord_of_isNamePart (isNamePart_of_isNameStart start), word⟩)
      simp only [chars, String.toList_ofList, List.head?_cons, Option.some.injEq, first, if_false, whole]
      rw [← chars, String.ofList_toList]
    · exact absurd (chars ▸ by simp) h
  · simp only [String.toList_ofList, List.head?_cons, if_true, List.drop_succ_cons, List.drop_zero]
    rw [quotedName_doubled [] (by simp [Delimits]), String.ofList_toList]

theorem Stand.advance_dollar (depth : Nat) :
    Stand.advance ⟨.bare, depth, ' '⟩ '$' = some ⟨.bare, depth, '$'⟩ := by
  have sign : isWord '$' = false := by decide
  simp [Stand.advance, sign, Stand.step, Stand.stepBare, marks, opening, closing, backquote]

theorem namesOnly_parameter {name : String} (h : allowed (spoken name)) :
    NamesOnly allowed (parameter name) := by
  have texts : (parameter name).toList = '$' :: (quote name).toList := by
    simp [parameter, String.toList_append]
  intro depth rest delimits
  refine ⟨[spoken name], by simpa using h, ?_⟩
  rw [texts, List.cons_append, scan, Stand.advance_dollar, Option.bind_some,
    parameterName_quote name delimits, scan_lead (by decide), (silent_quote name).scan]
  simp [Stand.begins]

end GraphQuery.Cypher
