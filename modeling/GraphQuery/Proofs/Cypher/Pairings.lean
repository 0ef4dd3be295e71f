import GraphQuery.Proofs.Cypher.Mentions

/-! # What stands before a parameter

`mentions` reads a text as `scan` does, and tells for every parameter what stands before it.

* `Pairing` : what stands right before a parameter, and the name of that parameter.
* `Carries pairings text` : a text that leaves nothing open and mentions one parameter for each pairing,
  in this order and none besides, whatever follows that does not go on with a name.

The laws are those of texts that mention what is allowed: what a part of a text carries, the whole
carries (`Silent.carries`, `Carries.behind`, `Carries.brackets`, `carries_joined`). -/

namespace GraphQuery.Cypher

open GraphQuery.Text

/-- A mention of a parameter: what stands before it, and its name. -/
structure Mention where
  before : List Char
  name : String
deriving DecidableEq, Repr

/-- The mentions from some place on, and whether nothing is left open at the end. -/
def mentions : (s : Stand) → (before : List Char) → List Char → Option (List Mention × Bool)
  | s, _, [] => some ([], decide s.isAtRest)
  | s, before, c :: cs =>
    (s.advance c).bind fun after => (mentions after (before ++ [c]) cs).map fun found =>
      (if s.begins c then ⟨before, parameterName cs⟩ :: found.1 else found.1, found.2)

/-- The mentions of a text. -/
def mentionsIn (text : String) : Option (List Mention) := (mentions .start [] text.toList).map (·.1)

/-- The names are those of the parameters that a reader finds. -/
theorem scan_eq_mentions : ∀ (cs : List Char) (s : Stand) (before : List Char),
    scan s cs = (mentions s before cs).map fun found => (found.1.map (·.name), found.2)
  | [], _, _ => rfl
  | c :: cs, s, before => by
    cases step : s.advance c with
    | none => simp [scan, mentions, step]
    | some after =>
      rw [scan, mentions, step, Option.bind_some, Option.bind_some,
        scan_eq_mentions cs after (before ++ [c]), Option.map_map, Option.map_map]
      refine congrArg (Option.map · _) (funext fun found => ?_)
      by_cases begins : s.begins c <;> simp [begins]

theorem parametersIn_of_mentionsIn {text : String} {found : List Mention}
    (h : mentionsIn text = some found) : parametersIn text = some (found.map (·.name)) := by
  obtain ⟨whole, read, rfl⟩ := Option.map_eq_some_iff.mp h
  rw [parametersIn, scan_eq_mentions _ _ [], read]
  rfl

/-! ### Silent parts -/

theorem mentions_through : ∀ {cs : List Char} {s t : Stand}, through s cs = some t →
    ∀ before rest, mentions s before (cs ++ rest) = mentions t (before ++ cs) rest
  | [], _, _, h, before, rest => by
    rw [← Option.some.inj h, List.nil_append, List.append_nil]
  | c :: cs, s, t, h, before, rest => by
    obtain ⟨begins, after, step, h⟩ := through_cons_eq_some.mp h
    simp only [List.cons_append, mentions, step, Option.bind_some, mentions_through h, begins, if_false]
    simp

theorem mentions_lead {depth : Nat} {lead : Char} (h : lead ≠ '/') (before : List Char) :
    ∀ cs : List Char, mentions ⟨.bare, depth, lead⟩ before cs = mentions ⟨.bare, depth, ' '⟩ before cs
  | [] => rfl
  | c :: cs => by
    simp only [mentions, Stand.advance_lead h]
    rfl

variable {a b : String}

/-- Silent texts are read apart from what follows. -/
theorem Silent.mentions (h : Silent a) (depth : Nat) (before rest : List Char) :
    mentions ⟨.bare, depth, ' '⟩ before (a.toList ++ rest) =
      mentions ⟨.bare, depth, ' '⟩ (before ++ a.toList) rest := by
  obtain ⟨last, other, found⟩ := h
  rw [mentions_through (through_bare found depth), mentions_lead other]

/-! ### Pairings -/

/-- What stands right before a parameter, and the name of that parameter. -/
structure Pairing where
  lead : String
  name : String
deriving DecidableEq, Repr

/-- A mention that a pairing stands for. -/
def Pairing.Shown (p : Pairing) (m : Mention) : Prop := p.lead.toList <:+ m.before ∧ m.name = p.name

instance (p : Pairing) (m : Mention) : Decidable (p.Shown m) := inferInstanceAs (Decidable (_ ∧ _))

theorem names_of_shown {ps : List Pairing} {found : List Mention}
    (h : List.Forall₂ Pairing.Shown ps found) : found.map (·.name) = ps.map (·.name) := by
  induction h with
  | nil => rfl
  | cons first _ ih => rw [List.map_cons, List.map_cons, first.2, ih]

/-- A text that leaves nothing open and mentions one parameter for each pairing, in this order, whatever
follows that does not go on with a name. -/
def Carries (pairings : List Pairing) (text : String) : Prop :=
  ∀ depth before rest, Delimits rest → ∃ found, List.Forall₂ Pairing.Shown pairings found ∧
    mentions ⟨.bare, depth, ' '⟩ before (text.toList ++ rest) =
      (mentions ⟨.bare, depth, ' '⟩ (before ++ text.toList) rest).map fun later =>
        (found ++ later.1, later.2)

theorem Silent.carries_nil (h : Silent a) : Carries [] a := fun depth before rest _ =>
  ⟨[], .nil, by simp [h.mentions]⟩

variable {ps qs : List Pairing}

theorem Silent.carries (ha : Silent a) (hb : Carries ps b) : Carries ps (a ++ b) := by
  intro depth before rest delimits
  rw [String.toList_append, List.append_assoc, ha.mentions, ← List.append_assoc]
  exact hb depth (before ++ a.toList) rest delimits

theorem carries_parameter {lead : String} (silent : Silent lead) (name : String) :
    Carries [⟨lead, spoken name⟩] (lead ++ parameter name) := by
  have texts : (parameter name).toList = '$' :: (quote name).toList := by
    simp [parameter, String.toList_append]
  intro depth before rest delimits
  refine ⟨[⟨before ++ lead.toList, spoken name⟩], .cons ⟨List.suffix_append .., rfl⟩ .nil, ?_⟩
  rw [String.toList_append, List.append_assoc, silent.mentions, texts, List.cons_append,
    Cypher.mentions, Stand.advance_dollar, Option.bind_some, parameterName_quote name delimits,
    mentions_lead (by decide), (silent_quote name).mentions]
  simp [Stand.begins]

namespace Carries

/-- What is behind a seam is read apart from what is before it. -/
theorem behind (ha : Carries ps a) {seam : String} (between : IsSeam seam) (hb : Carries qs b) :
    Carries (ps ++ qs) (a ++ seam ++ b) := by
  intro depth before rest delimits
  obtain ⟨second, shown', read'⟩ := hb depth (before ++ a.toList ++ seam.toList) rest delimits
  obtain ⟨first, shown, read⟩ :=
    ha depth before (seam.toList ++ (b.toList ++ rest)) (between.delimits _)
  refine ⟨first ++ second, List.rel_append shown shown', ?_⟩
  simp only [String.toList_append, List.append_assoc] at read' ⊢
  rw [read, between.1.mentions, List.append_assoc, read', Option.map_map]
  simp [Function.comp_def]

theorem spaced (ha : Carries ps a) (hb : Carries qs b) : Carries (ps ++ qs) (a ++ " " ++ b) :=
  ha.behind isSeam_blank hb

theorem close (ha : Carries ps a) {seam : String} (between : IsSeam seam) (silent : Silent b) :
    Carries ps (a ++ seam ++ b) := by
  simpa using ha.behind between silent.carries_nil

theorem brackets {front : String} (silent : Silent front) (first last : Char)
    (opens : first ∈ opening) (closes : last ∈ closing) (ha : Carries ps a) {text : String}
    (cut : text.toList = front.toList ++ first :: (a.toList ++ [last])) : Carries ps text := by
  intro depth before rest _
  obtain ⟨found, shown, read⟩ := ha (depth + 1) (before ++ front.toList ++ [first]) (last :: rest)
    (delimits_closing closes rest)
  refine ⟨found, shown, ?_⟩
  rw [cut, List.append_assoc, silent.mentions, List.cons_append, List.append_assoc,
    List.singleton_append, Cypher.mentions, Stand.advance_opening opens, Option.bind_some, read,
    Cypher.mentions, Stand.advance_closing closes, Option.bind_some]
  simp [Stand.not_begins_bracket (Or.inl opens), Stand.not_begins_bracket (Or.inr closes),
    Function.comp_def]

theorem parentheses (ha : Carries ps a) : Carries ps ("(" ++ a ++ ")") :=
  ha.brackets silent_empty '(' ')' (by decide) (by decide) (by simp [String.toList_append])

theorem mentionsIn (h : Carries ps a) :
    ∃ found, Cypher.mentionsIn a = some found ∧ List.Forall₂ Pairing.Shown ps found := by
  obtain ⟨found, shown, read⟩ := h 0 [] [] (by simp [Delimits])
  refine ⟨found, ?_, shown⟩
  rw [List.append_nil, List.nil_append] at read
  rw [Cypher.mentionsIn, Stand.start, read]
  simp [Cypher.mentions]

/-- Such a text mentions what is allowed, if the names of its pairings are. -/
theorem namesOnly (h : Carries ps a) {allowed : String → Prop} (names : ∀ p ∈ ps, allowed p.name) :
    NamesOnly allowed a := by
  intro depth rest delimits
  obtain ⟨found, shown, read⟩ := h depth [] rest delimits
  refine ⟨found.map (·.name), ?_, ?_⟩
  · rw [names_of_shown shown]
    exact List.forall_mem_map.mpr names
  · rw [scan_eq_mentions _ _ [], read, scan_eq_mentions rest _ ([] ++ a.toList), Option.map_map,
      Option.map_map]
    simp [Function.comp_def]

end Carries

/-- Texts with a seam between them. -/
theorem carries_joined {seam : String} (between : IsSeam seam) {carried : List (List Pairing)}
    {texts : List String} (h : List.Forall₂ Carries carried texts) :
    Carries carried.flatten (joined seam texts) := by
  induction h with
  | nil => exact silent_empty.carries_nil
  | cons first rest ih =>
    cases rest with
    | nil =>
      rw [joined, String.intercalate_singleton, List.flatten_singleton]
      exact first
    | cons second others =>
      rw [joined, String.intercalate_cons_cons, List.flatten_cons]
      exact first.behind between ih

end GraphQuery.Cypher
