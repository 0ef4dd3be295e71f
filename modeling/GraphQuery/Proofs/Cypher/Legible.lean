import GraphQuery.Proofs.Cypher.Mentions

/-! # Legible texts

A text is *legible* if it leaves nothing open, whatever it mentions.  What follows it does not change how
it is read then, unless it goes on with a name (`Legible.scan`).

* `namesOnly_iff` : a text that mentions nothing but what is allowed is a legible text whose names are
  allowed.
* `namesOnly_behind_iff`, `namesOnly_front_iff`, `namesOnly_brackets_iff`, `namesOnly_joined_iff` : a text
  that is put together from legible ones mentions what each of them mentions. -/

namespace GraphQuery.Cypher

open GraphQuery.Text

/-! ### Where a reader comes to -/

/-- Where a reader stands behind a text, whatever it mentions. -/
def reach (s : Stand) (cs : List Char) : Option Stand := cs.foldlM Stand.advance s

@[simp] theorem reach_cons (s : Stand) (c : Char) (cs : List Char) :
    reach s (c :: cs) = (s.advance c).bind (reach · cs) := rfl

theorem reach_of_scan : ∀ {cs : List Char} {s : Stand} {names : List String} {closed : Bool},
    scan s cs = some (names, closed) → ∃ t, reach s cs = some t ∧ closed = decide t.isAtRest
  | [], s, names, closed, h => ⟨s, rfl, (Prod.mk.inj (Option.some.inj h)).2.symm⟩
  | c :: cs, s, names, closed, h => by
    obtain ⟨after, step, h⟩ := Option.bind_eq_some_iff.mp h
    obtain ⟨⟨found, closed'⟩, read, e⟩ := Option.map_eq_some_iff.mp h
    obtain rfl : closed' = closed := (Prod.mk.inj e).2
    obtain ⟨t, there, same⟩ := reach_of_scan read
    exact ⟨t, by rw [reach_cons, step, Option.bind_some, there], same⟩

theorem reach_of_through : ∀ {cs : List Char} {s t : Stand}, through s cs = some t → reach s cs = some t
  | [], _, _, h => h
  | c :: cs, s, t, h => by
    obtain ⟨-, after, step, h⟩ := through_cons_eq_some.mp h
    rw [reach_cons, step, Option.bind_some, reach_of_through h]

/-- A text is read the same way one bracket deeper. -/
theorem scan_deeper : ∀ {cs : List Char} {s : Stand} {names : List String} {closed : Bool},
    scan s cs = some (names, closed) → ∃ closed', scan s.deeper cs = some (names, closed')
  | [], s, names, closed, h =>
    ⟨decide s.deeper.isAtRest, by rw [← (Prod.mk.inj (Option.some.inj h)).1, scan]⟩
  | c :: cs, s, names, closed, h => by
    obtain ⟨after, step, h⟩ := Option.bind_eq_some_iff.mp h
    obtain ⟨⟨found, closed'⟩, read, e⟩ := Option.map_eq_some_iff.mp h
    obtain ⟨deep, again⟩ := scan_deeper read
    have same : s.deeper.begins c ↔ s.begins c := Iff.rfl
    refine ⟨deep, ?_⟩
    simp only [scan, Stand.advance_deeper step, Option.bind_some, again, Option.map_some, same]
    rw [← (Prod.mk.inj e).1]

theorem reach_deeper : ∀ {cs : List Char} {s t : Stand}, reach s cs = some t →
    reach s.deeper cs = some t.deeper
  | [], _, _, h => congrArg (Option.map Stand.deeper) h
  | c :: cs, s, t, h => by
    obtain ⟨after, step, h⟩ := Option.bind_eq_some_iff.mp (reach_cons s c cs ▸ h)
    rw [reach_cons, Stand.advance_deeper step, Option.bind_some, reach_deeper h]

/-! ### What follows a text -/

theorem Stand.advance_backquote (depth : Nat) (lead : Char) :
    Stand.advance ⟨.bare, depth, lead⟩ backquote = some ⟨.quoted backquote, depth, ' '⟩ := by
  have sign : isWord backquote = false := by decide
  simp [Stand.advance, sign, Stand.step, Stand.stepBare, marks]

theorem Stand.advance_quoted_self (depth : Nat) (lead : Char) :
    Stand.advance ⟨.quoted backquote, depth, lead⟩ backquote = some ⟨.bare, depth, ' '⟩ := by
  have sign : isWord backquote = false := by decide
  simp [Stand.advance, sign, Stand.step]

theorem Stand.advance_quoted {c : Char} (other : c ≠ backquote) (depth : Nat) (lead : Char) :
    ∃ last, Stand.advance ⟨.quoted backquote, depth, lead⟩ c = some ⟨.quoted backquote, depth, last⟩ := by
  unfold Stand.advance
  split
  · exact ⟨'_', rfl⟩
  · exact ⟨c, by simp [Stand.step, other]⟩

variable {rest : List Char}

theorem quotedName_append (delimits : Delimits rest) : ∀ {cs : List Char} {depth : Nat} {lead : Char}
    {t : Stand}, reach ⟨.quoted backquote, depth, lead⟩ cs = some t → t.place = .bare →
      quotedName (cs ++ rest) = quotedName cs
  | [], _, _, _, h, closed => by
    obtain rfl := Option.some.inj h
    cases closed
  | [a], depth, lead, t, h, closed => by
    by_cases same : a = backquote
    · subst same
      cases rest with
      | nil => rfl
      | cons d ds => simp [quotedName, (delimits d rfl).2]
    · obtain ⟨last, step⟩ := Stand.advance_quoted same depth lead
      rw [reach_cons, step] at h
      obtain rfl := Option.some.inj h
      cases closed
  | a :: b :: cs, depth, lead, t, h, closed => by
    by_cases same : a = backquote
    · subst same
      rw [reach_cons, Stand.advance_quoted_self, Option.bind_some] at h
      by_cases again : b = backquote
      · subst again
        rw [reach_cons, Stand.advance_backquote, Option.bind_some] at h
        simp [quotedName, quotedName_append delimits h closed]
      · simp [quotedName, again]
    · obtain ⟨last, step⟩ := Stand.advance_quoted same depth lead
      rw [reach_cons, step, Option.bind_some] at h
      have later := quotedName_append delimits h closed
      simp only [List.cons_append, quotedName, same, if_false] at later ⊢
      rw [later]

/-- A name is the same if nothing is left open behind it. -/
theorem parameterName_append (delimits : Delimits rest) {cs : List Char} {depth : Nat} {t : Stand}
    (h : reach ⟨.bare, depth, '$'⟩ cs = some t) (closed : t.place = .bare) :
    parameterName (cs ++ rest) = parameterName cs := by
  have words : (cs ++ rest).takeWhile isWord = cs.takeWhile isWord := takeWhile_word_append delimits cs
  unfold parameterName
  cases cs with
  | nil =>
    have other : rest.head? ≠ some backquote := fun same => (delimits _ same).2 rfl
    rw [if_neg (by rwa [List.nil_append]), if_neg (by simp), words]
  | cons c cs =>
    rw [words]
    by_cases quoted : c = backquote
    · subst quoted
      rw [reach_cons, Stand.advance_backquote, Option.bind_some] at h
      simp [quotedName_append delimits h closed]
    · simp [quoted]

/-- What follows a text adds its own names to those of the text. -/
theorem scan_append (delimits : Delimits rest) : ∀ {cs : List Char} {s t : Stand},
    reach s cs = some t → t.place = .bare → ∃ names, scan s cs = some (names, decide t.isAtRest) ∧
      scan s (cs ++ rest) = (scan t rest).map fun found => (names ++ found.1, found.2)
  | [], s, t, h, _ => by
    obtain rfl := Option.some.inj h
    exact ⟨[], rfl, by simp⟩
  | c :: cs, s, t, h, closed => by
    obtain ⟨after, step, h⟩ := Option.bind_eq_some_iff.mp (reach_cons s c cs ▸ h)
    obtain ⟨names, alone, followed⟩ := scan_append delimits h closed
    by_cases begins : s.begins c
    · obtain ⟨place, depth, lead⟩ := s
      obtain ⟨rfl, rfl⟩ : place = .bare ∧ c = '$' := begins
      have dollar : Stand.begins ⟨.bare, depth, lead⟩ '$' := ⟨rfl, rfl⟩
      have behind : after = ⟨.bare, depth, '$'⟩ := by
        have sign : isWord '$' = false := by decide
        simpa [Stand.advance, sign, Stand.step, Stand.stepBare, marks, opening, closing, backquote]
          using step.symm
      subst behind
      refine ⟨parameterName cs :: names, ?_, ?_⟩
      · simp [scan, step, alone, dollar]
      · rw [List.cons_append, scan, step, Option.bind_some, followed,
          parameterName_append delimits h closed]
        simp [Function.comp_def, dollar]
    · refine ⟨names, ?_, ?_⟩
      · simp [scan, step, alone, begins]
      · simp [scan, step, followed, begins]

/-! ### Legible texts -/

/-- A text that leaves nothing open, not even what could become the beginning of a comment. -/
def Legible (text : String) : Prop :=
  ∃ last, last ≠ '/' ∧ reach .start text.toList = some ⟨.bare, 0, last⟩

/-- The names that a text mentions; there are none if it cannot be read. -/
def namesIn (text : String) : List String := (parametersIn text).getD []

variable {a b : String} {allowed : String → Prop}

theorem Silent.legible (h : Silent a) : Legible a :=
  h.imp fun _ found => ⟨found.1, reach_of_through found.2⟩

theorem Legible.scan (h : Legible a) (delimits : Delimits rest) (depth : Nat) :
    scan ⟨.bare, depth, ' '⟩ (a.toList ++ rest) =
      (scan ⟨.bare, depth, ' '⟩ rest).map fun found => (namesIn a ++ found.1, found.2) := by
  obtain ⟨last, other, reached⟩ := h
  have below : ∀ depth : Nat, reach ⟨.bare, depth, ' '⟩ a.toList = some ⟨.bare, depth, last⟩ ∧
      ∃ closed, Cypher.scan ⟨.bare, depth, ' '⟩ a.toList = some (namesIn a, closed) := by
    intro depth
    induction depth with
    | zero =>
      obtain ⟨names, alone, -⟩ := scan_append delimits reached rfl
      refine ⟨reached, decide (Stand.isAtRest ⟨.bare, 0, last⟩), ?_⟩
      have same : namesIn a = names := by
        unfold namesIn parametersIn
        rw [alone]
        rfl
      exact same ▸ alone
    | succ depth ih =>
      obtain ⟨there, closed, read⟩ := ih
      exact ⟨reach_deeper there, scan_deeper read⟩
  obtain ⟨there, closed, read⟩ := below depth
  obtain ⟨names, alone, followed⟩ := scan_append delimits there rfl
  obtain ⟨rfl, -⟩ := Prod.mk.inj (Option.some.inj (alone.symm.trans read))
  rw [followed, scan_lead other]

theorem Legible.namesOnly (h : Legible a) (names : ∀ n ∈ namesIn a, allowed n) : NamesOnly allowed a :=
  fun depth _ delimits => ⟨namesIn a, names, h.scan delimits depth⟩

theorem NamesOnly.legible (h : NamesOnly allowed a) : Legible a := by
  have slash : Delimits ['/'] := by
    intro c hc
    obtain rfl := Option.some.inj hc
    decide
  obtain ⟨names, -, alone⟩ := h 0 [] (by simp [Delimits])
  rw [List.append_nil, Cypher.scan] at alone
  obtain ⟨⟨place, depth, last⟩, reached, rest⟩ := reach_of_scan alone
  obtain ⟨rfl, rfl⟩ : place = .bare ∧ depth = 0 := of_decide_eq_true rest.symm
  refine ⟨last, ?_, reached⟩
  -- behind a slash, another one would begin a comment, which is never closed
  rintro rfl
  obtain ⟨names', -, open'⟩ := h 0 ['/'] slash
  obtain ⟨names'', -, followed⟩ := scan_append slash reached rfl
  have closed : (Cypher.scan ⟨.bare, 0, ' '⟩ ['/']).map Prod.snd = some true := by decide
  have comment : (Cypher.scan ⟨.bare, 0, '/'⟩ ['/']).map Prod.snd = some false := by decide
  have both := congrArg (Option.map Prod.snd) (open'.symm.trans followed)
  rw [Option.map_map, Option.map_map] at both
  exact absurd (closed.symm.trans (both.trans comment)) (by decide)

/-- A text that mentions nothing but what is allowed is a legible text whose names are allowed. -/
theorem namesOnly_iff : NamesOnly allowed a ↔ Legible a ∧ ∀ n ∈ namesIn a, allowed n := by
  refine ⟨fun h => ⟨h.legible, ?_⟩, fun h => h.1.namesOnly h.2⟩
  obtain ⟨names, read, bounded⟩ := h.parametersIn
  rwa [namesIn, read]

theorem legible_iff : Legible a ↔ NamesOnly (fun _ => True) a :=
  ⟨fun h => h.namesOnly fun _ _ => trivial, NamesOnly.legible⟩

theorem Legible.parametersIn_eq (h : Legible a) : parametersIn a = some (namesIn a) := by
  obtain ⟨names, read, -⟩ := (legible_iff.mp h).parametersIn
  rw [namesIn, read]
  rfl

/-! ### Legible texts put together -/

theorem namesIn_eq {names : List String} (h : scan .start a.toList = some (names, true)) :
    namesIn a = names := by
  unfold namesIn parametersIn
  rw [h]
  rfl

theorem Legible.scan_self (h : Legible a) : Cypher.scan .start a.toList = some (namesIn a, true) := by
  have whole := h.scan (show Delimits [] by simp [Delimits]) 0
  rw [List.append_nil] at whole
  exact whole.trans (by simp [Cypher.scan, Stand.isAtRest])

theorem namesOnly_behind_iff {seam : String} (ha : Legible a) (between : IsSeam seam) (hb : Legible b) :
    NamesOnly allowed (a ++ seam ++ b) ↔ NamesOnly allowed a ∧ NamesOnly allowed b := by
  refine ⟨fun h => ?_, fun h => h.1.behind between h.2⟩
  have names : namesIn (a ++ seam ++ b) = namesIn a ++ namesIn b := by
    refine namesIn_eq ?_
    rw [String.toList_append, String.toList_append, List.append_assoc, Stand.start,
      ha.scan (between.delimits _), between.1.scan, ← Stand.start, hb.scan_self]
    rfl
  have allowed := (namesOnly_iff.mp h).2
  rw [names] at allowed
  exact ⟨ha.namesOnly fun n hn => allowed n (List.mem_append_left _ hn),
    hb.namesOnly fun n hn => allowed n (List.mem_append_right _ hn)⟩

theorem namesOnly_front_iff (ha : Silent a) (hb : Legible b) :
    NamesOnly allowed (a ++ b) ↔ NamesOnly allowed b := by
  refine ⟨fun h => hb.namesOnly ?_, ha.front⟩
  have names : namesIn (a ++ b) = namesIn b := by
    refine namesIn_eq ?_
    rw [String.toList_append, Stand.start, ha.scan, ← Stand.start, hb.scan_self]
  exact names ▸ (namesOnly_iff.mp h).2

theorem namesOnly_close_iff {seam : String} (ha : Legible a) (h : IsSeam seam) :
    NamesOnly allowed (a ++ seam) ↔ NamesOnly allowed a := by
  have whole : NamesOnly allowed (a ++ seam ++ "") ↔ _ := namesOnly_behind_iff ha h silent_empty.legible
  rw [String.append_empty] at whole
  exact whole.trans (and_iff_left namesOnly_empty)

theorem namesOnly_brackets_iff {front : String} (before : Silent front) {first last : Char}
    (opens : first ∈ opening) (closes : last ∈ closing) (ha : Legible a) {text : String}
    (cut : text.toList = front.toList ++ first :: (a.toList ++ [last])) :
    NamesOnly allowed text ↔ NamesOnly allowed a := by
  refine ⟨fun h => ha.namesOnly ?_, fun h => h.brackets before first last opens closes cut⟩
  have names : namesIn text = namesIn a := by
    refine namesIn_eq ?_
    rw [cut, Stand.start, before.scan, Cypher.scan, Stand.advance_opening opens, Option.bind_some,
      ha.scan (delimits_closing closes []), Cypher.scan, Stand.advance_closing closes, Option.bind_some]
    simp [Cypher.scan, Stand.isAtRest, Stand.not_begins_bracket (Or.inl opens),
      Stand.not_begins_bracket (Or.inr closes)]
  exact names ▸ (namesOnly_iff.mp h).2

/-- Texts with a seam between them mention what each of them mentions. -/
theorem namesOnly_joined_iff {seam : String} (between : IsSeam seam) : ∀ {texts : List String},
    (∀ t ∈ texts, Legible t) → (NamesOnly allowed (joined seam texts) ↔ ∀ t ∈ texts, NamesOnly allowed t)
  | [], _ => ⟨fun _ => by simp, fun _ => namesOnly_empty⟩
  | [t], _ => by
    rw [joined, String.intercalate_singleton, List.forall_mem_singleton]
  | t :: u :: rest, h => by
    obtain ⟨first, later⟩ := List.forall_mem_cons.mp h
    have legible : Legible (joined seam (u :: rest)) := legible_iff.mpr
      (namesOnly_joined between fun x hx => legible_iff.mp (later x hx))
    rw [joined, String.intercalate_cons_cons, List.forall_mem_cons,
      ← namesOnly_joined_iff between later]
    exact namesOnly_behind_iff first between legible

end GraphQuery.Cypher
