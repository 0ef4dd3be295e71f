import GraphQuery.Proofs.Binding.FreshName
import GraphQuery.Proofs.Outcome
import GraphQuery.Query.Resolve

/-! # Plain names

The placeholder of labels is a plain name of small letters, digits and low lines
(`placeholderOf_isPlaceholder`), and so the name under which the identity of a node is bound is a plain name
(`firstFree_isIdentifier`), whatever number it gets.  Such a name is written as it is.

What columns that are given as texts stand for is told by `Query.Resolves`, with one case for each of their
forms (`Query.resolves_of_resolveText`). -/

namespace GraphQuery

open GraphQuery.Text GraphQuery.Binding

namespace Cypher

/-- Whether a text has characters of plain names alone. -/
def IsPlainText (text : String) : Prop := ∀ c ∈ text.toList, isNamePart c = true

instance (text : String) : Decidable (IsPlainText text) :=
  List.decidableBAll (fun c => isNamePart c = true) text.toList

/-- Whether a text is a plain name. -/
def IsIdentifier (text : String) : Prop :=
  ∃ c cs, text.toList = c :: cs ∧ isNameStart c = true ∧ ∀ d ∈ cs, isNamePart d = true

theorem IsIdentifier.isPlainText {text : String} (h : IsIdentifier text) : IsPlainText text := by
  obtain ⟨c, cs, chars, hc, hcs⟩ := h
  intro d hd
  rw [chars] at hd
  rcases List.mem_cons.mp hd with rfl | hd
  · exact isNamePart_of_isNameStart hc
  · exact hcs d hd

theorem IsIdentifier.ne_empty {text : String} (h : IsIdentifier text) : text ≠ "" := by
  obtain ⟨c, cs, chars, -, -⟩ := h
  rintro rfl
  cases chars

theorem isIdentifier_of_all {text : String} (c : Char) (cs : List Char) (chars : text.toList = c :: cs)
    (first : isNameStart c = true) (others : cs.all isNamePart = true) : IsIdentifier text :=
  ⟨c, cs, chars, first, List.all_eq_true.mp others⟩

theorem IsIdentifier.append {a b : String} (h : IsIdentifier a) (plain : IsPlainText b) :
    IsIdentifier (a ++ b) := by
  obtain ⟨c, cs, chars, hc, hcs⟩ := h
  refine ⟨c, cs ++ b.toList, by rw [String.toList_append, chars, List.cons_append], hc, fun d hd => ?_⟩
  exact (List.mem_append.mp hd).elim (hcs d) (plain d)

theorem isWord_of_isNamePart {c : Char} (h : isNamePart c = true) : isWord c = true := by
  simp only [isNamePart, isNameStart, Bool.or_eq_true, Bool.and_eq_true, beq_iff_eq,
    decide_eq_true_eq] at h
  rcases h with ((rfl | h) | h) | h
  · decide
  all_goals
    have small : c.toNat < 128 := by omega
    simp only [isWord, isLetter, isPlainLetter, isNumeral, small, if_true]
    simp
    omega

theorem isBlank_of_isNamePart {c : Char} (h : isNamePart c = true) : isBlank c = false := by
  simp only [isNamePart, isNameStart, Bool.or_eq_true, Bool.and_eq_true, beq_iff_eq,
    decide_eq_true_eq] at h
  rcases h with ((rfl | h) | h) | h
  · decide
  all_goals
    have small : c.toNat < 128 := by omega
    simp only [isBlank, small, if_true]
    simp
    omega

theorem isPlainRest_of_isNamePart {cs : List Char} (h : ∀ c ∈ cs, isNamePart c = true) :
    isPlainRest cs = true := by
  induction cs with
  | nil => rfl
  | cons c cs ih =>
    have hc := h c (List.mem_cons_self ..)
    have hrest := ih fun d hd => h d (List.mem_cons_of_mem _ hd)
    unfold isPlainRest
    split
    · rfl
    · rfl
    · simp_all

/-- A plain name consists of name characters, but for a line break at its end. -/
theorem isNamePart_of_mem_isPlainName {cs : List Char} (h : isPlainName cs = true) {c : Char}
    (hc : c ∈ cs) : isNamePart c = true ∨ c = '\n' := by
  have rest : ∀ {cs : List Char}, isPlainRest cs = true → ∀ c ∈ cs, isNamePart c = true ∨ c = '\n' := by
    intro cs
    fun_induction isPlainRest cs with
    | case1 => simp
    | case2 => simp
    | case3 d ds other ih =>
      intro h
      obtain ⟨part, others⟩ := (Bool.and_eq_true ..).mp h
      exact List.forall_mem_cons.mpr ⟨Or.inl part, ih others⟩
  cases cs with
  | nil => cases hc
  | cons d ds =>
    obtain ⟨first, others⟩ := (Bool.and_eq_true ..).mp h
    exact (List.mem_cons.mp hc).elim (fun same => Or.inl (same ▸ isNamePart_of_isNameStart first))
      (rest others c)

theorem parameter_of_identifier {name : String} (h : IsIdentifier name) :
    parameter name = "$" ++ name := by
  obtain ⟨c, cs, chars, hc, hcs⟩ := h
  have plain : isPlainName name.toList = true := by
    rw [chars]
    simp [isPlainName, hc, isPlainRest_of_isNamePart hcs]
  simp [parameter, quote, quoteChars, plain]

end Cypher

open Cypher

/-! ### Placeholders -/

theorem lowerChar_ne_nil (c : Char) : lowerChar c ≠ [] := by
  unfold lowerChar
  dsimp only
  split
  · simp
  · split
    · simp
    · split <;> simp

theorem lowercase_ne_empty {s : String} (h : s ≠ "") : lowercase s ≠ "" := by
  intro e
  have letters := congrArg String.toList e
  cases chars : s.toList with
  | nil => exact h (String.toList_eq_nil_iff.mp chars)
  | cons c cs =>
    simp only [lowercase, chars, lowerFrom, String.toList_ofList] at letters
    obtain ⟨first, -⟩ := List.append_eq_nil_iff.mp letters
    split at first
    · cases first
    · exact lowerChar_ne_nil c first

theorem isNamePart_of_isPlaceholderPart {c : Char} (h : isPlaceholderPart c = true) :
    isNamePart c = true := by
  simp only [isPlaceholderPart, isNamePart, isNameStart, Bool.or_eq_true, Bool.and_eq_true] at h ⊢
  tauto

theorem isNamePart_placeholderChar (c : Char) : isNamePart (placeholderChar c) = true := by
  unfold placeholderChar
  split
  · next part => exact isNamePart_of_isPlaceholderPart part
  · decide

theorem placeholderOf_isPlainText (labels : List String) : IsPlainText (placeholderOf labels) := by
  have body : ∀ c ∈ placeholderBody labels, isNamePart c = true := by
    intro c hc
    obtain ⟨d, -, rfl⟩ := List.mem_map.mp hc
    exact isNamePart_placeholderChar d
  unfold placeholderOf
  cases chars : placeholderBody labels with
  | nil => exact fun c hc => by simp at hc
  | cons c cs =>
    rw [chars] at body
    dsimp only
    split
    · intro d hd
      simp only [String.toList_append, String.toList_ofList, List.mem_append] at hd
      have front : "n_".toList.all isNamePart = true := by decide
      rcases hd with prefixed | hd
      · exact List.all_eq_true.mp front d prefixed
      · exact body d hd
    · intro d hd
      exact body d (by simpa using hd)

theorem placeholderOf_ne_empty {label : String} (h : label ≠ "") (rest : List String) :
    placeholderOf (label :: rest) ≠ "" := by
  have body : placeholderBody (label :: rest) ≠ [] := by
    intro e
    have letters := List.map_eq_nil_iff.mp e
    have first : (lowercase label).toList = [] := by
      cases rest with
      | nil => simpa [joined] using letters
      | cons second more => simp [joined] at letters
    exact lowercase_ne_empty h (String.toList_eq_nil_iff.mp first)
  unfold placeholderOf
  cases chars : placeholderBody (label :: rest) with
  | nil => exact absurd chars body
  | cons c cs =>
    dsimp only
    split <;> simp [String.ext_iff]

/-- A text of small letters, digits and low lines that is not empty and does not begin with a digit. -/
def IsPlaceholder (text : String) : Prop :=
  ∃ c cs, text.toList = c :: cs ∧ isPlainDigit c = false ∧ ∀ d ∈ c :: cs, isPlaceholderPart d = true

theorem IsPlaceholder.isIdentifier {text : String} (h : IsPlaceholder text) : IsIdentifier text := by
  obtain ⟨c, cs, chars, digit, part⟩ := h
  refine ⟨c, cs, chars, ?_, fun d hd => isNamePart_of_isPlaceholderPart (part d (List.mem_cons_of_mem _ hd))⟩
  have first := part c List.mem_cons_self
  simp only [isPlaceholderPart, isPlainDigit, isNameStart, Bool.or_eq_true, Bool.and_eq_true,
    Bool.and_eq_false_iff, decide_eq_true_eq, decide_eq_false_iff_not] at first digit ⊢
  tauto

/-- The placeholder of labels has small letters, digits and low lines, and no digit first. -/
theorem placeholderOf_isPlaceholder {label : String} (h : label ≠ "") (rest : List String) :
    IsPlaceholder (placeholderOf (label :: rest)) := by
  have part : ∀ c ∈ placeholderBody (label :: rest), isPlaceholderPart c = true := by
    intro c hc
    obtain ⟨d, -, rfl⟩ := List.mem_map.mp hc
    unfold placeholderChar
    split
    · next part => exact part
    · decide
  have filled := placeholderOf_ne_empty h rest
  unfold placeholderOf at filled ⊢
  cases chars : placeholderBody (label :: rest) with
  | nil => simp [chars] at filled
  | cons c cs =>
    rw [chars] at part
    dsimp only
    split
    · refine ⟨'n', '_' :: c :: cs, by simp [String.toList_append], by decide, ?_⟩
      exact List.forall_mem_cons.mpr ⟨by decide, List.forall_mem_cons.mpr ⟨by decide, part⟩⟩
    · next digit => exact ⟨c, cs, String.toList_ofList, Bool.eq_false_iff.mpr digit, part⟩

theorem mapM_textOf_texts (texts : List String) : (texts.map Value.text).mapM textOf = .ok texts := by
  induction texts with
  | nil => rfl
  | cons text rest ih =>
    rw [List.map_cons, List.mapM_cons, ih]
    rfl

theorem labelTexts_texts (labels : List String) : labelTexts (labels.map .text) = .ok labels := by
  have small : ∀ labels : List String, (labels.map Value.text).forM hasSmallLetters = .ok ⟨⟩ := by
    intro labels
    induction labels with
    | nil => rfl
    | cons label rest ih => exact ih
  unfold labelTexts
  rw [small]
  exact mapM_textOf_texts labels

theorem mapM_textOf_cons {v : Value} {vs : List Value} {texts : List String}
    (h : (v :: vs).mapM textOf = .ok texts) :
    ∃ s rest, v = .text s ∧ texts = s :: rest := by
  rw [List.mapM_cons] at h
  obtain ⟨s, first, h⟩ := Result.bind_eq_ok h
  obtain ⟨rest, -, h⟩ := Result.bind_eq_ok h
  obtain rfl := Except.ok.inj h
  cases v <;> cases first
  exact ⟨s, rest, rfl, rfl⟩

theorem isTruthy_of_mem_presentLabels {v : Value} {labels : List Value}
    (h : presentLabels v = .ok labels) : ∀ label ∈ labels, label.isTruthy = true := by
  intro label hl
  unfold presentLabels at h
  split at h
  · cases h
    cases hl
  · cases h
    split at hl
    · cases hl
    · next full =>
      obtain rfl := List.mem_singleton.mp hl
      simpa [Value.isTruthy] using full
  · obtain ⟨members, -, h⟩ := Result.bind_eq_ok h
    cases h
    exact (List.mem_filter.mp hl).2

theorem needPlaceholder_isPlainText {labels : List Value} {node : String}
    (h : needPlaceholder labels = .ok node) : IsPlainText node := by
  unfold needPlaceholder at h
  split at h
  · cases h
  · cases read : labelTexts labels with
    | error e => rw [read] at h; cases h
    | ok texts =>
      rw [read] at h
      obtain rfl := Except.ok.inj h
      exact placeholderOf_isPlainText texts

theorem needPlaceholder_isPlaceholder {labels : List Value} (full : ∀ v ∈ labels, v.isTruthy = true)
    {node : String} (h : needPlaceholder labels = .ok node) : IsPlaceholder node := by
  unfold needPlaceholder at h
  split at h
  · cases h
  · next some =>
    cases read : labelTexts labels with
    | error e => rw [read] at h; cases h
    | ok texts =>
      rw [read] at h
      obtain rfl := Except.ok.inj h
      obtain ⟨-, -, read⟩ := Result.bind_eq_ok read
      cases labels with
      | nil => simp at some
      | cons label rest =>
        obtain ⟨s, others, rfl, rfl⟩ := mapM_textOf_cons read
        exact placeholderOf_isPlaceholder (by simpa [Value.isTruthy] using full _ List.mem_cons_self) others

theorem needPlaceholder_isIdentifier {labels : List Value} (full : ∀ v ∈ labels, v.isTruthy = true)
    {node : String} (h : needPlaceholder labels = .ok node) : IsIdentifier node :=
  (needPlaceholder_isPlaceholder full h).isIdentifier

/-- A call for an identity has a plain name between its brackets, with blanks around it. -/
theorem identityCall?_eq_some {cs name : List Char} (h : identityCall? cs = some name) :
    ∃ before after, cs = "id(".toList ++ (before ++ (name ++ after)) ++ [')'] ∧
      (∀ c ∈ before ++ after, isBlank c = true) ∧ IsIdentifier (String.ofList name) := by
  have taken {p : Char → Bool} {ds : List Char} : ∀ c ∈ ds.takeWhile p, p c = true := fun c hc =>
    List.all_eq_true.mp List.all_takeWhile c hc
  unfold identityCall? at h
  split at h
  case h_2 => cases h
  case h_1 rest =>
    split at h
    case h_1 => cases h
    case h_2 c tail behind =>
      split at h
      case isFalse => cases h
      case isTrue start =>
        split at h
        case isFalse => cases h
        case isTrue close =>
          obtain rfl := Option.some.inj h
          refine ⟨rest.takeWhile isBlank, (tail.dropWhile isNamePart).takeWhile isBlank, ?_, ?_, ?_⟩
          · have inner := List.takeWhile_append_dropWhile (p := isBlank) (l := rest)
            have word := List.takeWhile_append_dropWhile (p := isNamePart) (l := tail)
            have last := List.takeWhile_append_dropWhile (p := isBlank) (l := tail.dropWhile isNamePart)
            rw [close] at last
            rw [behind, ← word, ← last] at inner
            refine (congrArg ("id(".toList ++ ·) inner.symm).trans ?_
            simp
          · exact fun d hd => (List.mem_append.mp hd).elim (taken d) (taken d)
          · exact ⟨c, _, String.toList_ofList, start, taken⟩

theorem isIdentifier_of_identityCall? {cs name : List Char} (h : identityCall? cs = some name) :
    IsIdentifier (String.ofList name) := by
  obtain ⟨-, -, -, -, plain⟩ := identityCall?_eq_some h
  exact plain

theorem not_mem_of_identityCall? {cs name : List Char} (h : identityCall? cs = some name) : '.' ∉ cs := by
  obtain ⟨before, after, rfl, blank, plain⟩ := identityCall?_eq_some h
  have apart : '.' ∉ before ++ after := fun member => absurd (blank '.' member) (by decide)
  have named : '.' ∉ name := fun member =>
    absurd (plain.isPlainText '.' (String.toList_ofList ▸ member)) (by decide)
  have fixed : '.' ∉ "id(".toList ++ [')'] := by decide
  simp only [List.mem_append, not_or] at apart fixed ⊢
  exact ⟨⟨fixed.1, apart.1, named, apart.2⟩, fixed.2⟩

theorem placeholder?_isPlaceholder {q : Query} {node : String} (h : q.placeholder? = .ok (some node)) :
    IsPlaceholder node := by
  unfold Query.placeholder? at h
  split at h
  · obtain ⟨-, -, h⟩ := Result.bind_eq_ok h
    obtain ⟨labels, present, h⟩ := Result.bind_eq_ok h
    obtain ⟨p, named, h⟩ := Result.bind_eq_ok h
    obtain rfl := Option.some.inj (Except.ok.inj h)
    exact needPlaceholder_isPlaceholder (isTruthy_of_mem_presentLabels present) named
  · cases h

/-- The placeholder of the primary node is a plain name. -/
theorem placeholder?_isIdentifier {q : Query} {node : String} (h : q.placeholder? = .ok (some node)) :
    IsIdentifier node := (placeholder?_isPlaceholder h).isIdentifier

theorem placeholder?_isPlainText {q : Query} {node : String}
    (h : q.placeholder? = .ok (some node)) : node ≠ "" ∧ IsPlainText node :=
  ⟨(placeholder?_isIdentifier h).ne_empty, (placeholder?_isIdentifier h).isPlainText⟩

/-! ### Resolved columns -/

namespace Query

theorem namedColumn_eq_ok_iff {name : String} {placeholder : Option String} {identity : Bool}
    {c : ColumnRef} :
    namedColumn name placeholder identity = .ok c ↔ name ≠ "" ∧ c = ⟨name, placeholder, identity⟩ := by
  constructor
  · intro h
    obtain ⟨n, checked, rfl⟩ := Checked.map_eq_ok (Result.ofChecked_eq_ok h)
    by_cases empty : name = ""
    · subst empty
      cases checked
    · have filled : ¬ name.length < 1 := by
        simpa [Nat.lt_one_iff, String.length_eq_zero_iff] using empty
      simp [Schema.textLength, filled, Checked.inside] at checked
      exact ⟨empty, checked ▸ rfl⟩
  · rintro ⟨some, rfl⟩
    have filled : ¬ name.length < 1 := by
      simpa [Nat.lt_one_iff, String.length_eq_zero_iff] using some
    simp [namedColumn, Schema.textLength, filled, Checked.inside, Except.map, Result.ofChecked]

/-- What a column stands for that is given as a text: an identity by its node, a name behind a point, the
identity of the primary node, or a property of it. -/
inductive Resolves (q : Query) (text : String) : ColumnRef → Prop
  | called {node : List Char} (call : identityCall? (trim text).toList = some node) :
      Resolves q text ⟨"id", some (String.ofList node), true⟩
  | owned {before after : List Char} {p : String} (uncalled : identityCall? (trim text).toList = none)
      (cut : splitAtFirst '.' (trim text).toList = some (before, after))
      (owner : q.ownerPlaceholder (String.ofList before) = .ok p) (filled : String.ofList after ≠ "") :
      Resolves q text ⟨String.ofList after, some p, String.ofList after == "id"⟩
  | identity {p : String} (bare : trim text = "id") (target : q.placeholder? = .ok (some p)) :
      Resolves q text ⟨"id", some p, true⟩
  | property {p? : Option String} (uncalled : identityCall? (trim text).toList = none)
      (whole : splitAtFirst '.' (trim text).toList = none) (other : trim text ≠ "id")
      (target : q.placeholder? = .ok p?) (filled : trim text ≠ "") :
      Resolves q text ⟨trim text, p?, false⟩

theorem resolves_of_resolveText {q : Query} {text : String} {c : ColumnRef}
    (h : q.resolveText text = .ok c) : q.Resolves text c := by
  unfold resolveText at h
  dsimp only at h
  split at h
  · next node call =>
    obtain rfl := Except.ok.inj h
    exact .called call
  · next uncalled =>
    split at h
    · next cut =>
      obtain ⟨p, owner, h⟩ := Result.bind_eq_ok h
      obtain ⟨filled, rfl⟩ := namedColumn_eq_ok_iff.mp h
      exact .owned uncalled cut owner filled
    · next whole =>
      split at h
      · next bare =>
        obtain ⟨target, found, h⟩ := Result.bind_eq_ok h
        cases target with
        | none => cases h
        | some p =>
          obtain rfl := Except.ok.inj h
          exact .identity bare found
      · next other =>
        obtain ⟨target, found, h⟩ := Result.bind_eq_ok h
        obtain ⟨filled, rfl⟩ := namedColumn_eq_ok_iff.mp h
        exact .property uncalled whole other found filled

theorem resolves_of_resolve {q : Query} {text : String} {c : ColumnRef}
    (h : q.resolve (.text text) = .ok c) : q.Resolves text c := resolves_of_resolveText h

end Query

/-! ### Bindings -/

theorem identityName_eq {node : String} (h : IsPlainText node) :
    identityName ("id(" ++ node ++ ")") = "id" ++ node := by
  have kept : dropBlanks node.toList = node.toList :=
    List.filter_eq_self.mpr fun c hc => by simp [isBlank_of_isNamePart (h c hc)]
  have bare : node.toList.filter (fun c => c ≠ '(' ∧ c ≠ ')') = node.toList := by
    refine List.filter_eq_self.mpr fun c hc => ?_
    have part := h c hc
    have opening : c ≠ '(' := by
      rintro rfl
      exact absurd part (by decide)
    have closing : c ≠ ')' := by
      rintro rfl
      exact absurd part (by decide)
    simp [opening, closing]
  have whole : dropBlanks ("id(" ++ node ++ ")").toList = 'i' :: 'd' :: '(' :: (node.toList ++ [')']) := by
    have front : dropBlanks "id(".toList = "id(".toList := by decide
    have back : dropBlanks ")".toList = ")".toList := by decide
    simp only [String.toList_append]
    unfold dropBlanks at kept front back ⊢
    rw [List.filter_append, List.filter_append, kept, front, back]
    simp
  apply String.toList_injective
  unfold identityName
  rw [whole]
  simp only [ne_eq, Bool.decide_and, decide_not] at bare
  simp [bare]

theorem candidate_isIdentifier {base : String} (h : IsIdentifier base) :
    ∀ n, IsIdentifier (candidate base n)
  | 0 => h
  | n + 1 => by
    refine (h.append (b := "_") (by decide)).append fun d hd => ?_
    rw [Nat.toString_eq_repr, Nat.toList_repr] at hd
    have digit := Nat.isDigit_of_mem_toDigits (by decide) (by decide) hd
    simp [isNamePart, Char.isDigit, UInt32.le_iff_toNat_le] at digit ⊢
    exact Or.inr digit

/-- The name that an identity is bound under is a plain name. -/
theorem firstFree_isIdentifier {node : String} (h : IsPlainText node) (taken : List String) :
    IsIdentifier (firstFree taken ("id" ++ node)) := by
  have front : IsIdentifier "id" := isIdentifier_of_all 'i' ['d'] rfl (by decide) (by decide)
  obtain ⟨m, -, e⟩ := freeFrom_eq_candidate taken ("id" ++ node) 0 taken.length
  unfold firstFree
  rw [e]
  exact candidate_isIdentifier (front.append h) m

end GraphQuery
