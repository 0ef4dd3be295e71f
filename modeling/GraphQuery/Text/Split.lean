/-! # Cutting and ordering texts

Texts are cut as lists of characters.

* `splitAtFirst` cuts at the first occurrence of a character, `afterLast` after the last one.
* `splitAtLastText` cuts at the last occurrence of a text.
* `joined` puts texts together with a separator.
* `sortedNames` lists names in their order, each of them once. Two lists of the same names, in whatever
  order and however often they stand there, are the same list after that. -/

namespace GraphQuery.Text

/-- What stands before and after the first `sep`, if there is one. -/
def splitAtFirst (sep : Char) : List Char → Option (List Char × List Char)
  | [] => none
  | c :: cs =>
    if c = sep then some ([], cs)
    else (splitAtFirst sep cs).map fun parts => (c :: parts.1, parts.2)

/-- What stands after the last `sep`, the whole text if there is none. -/
def afterLast (sep : Char) (cs : List Char) : List Char :=
  (cs.reverse.takeWhile (· ≠ sep)).reverse

/-- What stands before and after the last occurrence of `pattern`, if there is one. -/
def splitAtLastText (pattern : List Char) : List Char → Option (List Char × List Char)
  | [] => if pattern.isEmpty then some ([], []) else none
  | c :: cs =>
    match splitAtLastText pattern cs with
    | some (before, after) => some (c :: before, after)
    | none =>
      if pattern.isPrefixOf (c :: cs) then some ([], (c :: cs).drop pattern.length) else none

/-- The texts with `sep` between them. -/
def joined (sep : String) (parts : List String) : String := String.intercalate sep parts

/-- The texts that are not empty, with a space between them. -/
def spaced (parts : List String) : String := joined " " (parts.filter (· ≠ ""))

/-- Takes a name into a list of names in their order. -/
def insertName (s : String) : List String → List String
  | [] => [s]
  | t :: rest =>
    if s < t then s :: t :: rest else if s = t then t :: rest else t :: insertName s rest

/-- Names in their order, each of them once. -/
def sortedNames (names : List String) : List String :=
  names.foldl (fun sorted s => insertName s sorted) []

example : sortedNames ["User", "Admin", "User"] = ["Admin", "User"] := by decide

/-- Cutting at the first separator loses nothing but the separator. -/
theorem append_of_splitAtFirst {sep : Char} {cs before after : List Char}
    (h : splitAtFirst sep cs = some (before, after)) : cs = before ++ sep :: after := by
  induction cs generalizing before with
  | nil => simp [splitAtFirst] at h
  | cons c cs ih =>
    simp only [splitAtFirst] at h
    split at h
    · simp_all
    · simp only [Option.map_eq_some_iff] at h
      obtain ⟨⟨b, a⟩, hs, he⟩ := h
      simp only [Prod.mk.injEq] at he
      obtain ⟨rfl, rfl⟩ := he
      rw [List.cons_append, ← ih hs]

/-- The part before the first separator does not hold it. -/
theorem not_mem_of_splitAtFirst {sep : Char} {cs before after : List Char}
    (h : splitAtFirst sep cs = some (before, after)) : sep ∉ before := by
  induction cs generalizing before with
  | nil => simp [splitAtFirst] at h
  | cons c cs ih =>
    simp only [splitAtFirst] at h
    split at h
    · simp_all
    · next hc =>
      simp only [Option.map_eq_some_iff] at h
      obtain ⟨⟨b, a⟩, hs, he⟩ := h
      simp only [Prod.mk.injEq] at he
      obtain ⟨rfl, rfl⟩ := he
      simp only [List.mem_cons, not_or]
      exact ⟨fun e => hc e.symm, ih hs⟩

/-- The cut is at the first separator. -/
theorem splitAtFirst_append {sep : Char} {after : List Char} : ∀ {before : List Char}, sep ∉ before →
    splitAtFirst sep (before ++ sep :: after) = some (before, after)
  | [], _ => by rw [List.nil_append, splitAtFirst, if_pos rfl]
  | c :: before, h => by
    rw [List.mem_cons, not_or] at h
    rw [List.cons_append, splitAtFirst, if_neg (Ne.symm h.1), splitAtFirst_append h.2]
    rfl

/-- A text that does not occur is not cut at. -/
theorem splitAtLastText_eq_none {pattern cs : List Char} (h : ¬ pattern <:+: cs) :
    splitAtLastText pattern cs = none := by
  induction cs with
  | nil =>
    have filled : pattern ≠ [] := fun empty => h (empty ▸ List.infix_rfl)
    simp [splitAtLastText, filled]
  | cons c cs ih =>
    obtain ⟨here, later⟩ := not_or.mp (mt List.infix_cons_iff.mpr h)
    rw [splitAtLastText, ih later]
    simp [here]

/-- There is a cut exactly when the separator occurs. -/
theorem splitAtFirst_isSome_iff {sep : Char} {cs : List Char} :
    (splitAtFirst sep cs).isSome ↔ sep ∈ cs := by
  induction cs with
  | nil => simp [splitAtFirst]
  | cons c cs ih =>
    simp only [splitAtFirst]
    split
    · simp_all
    · next hc => simp [ih, List.mem_cons, Ne.symm hc]

end GraphQuery.Text
