import GraphQuery.Binding.Name
import Mathlib.Data.List.Nodup
import Mathlib.Data.List.Perm.Subperm

/-! # Fresh names

The candidates of a base are pairwise different (`candidate_injective`). So among one more candidate
than there are taken names one is free (`exists_candidate_not_mem`), and the search finds it
(`freeFrom_not_mem`, `firstFree_not_mem`). -/

namespace GraphQuery.Binding

theorem append_number_injective {base : String} {m n : Nat}
    (h : base ++ "_" ++ toString m = base ++ "_" ++ toString n) : m = n := by
  have tails : (toString m).toList = (toString n).toList := by
    have whole := congrArg String.toList h
    rw [String.toList_append (s := base ++ "_"), String.toList_append (s := base ++ "_")] at whole
    exact List.append_cancel_left whole
  rw [Nat.toString_eq_repr, Nat.toString_eq_repr, Nat.toList_repr, Nat.toList_repr] at tails
  calc m = Nat.ofDigitChars 10 (Nat.toDigits 10 m) 0 := Nat.ofDigitChars_ten_toDigits.symm
    _ = Nat.ofDigitChars 10 (Nat.toDigits 10 n) 0 := by rw [tails]
    _ = n := Nat.ofDigitChars_ten_toDigits

theorem append_number_ne {base : String} {n : Nat} : base ++ "_" ++ toString n ≠ base := by
  intro h
  have lengths := congrArg String.length h
  simp only [String.length_append] at lengths
  have : "_".length = 1 := rfl
  omega

/-- The candidates of a base differ from each other. -/
theorem candidate_injective (base : String) : Function.Injective (candidate base) := by
  intro m n h
  match m, n with
  | 0, 0 => rfl
  | 0, n + 1 => exact absurd h.symm append_number_ne
  | m + 1, 0 => exact absurd h append_number_ne
  | m + 1, n + 1 =>
    have := append_number_injective h
    omega

theorem candidate_ne_empty {base : String} (h : base ≠ "") : ∀ n, candidate base n ≠ ""
  | 0 => h
  | n + 1 => by
    intro e
    have lengths := congrArg String.length e
    simp only [candidate, String.length_append] at lengths
    have : "_".length = 1 := rfl
    have : "".length = 0 := rfl
    omega

theorem freeFrom_eq_candidate (taken : List String) (base : String) :
    ∀ n tries, ∃ m, n ≤ m ∧ freeFrom taken base n tries = candidate base m
  | n, 0 => ⟨n, Nat.le_refl n, rfl⟩
  | n, tries + 1 => by
    unfold freeFrom
    split
    · obtain ⟨m, hm, h⟩ := freeFrom_eq_candidate taken base (n + 1) tries
      exact ⟨m, by omega, h⟩
    · exact ⟨n, Nat.le_refl n, rfl⟩

/-- If the search ends at a taken name, every candidate on the way is taken. -/
theorem mem_of_freeFrom_mem {taken : List String} {base : String} :
    ∀ {n tries : Nat}, freeFrom taken base n tries ∈ taken →
      ∀ i, n ≤ i → i ≤ n + tries → candidate base i ∈ taken
  | n, 0, h, i, hn, hi => by
    obtain rfl : i = n := by omega
    exact h
  | n, tries + 1, h, i, hn, hi => by
    unfold freeFrom at h
    split at h
    case isTrue taken_n =>
      by_cases e : i = n
      · exact e ▸ taken_n
      · exact mem_of_freeFrom_mem h i (by omega) (by omega)
    case isFalse free => exact absurd h free

/-- Among one more candidate than there are taken names one is free. -/
theorem exists_candidate_not_mem {taken : List String} (base : String) (n : Nat) {tries : Nat}
    (enough : taken.length ≤ tries) : ∃ i, n ≤ i ∧ i ≤ n + tries ∧ candidate base i ∉ taken := by
  by_contra none_free
  have distinct : ((List.range' n (tries + 1)).map (candidate base)).Nodup :=
    List.Nodup.map (candidate_injective base) List.nodup_range'
  have inside : (List.range' n (tries + 1)).map (candidate base) ⊆ taken := by
    intro s hs
    obtain ⟨i, hi, rfl⟩ := List.mem_map.mp hs
    rw [List.mem_range'_1] at hi
    by_contra free
    exact none_free ⟨i, hi.1, by omega, free⟩
  have := (List.subperm_of_subset distinct inside).length_le
  simp only [List.length_map, List.length_range'] at this
  omega

/-- As many tries as there are taken names are enough. -/
theorem freeFrom_not_mem {taken : List String} {base : String} {n tries : Nat}
    (enough : taken.length ≤ tries) : freeFrom taken base n tries ∉ taken := by
  intro h
  obtain ⟨i, low, high, free⟩ := exists_candidate_not_mem base n enough
  exact free (mem_of_freeFrom_mem h i low high)

theorem firstFree_not_mem (taken : List String) (base : String) : firstFree taken base ∉ taken :=
  freeFrom_not_mem (Nat.le_refl _)

/-- A name that comes from a base that is not empty is not empty. -/
theorem freeFrom_ne_empty {base : String} (h : base ≠ "") (taken : List String) (n tries : Nat) :
    freeFrom taken base n tries ≠ "" := by
  obtain ⟨m, -, e⟩ := freeFrom_eq_candidate taken base n tries
  rw [e]
  exact candidate_ne_empty h m

theorem firstFree_ne_empty {base : String} (h : base ≠ "") (taken : List String) :
    firstFree taken base ≠ "" := freeFrom_ne_empty h taken 0 taken.length

theorem bindingName_ne_empty (property : String) : bindingName property ≠ "" := by
  unfold bindingName
  split
  · decide
  · split <;> simp [String.ext_iff]

end GraphQuery.Binding

/-! ### Names that are joined

Names are made of others by joining them with low lines.  Where both parts are free, names can run into
each other although their parts differ: `append_line_eq_iff` says when two names of two parts each are the
same text.  A part without a low line can be told from the rest (`append_line_eq_iff_of_plain`), and a
number is one: so candidates of two bases meet only if one base is a candidate of the other
(`candidate_eq_iff`). -/

namespace GraphQuery.Binding

/-! ### Two parts -/

/-- Whether two names of two parts run into one text although they are cut at different places: what
stands between the cuts belongs to the second part of the one, and to the first part of the other. -/
def RunsInto (front back front' back' : String) : Prop :=
  ∃ middle, back = middle ++ "_" ++ back' ∧ front' = front ++ "_" ++ middle

theorem toList_line (front back : String) :
    (front ++ "_" ++ back).toList = front.toList ++ '_' :: back.toList := by
  simp [String.toList_append]

theorem runsInto_of_cut {between : List Char} {front back front' back' : String}
    (begins : front'.toList = front.toList ++ between)
    (ends : '_' :: back.toList = between ++ '_' :: back'.toList) :
    (front = front' ∧ back = back') ∨ RunsInto front back front' back' := by
  cases between with
  | nil =>
    obtain ⟨-, same⟩ := List.cons.inj ends
    exact Or.inl ⟨String.toList_injective (by simpa using begins.symm), String.toList_injective same⟩
  | cons c middle =>
    obtain ⟨rfl, rest⟩ := List.cons.inj ends
    refine Or.inr ⟨String.ofList middle, String.toList_injective ?_, String.toList_injective ?_⟩
    · rwa [toList_line, String.toList_ofList]
    · rwa [toList_line, String.toList_ofList]

/-- Two names of two parts are the same text if the parts are the same, or run into each other. -/
theorem append_line_eq_iff {front back front' back' : String} :
    front ++ "_" ++ back = front' ++ "_" ++ back' ↔ (front = front' ∧ back = back') ∨
      RunsInto front back front' back' ∨ RunsInto front' back' front back := by
  constructor
  · intro same
    have chars := congrArg String.toList same
    rw [toList_line, toList_line, List.append_eq_append_iff] at chars
    rcases chars with ⟨between, begins, ends⟩ | ⟨between, begins, ends⟩
    · exact (runsInto_of_cut begins ends).imp_right Or.inl
    · rcases runsInto_of_cut begins ends with ⟨rfl, rfl⟩ | runs
      · exact Or.inl ⟨rfl, rfl⟩
      · exact Or.inr (Or.inr runs)
  · rintro (⟨rfl, rfl⟩ | ⟨middle, rfl, rfl⟩ | ⟨middle, rfl, rfl⟩)
    · rfl
    · simp only [String.append_assoc]
    · simp only [String.append_assoc]

/-- What stands behind the last low line is told by the text. -/
theorem append_line_eq_iff_of_plain {front back front' back' : String} (plain : '_' ∉ back.toList)
    (plain' : '_' ∉ back'.toList) :
    front ++ "_" ++ back = front' ++ "_" ++ back' ↔ front = front' ∧ back = back' := by
  have apart {front back front' back' : String} (plain : '_' ∉ back.toList) :
      ¬ RunsInto front back front' back' := by
    rintro ⟨middle, rfl, -⟩
    exact plain (by rw [toList_line]; simp)
  rw [append_line_eq_iff, or_iff_left]
  rintro (runs | runs)
  · exact apart plain runs
  · exact apart plain' runs

/-! ### Numbers -/

theorem not_mem_number {c : Char} (sign : c.isDigit = false) (n : Nat) : c ∉ (toString n).toList := by
  rw [Nat.toString_eq_repr, Nat.toList_repr]
  intro member
  rw [Nat.isDigit_of_mem_toDigits (by decide) (by decide) member] at sign
  cases sign

/-- Candidates of two bases are the same name if their bases and numbers are, or if one of them has no
number and is the other one. -/
theorem candidate_eq_iff {base base' : String} {m n : Nat} :
    candidate base m = candidate base' n ↔ (base = base' ∧ m = n) ∨
      (n = 0 ∧ base' = candidate base m) ∨ (m = 0 ∧ base = candidate base' n) := by
  constructor
  · intro same
    match m, n with
    | _, 0 => exact Or.inr (Or.inl ⟨rfl, same.symm⟩)
    | 0, _ + 1 => exact Or.inr (Or.inr ⟨rfl, same⟩)
    | m + 1, n + 1 =>
      have plain (k : Nat) : '_' ∉ (toString k).toList := not_mem_number (by decide) k
      obtain ⟨rfl, -⟩ := (append_line_eq_iff_of_plain (plain _) (plain _)).mp same
      exact Or.inl ⟨rfl, candidate_injective base same⟩
  · rintro (⟨rfl, rfl⟩ | ⟨rfl, same⟩ | ⟨rfl, same⟩)
    · rfl
    · exact same.symm
    · exact same

/-- A candidate that ends in a word without a low line and with a letter has no number. -/
theorem candidate_eq_append_word {base base' word : String} {n : Nat} (plain : '_' ∉ word.toList)
    (letter : ∃ c ∈ word.toList, c.isDigit = false) :
    candidate base n = base' ++ "_" ++ word ↔ n = 0 ∧ base = base' ++ "_" ++ word := by
  match n with
  | 0 => simp [candidate]
  | n + 1 =>
    refine ⟨fun same => ?_, fun h => absurd h.1 (Nat.succ_ne_zero n)⟩
    obtain ⟨-, rfl⟩ := (append_line_eq_iff_of_plain (not_mem_number (by decide) _) plain).mp same
    obtain ⟨c, member, sign⟩ := letter
    exact absurd member (not_mem_number sign _)

end GraphQuery.Binding
