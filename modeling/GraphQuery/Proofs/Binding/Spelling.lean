import GraphQuery.Proofs.Binding.Absorption
import GraphQuery.Query.Resolve

/-! # How names are spelled

Names of bindings come from the names of columns, and these may be any text.  Two readers look at them
afterwards: that of a statement, where a name with a line break is another one, and that of a set of
parameters, which takes numerals, qualified names and identity references for something else.
`IsBindingName` says that a name means nothing to either of them.

* `bindingName_isBindingName`, `identityName_isBindingName`, `firstFree_isBindingName` : whatever a
  column is called, its binding gets such a name;
* `BindingTable.HasBindingNames` : a table has no other names.  Storing under a free name and taking in
  another table keep that. -/

namespace GraphQuery

open GraphQuery.Text

namespace Binding

/-- The signs that tell more than a name: of an identity reference, of a qualified name, and of the end
of a line. -/
def tellingSigns : List Char := ['(', '.', '\n']

/-- A name that is no numeral and has no sign that tells more. -/
def IsBindingName (n : String) : Prop :=
  (∃ c ∈ n.toList, isDigit c = false) ∧ ∀ c ∈ n.toList, c ∉ tellingSigns

instance (n : String) : Decidable (IsBindingName n) :=
  decidable_of_iff
    (n.toList.any (!isDigit ·) = true ∧ n.toList.all (!tellingSigns.contains ·) = true)
    (by simp [IsBindingName])

theorem IsBindingName.ne_empty {n : String} (h : IsBindingName n) : n ≠ "" := by
  rintro rfl
  exact absurd h (by decide)

theorem IsBindingName.append {a b : String} (h : IsBindingName a)
    (plain : ∀ c ∈ b.toList, c ∉ tellingSigns) : IsBindingName (a ++ b) := by
  obtain ⟨⟨c, member, letter⟩, others⟩ := h
  rw [IsBindingName, String.toList_append]
  refine ⟨⟨c, List.mem_append_left _ member, letter⟩, fun d hd => ?_⟩
  exact (List.mem_append.mp hd).elim (others d) (plain d)

/-! ### The names of columns -/

theorem not_telling_of_isWord {c : Char} (h : isWord c = true) : c ∉ tellingSigns := by
  have none : tellingSigns.all (!isWord ·) = true := by decide
  intro telling
  have sign := List.all_eq_true.mp none c telling
  rw [h] at sign
  cases sign

theorem isWord_of_mem_foldNonWords (cs : List Char) : ∀ c ∈ foldNonWords cs, isWord c = true := by
  have line : isWord '_' = true := by decide
  fun_induction foldNonWords cs with
  | case1 => simp
  | case2 d cs word ih => exact List.forall_mem_cons.mpr ⟨word, ih⟩
  | case3 => simpa using line
  | case4 d e cs sign word ih => exact List.forall_mem_cons.mpr ⟨line, ih⟩
  | case5 d e cs sign sign' ih => exact ih

theorem mem_of_mem_trimWhere {p : Char → Bool} {cs : List Char} {c : Char} (h : c ∈ trimWhere p cs) :
    c ∈ cs := by
  rw [trimWhere, List.mem_reverse] at h
  exact List.dropWhile_subset p (List.mem_reverse.mp (List.dropWhile_subset p h))

theorem isWord_of_mem_bindingName (property : String) :
    ∀ c ∈ (bindingName property).toList, isWord c = true := by
  have words : ∀ c ∈ trimWhere (· == '_') (foldNonWords property.toList), isWord c = true :=
    fun c hc => isWord_of_mem_foldNonWords _ c (mem_of_mem_trimWhere hc)
  have front : "param_".toList.all isWord = true := by decide
  unfold bindingName
  split
  · exact List.all_eq_true.mp (show "param".toList.all isWord = true by decide)
  · next c cs found =>
    rw [found] at words
    split
    · rw [String.toList_append]
      refine List.forall_mem_append.mpr ⟨List.all_eq_true.mp front, ?_⟩
      rwa [String.toList_ofList]
    · rwa [String.toList_ofList]

theorem bindingName_isBindingName (property : String) : IsBindingName (bindingName property) := by
  refine ⟨?_, fun c hc => not_telling_of_isWord (isWord_of_mem_bindingName property c hc)⟩
  unfold bindingName
  split
  · exact ⟨'p', by simp, by decide⟩
  · next c cs found =>
    split
    · exact ⟨'p', by simp [String.toList_append], by decide⟩
    · next letter =>
      rw [String.toList_ofList]
      exact ⟨c, List.mem_cons_self .., Bool.not_eq_true _ ▸ letter⟩

/-- The identity of a node whose placeholder has no point. -/
theorem identityName_isBindingName {node : String} (h : '.' ∉ node.toList) :
    IsBindingName (identityName ("id(" ++ node ++ ")")) := by
  have kept : ∀ {c : Char}, c ∈ (identityName ("id(" ++ node ++ ")")).toList ↔
      c ∈ ("id(" ++ node ++ ")").toList ∧ isBlank c = false ∧ c ≠ '(' ∧ c ≠ ')' := by
    intro c
    simp only [identityName, dropBlanks, String.toList_ofList, List.mem_filter, Bool.not_eq_true',
      decide_eq_true_eq, and_assoc]
  have letter : 'i' ∈ (identityName ("id(" ++ node ++ ")")).toList :=
    kept.mpr ⟨by simp [String.toList_append], by decide⟩
  refine ⟨⟨'i', letter, by decide⟩, fun c hc => ?_⟩
  obtain ⟨inside, blank, opening, -⟩ := kept.mp hc
  have lineBreak : isBlank '\n' = true := by decide
  simp only [tellingSigns, List.mem_cons, List.not_mem_nil, or_false, not_or]
  refine ⟨opening, ?_, ?_⟩
  · rintro rfl
    simp [String.toList_append, h] at inside
  · rintro rfl
    rw [lineBreak] at blank
    cases blank

/-! ### Numbered names -/

theorem candidate_isBindingName {base : String} (h : IsBindingName base) :
    ∀ n, IsBindingName (candidate base n)
  | 0 => h
  | n + 1 => by
    refine (h.append (b := "_") (by simp [tellingSigns])).append fun c hc => ?_
    rw [Nat.toString_eq_repr, Nat.toList_repr] at hc
    have digit := Nat.isDigit_of_mem_toDigits (by decide) (by decide) hc
    have none : tellingSigns.all (!·.isDigit) = true := by decide
    intro telling
    have sign := List.all_eq_true.mp none c telling
    rw [digit] at sign
    cases sign

theorem freeFrom_isBindingName {base : String} (h : IsBindingName base) (taken : List String)
    (n tries : Nat) : IsBindingName (freeFrom taken base n tries) := by
  obtain ⟨m, -, e⟩ := freeFrom_eq_candidate taken base n tries
  rw [e]
  exact candidate_isBindingName h m

theorem firstFree_isBindingName {base : String} (h : IsBindingName base) (taken : List String) :
    IsBindingName (firstFree taken base) := freeFrom_isBindingName h taken 0 taken.length

end Binding

/-! ### Tables -/

open Binding

/-- A key that is a name for a binding. -/
def Value.IsBindingKey (k : Value) : Prop := ∃ n, k = .text n ∧ IsBindingName n

theorem mem_values_putEntry {key v w : Value} : ∀ {row : Row},
    w ∈ (putEntry key v row).map Prod.snd → w = v ∨ w ∈ row.map Prod.snd
  | [], h => Or.inl (by simpa [putEntry] using h)
  | (l, x) :: row, h => by
    rw [putEntry] at h
    split at h
    · rw [List.map_cons, List.mem_cons] at h ⊢
      exact h.imp_right Or.inr
    · rw [List.map_cons, List.mem_cons] at h ⊢
      rcases h with rfl | h
      · exact Or.inr (Or.inl rfl)
      · exact (mem_values_putEntry h).imp_right Or.inr

namespace BindingTable

/-- A table whose names come from the names of columns. -/
def HasBindingNames (t : BindingTable) : Prop := ∀ k ∈ t.names, k.IsBindingKey

theorem hasBindingNames_empty : empty.HasBindingNames := fun _ h => absurd h List.not_mem_nil

variable {t : BindingTable}

theorem HasBindingNames.add (h : t.HasBindingNames) {name : Value} (key : name.IsBindingKey)
    (v : Value) (b : Bucket) : (t.add name v b).HasBindingNames := by
  intro k hk
  obtain ⟨c, inside⟩ := mem_names.mp hk
  rw [bucket_add] at inside
  split at inside
  · rcases mem_keys_putEntry inside with rfl | old
    · exact key
    · exact h k (mem_names.mpr ⟨b, old⟩)
  · exact h k (mem_names.mpr ⟨c, inside⟩)

theorem uniqueName_isBindingName (t : BindingTable) {base : String} (h : IsBindingName base)
    (reserved : List String) : IsBindingName (t.uniqueName base reserved) :=
  firstFree_isBindingName h _

theorem HasBindingNames.bind (h : t.HasBindingNames) {base : String} (name : IsBindingName base)
    (v : Value) (b : Bucket) : (t.bind base v b).2.HasBindingNames :=
  h.add ⟨_, rfl, t.uniqueName_isBindingName name []⟩ v b

/-- A new name is spelled like the one that is taken. -/
theorem freshName_isBindingKey (t : BindingTable) {base : Value} (h : base.IsBindingKey)
    (reserved : List Value) : (t.freshName base reserved).IsBindingKey := by
  obtain ⟨n, rfl, name⟩ := h
  unfold freshName
  dsimp only
  split
  · exact ⟨_, rfl, freeFrom_isBindingName name _ _ _⟩
  · exact ⟨n, rfl, name⟩

/-- New names that are spelled as names of bindings. -/
def Renames.HasBindingNames (renames : Renames) : Prop :=
  ∀ k ∈ renames.map Prod.snd, k.IsBindingKey

theorem Renames.HasBindingNames.applyTo {renames : Renames} (h : renames.HasBindingNames)
    {name : Value} (key : name.IsBindingKey) : (renames.applyTo name).IsBindingKey := by
  unfold Renames.applyTo entryAt?
  cases found : renames.find? fun e => name.same e.1 with
  | none => exact key
  | some e => exact h e.2 (List.mem_map_of_mem (List.mem_of_find?_eq_some found))

theorem absorbEntry_hasBindingNames {acc : BindingTable × Renames} (table : acc.1.HasBindingNames)
    (renames : acc.2.HasBindingNames) {e : Value × Value} (key : e.1.IsBindingKey)
    (reserved : List Value) (b : Bucket) :
    (absorbEntry reserved b acc e).1.HasBindingNames ∧
      (absorbEntry reserved b acc e).2.HasBindingNames := by
  unfold absorbEntry
  dsimp only
  split
  · have renames' : Renames.HasBindingNames
        (putEntry e.1 (acc.1.freshName e.1 reserved) acc.2) := by
      intro k hk
      rcases mem_values_putEntry hk with rfl | old
      · exact acc.1.freshName_isBindingKey key reserved
      · exact renames k old
    exact ⟨table.add (renames'.applyTo key) e.2 b, renames'⟩
  · exact ⟨table.add (renames.applyTo key) e.2 b, renames⟩

/-- Taking in another table whose names come from columns as well. -/
theorem HasBindingNames.absorb (h : t.HasBindingNames) {other : BindingTable}
    (h' : other.HasBindingNames) : (t.absorb other).1.HasBindingNames := by
  have run : ∀ {rest : List (Bucket × (Value × Value))} {acc : BindingTable × Renames},
      (∀ e ∈ rest, e.2.1.IsBindingKey) → acc.1.HasBindingNames → acc.2.HasBindingNames →
      (rest.foldl (fun acc e => absorbEntry other.names e.1 acc e.2) acc).1.HasBindingNames := by
    intro rest
    induction rest with
    | nil => exact fun _ table _ => table
    | cons e rest ih =>
      intro acc keys table renames
      obtain ⟨key, keys⟩ := List.forall_mem_cons.mp keys
      have step := absorbEntry_hasBindingNames table renames key other.names e.1
      exact ih keys step.1 step.2
  rw [absorb_eq_foldl]
  refine run (fun e he => h' _ (List.mem_map_of_mem (f := Prod.fst) ?_)) h fun _ none =>
    absurd none List.not_mem_nil
  rw [← map_placed]
  exact List.mem_map_of_mem (f := Prod.snd) he

end BindingTable

end GraphQuery
