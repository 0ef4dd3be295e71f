import GraphQuery.Proofs.Binding.Spelling
import GraphQuery.Proofs.Value.Tables
import GraphQuery.Session.Parameters

/-! # Bindings that are only prepared

Preparing a set of parameters gives some of them other names: numerals, qualified names and identity
references.  The names of bindings are none of these, so their values are prepared and nothing else
happens to them: `parametersUnder_bindings`. -/

namespace GraphQuery

open GraphQuery.Binding GraphQuery.Text

variable {n pattern : String}

theorem isNumericKey_text (h : IsBindingName n) : isNumericKey (.text n) = false := by
  obtain ⟨⟨c, member, letter⟩, -⟩ := h
  have digits : n.toList.all isDigit = false := List.all_eq_false.mpr ⟨c, member, by simp [letter]⟩
  simp [isNumericKey, digits]

theorem isIdentityKey_text (h : IsBindingName n) : isIdentityKey (.text n) = false := by
  rw [Bool.eq_false_iff]
  intro reference
  have opening : '(' ∈ n.toList := (List.isPrefixOf_iff_prefix.mp reference).subset (by decide)
  exact h.2 _ opening (by decide)

theorem parameterKey_text (h : IsBindingName n) : parameterKey (.text n) = n := by
  have whole : splitAtFirst '.' n.toList = none := by
    rw [← Option.not_isSome_iff_eq_none, splitAtFirst_isSome_iff]
    exact fun point => h.2 _ point (by decide)
  have text : (Value.text n).plainText = n := rfl
  unfold parameterKey
  simp [isIdentityKey_text h, text, whole]

theorem entryParameters_text (h : IsBindingName n) (v : Value) :
    entryParameters pattern (.text n) v = [(n, prepareValue pattern v)] := by
  simp [entryParameters, isNumericKey_text h, parameterKey_text h]

/-! ### All bindings -/

/-- Bindings by their names, as entries of a map. -/
def namedRow (named : Properties) : Row := named.map fun p => (.text p.1, p.2)

theorem exists_namedRow : ∀ {row : Row}, (∀ k ∈ row.map Prod.fst, k.IsBindingKey) →
    ∃ named, row = namedRow named ∧ ∀ p ∈ named, IsBindingName p.1
  | [], _ => ⟨[], rfl, by simp⟩
  | (k, v) :: row, h => by
    obtain ⟨⟨n, rfl, name⟩, rest⟩ := List.forall_mem_cons.mp h
    obtain ⟨named, rfl, names⟩ := exists_namedRow rest
    exact ⟨(n, v) :: named, rfl, List.forall_mem_cons.mpr ⟨name, names⟩⟩

theorem prepareParameters_named {named : Properties} (names : ∀ p ∈ named, IsBindingName p.1)
    (distinct : (named.map Prod.fst).Nodup) :
    prepareParameters pattern (.ofPairs (namedRow named)) =
      .ok (named.map fun p => (p.1, prepareValue pattern p.2)) := by
  have entries : (namedRow named).flatMap (fun e => entryParameters pattern e.1 e.2) =
      named.map fun p => (p.1, prepareValue pattern p.2) := by
    rw [namedRow, List.flatMap_map, List.map_eq_flatMap]
    exact List.flatMap_congr fun p member => entryParameters_text (names p member) p.2
  unfold prepareParameters
  split
  · next empty =>
    have none : namedRow named = [] := by simpa [Value.isTruthy, Value.ofPairs] using empty
    rw [List.map_eq_nil_iff.mp none]
    rfl
  · show Except.ok (putAll [] ((namedRow named).flatMap fun e => entryParameters pattern e.1 e.2)) = _
    rw [entries, putAll_nil (by simpa [Function.comp_def] using distinct)]

/-- Bindings are sent under their names and in their order, and every value of them is prepared. -/
theorem parametersUnder_bindings {dates : Option String} {row : Row} {parameters : Properties}
    (keys : ∀ k ∈ row.map Prod.fst, k.IsBindingKey) (distinct : (row.map Prod.fst).Nodup)
    (h : parametersUnder dates (.ofPairs row) = .ok parameters) :
    namedRow parameters = row.map fun e => (e.1, prepareValue (dates.getD standardPattern) e.2) := by
  obtain ⟨named, rfl, names⟩ := exists_namedRow keys
  have apart : (named.map Prod.fst).Nodup := by
    refine List.Nodup.of_map Value.text ?_
    simpa [namedRow, List.map_map, Function.comp_def] using distinct
  have prepared : prepareParameters (dates.getD standardPattern) (.ofPairs (namedRow named)) =
      .ok parameters := by
    cases dates with
    | some pattern => exact h
    | none =>
      unfold parametersUnder at h
      dsimp only at h
      split at h
      · cases h
      · exact h
  rw [prepareParameters_named names apart] at prepared
  obtain rfl := Except.ok.inj prepared
  simp [namedRow, List.map_map, Function.comp_def]

theorem parametersUnder_distinct {dates : Option String} {row : Row} {parameters : Properties}
    (keys : ∀ k ∈ row.map Prod.fst, k.IsBindingKey) (distinct : (row.map Prod.fst).Nodup)
    (h : parametersUnder dates (.ofPairs row) = .ok parameters) : (parameters.map Prod.fst).Nodup := by
  have prepared := parametersUnder_bindings keys distinct h
  have names : (parameters.map Prod.fst).map Value.text = row.map Prod.fst := by
    have firsts := congrArg (List.map Prod.fst) prepared
    simpa [namedRow, Function.comp_def] using firsts
  exact .of_map Value.text (names ▸ distinct)

theorem mem_parametersUnder {dates : Option String} {row : Row} {parameters : Properties}
    (keys : ∀ k ∈ row.map Prod.fst, k.IsBindingKey) (distinct : (row.map Prod.fst).Nodup)
    (h : parametersUnder dates (.ofPairs row) = .ok parameters) {v : Value} (inside : (.text n, v) ∈ row) :
    (n, prepareValue (dates.getD standardPattern) v) ∈ parameters := by
  have member : (Value.text n, prepareValue (dates.getD standardPattern) v) ∈ namedRow parameters := by
    rw [parametersUnder_bindings keys distinct h]
    exact List.mem_map.mpr ⟨_, inside, rfl⟩
  obtain ⟨p, sent, same⟩ := List.mem_map.mp member
  obtain ⟨name, value⟩ := Prod.mk.inj same
  obtain rfl := Value.text.inj name
  exact value ▸ sent

end GraphQuery
