import GraphQuery.Proofs.Cypher.Columns
import GraphQuery.Proofs.Cypher.QuietClauses
import GraphQuery.Proofs.Cypher.Stages
import GraphQuery.Proofs.Cypher.WrittenTexts

/-! # What the statements of a quiet query mention

The predicates of a quiet query, its sub-queries at any depth, and its select with all branches mention
its parameters and nothing else (`predicateText_namesOnly`, `subQueryText_namesOnly`,
`selectText_namesOnly`).  A change mentions the parameters of its query, since it acts on the nodes that
match, and the bindings of the values that it writes (`updateText_namesOnly`). -/

namespace GraphQuery.Cypher

open GraphQuery GraphQuery.Text

variable {allowed : String → Prop}

/-! ### Putting a select together -/

section select

variable {q : Query} {conditions : Conditions}

theorem silent_return (q : Query) : Silent ("RETURN " ++ distinctText q) := by
  have front : Silent "RETURN " := by decide
  refine front.append ?_
  unfold distinctText
  split <;> decide

theorem itemsText_namesOnly {items : List String} (h : ∀ t ∈ items, NamesOnly allowed t) :
    NamesOnly allowed (itemsText q items) :=
  (silent_return q).front (namesOnly_joined (by decide) h)

theorem singleSelect_namesOnly (bound : ∀ n ∈ q.parameters, allowed (spoken n))
    (quiet : q.HasQuietParts)
    (predicates : ∀ text, conditions.text = .ok text → NamesOnly allowed text)
    {names : Option (List String)}
    (cut : ∀ given ∈ names, ListsItems q → ∀ stage seen items,
      matchStage parameter q conditions [] = .ok (stage, seen) → returnItems q seen = .ok items →
        ∀ p ∈ items.zip given, columnName p.1 ≠ p.2 → Silent (itemExpression p.1))
    {text : String} {columns : List String}
    (h : singleSelect parameter q conditions names = .ok (text, columns)) : NamesOnly allowed text := by
  obtain ⟨stage, seen, texts, matched, after, rfl⟩ := singleSelect_eq_ok h
  obtain ⟨carried, projection, items, order, skip, limit, grouped, projects, ordered, skipped, limited,
    rfl, rfl⟩ := afterStage_eq_ok after
  obtain ⟨first, nodes⟩ := matchStage_namesOnly bound quiet predicates matched
  have shown : NamesOnly allowed projection := by
    cases projects with
    | aggregate _ own written => exact aggregateText_namesOnly bound quiet own written
    | listed _ returned => exact itemsText_namesOnly (returnItems_namesOnly quiet nodes returned)
    | aligned lists returned renamed =>
      exact itemsText_namesOnly (alignItems_namesOnly (returnItems_namesOnly quiet nodes returned)
        (cut _ rfl lists stage seen _ matched returned) renamed)
  refine namesOnly_spaced ?_
  simp only [List.forall_mem_cons]
  exact ⟨first, withText_namesOnly bound quiet grouped, shown, orderText_namesOnly quiet ordered,
    countText_namesOnly (by decide) skipped, countText_namesOnly (by decide) limited, by simp⟩

end select

/-- A branch that mentions what is allowed, under these names of columns. -/
def BranchText.NamesOnly (allowed : String → Prop) (names : List String) (b : BranchText) : Prop :=
  ∀ content, b.content = .ok content → ∀ text columns,
    singleSelect parameter content.1 content.2 (some names) = .ok (text, columns) →
      Cypher.NamesOnly allowed text

theorem appendBranches_namesOnly {names : List String} : ∀ {branches : List BranchText},
    (∀ b ∈ branches, b.NamesOnly allowed names) → ∀ {text whole : String}, NamesOnly allowed text →
      appendBranches parameter names text branches = .ok whole → NamesOnly allowed whole
  | [], _, _, _, first, h => by
    obtain rfl := Except.ok.inj h
    exact first
  | b :: rest, each, text, _, first, h => by
    obtain ⟨content, found, h⟩ := Result.bind_eq_ok h
    obtain ⟨⟨branch, columns⟩, written, h⟩ := Result.bind_eq_ok h
    have keyword : Silent b.keyword := by unfold BranchText.keyword; split <;> decide
    refine appendBranches_namesOnly (fun b hb => each b (List.mem_cons_of_mem _ hb)) ?_ h
    exact (first.spaced keyword.namesOnly).spaced
      (each b (List.mem_cons_self ..) content found branch columns written)

/-- A call of a select in braces stands before what is done with its rows. -/
theorem callText_eq (inner outer : String) : "CALL \x7b " ++ inner ++ " \x7d " ++ outer =
    "CALL \x7b " ++ inner ++ " \x7d" ++ " " ++ outer := by
  simp [← String.toList_inj, String.toList_append]

theorem callText_namesOnly {inner outer : String} (rows : NamesOnly allowed inner)
    (result : NamesOnly allowed outer) : NamesOnly allowed ("CALL \x7b " ++ inner ++ " \x7d " ++ outer) := by
  have blank : Silent " " := by decide
  have front : Silent "CALL " := by decide
  have call : NamesOnly allowed ("CALL \x7b " ++ inner ++ " \x7d") :=
    ((blank.front rows).close isSeam_blank).brackets front '\x7b' '\x7d' (by decide) (by decide)
      (by simp [String.toList_append])
  rw [callText_eq]
  exact call.spaced result

/-- Whether the branches of a select get these names of columns: those of the select itself, unless it is
an aggregate over all of them. -/
def GivesNames (q : Query) (conditions : Conditions) (names : List String) : Prop :=
  (∃ text, singleSelect parameter q conditions none = .ok (text, names)) ∨
    (isStaged q = false ∧ q.aggregate ≠ none)

/-- A branch that is the query itself has the names already that it gets. -/
theorem GivesNames.columnName_eq {q : Query} {names : List String}
    (given : GivesNames q (conditionsOf parameter q) names) (lists : ListsItems { q with branches := [] })
    {stage : String} {seen : Introduced} {items : List String}
    (matched : matchStage parameter { q with branches := [] } (conditionsOf parameter q) [] =
      .ok (stage, seen))
    (returned : returnItems { q with branches := [] } seen = .ok items) :
    ∀ p ∈ items.zip names, columnName p.1 = p.2 := by
  intro p hp
  rcases given with ⟨first, single⟩ | ⟨unstaged, aggregated⟩
  · obtain ⟨stage', seen', texts, matched', after, -⟩ := singleSelect_eq_ok single
    obtain ⟨rfl, rfl⟩ := Prod.mk.inj (Except.ok.inj (matched'.symm.trans matched))
    obtain ⟨items', returned', rfl⟩ := afterStage_names after lists
    have nodes : Query.SameNodes { q with branches := [] } q := ⟨rfl, rfl, fun _ => rfl⟩
    rw [nodes.returnItems rfl (nodes.carriedNames rfl rfl rfl fun _ => rfl) rfl rfl] at returned
    obtain rfl := Except.ok.inj (returned'.symm.trans returned)
    rw [List.zip_map_right, List.zip_eq_zipWith, List.zipWith_self, List.map_map] at hp
    obtain ⟨item, -, rfl⟩ := List.mem_map.mp hp
    rfl
  · exact absurd (lists unstaged) aggregated

section select

variable {q : Query} {conditions : Conditions} {branches : List BranchText}
  (bound : ∀ n ∈ q.parameters, allowed (spoken n)) (quiet : q.HasQuietParts)
  (predicates : ∀ text, conditions.text = .ok text → NamesOnly allowed text)

include bound quiet predicates

theorem plainSelect_namesOnly
    (each : ∀ text names, singleSelect parameter q conditions none = .ok (text, names) →
      ∀ b ∈ branches, b.NamesOnly allowed names) {text : String}
    (h : plainSelect parameter q conditions branches = .ok text) : NamesOnly allowed text := by
  obtain ⟨⟨first, names⟩, written, h⟩ := Result.bind_eq_ok h
  obtain ⟨-, -, h⟩ := Result.bind_eq_ok h
  exact appendBranches_namesOnly (each first names written)
    (singleSelect_namesOnly bound quiet predicates (fun _ named => by cases named) written) h

variable (each : ∀ names, GivesNames q conditions names → ∀ b ∈ branches, b.NamesOnly allowed names)

include each

theorem assembleSelect_namesOnly {text : String}
    (h : assembleSelect parameter q conditions branches = .ok text) : NamesOnly allowed text := by
  cases assembles_of_assembleSelect h with
  | plain _ written =>
    exact plainSelect_namesOnly bound quiet predicates
      (fun text names first => each names (Or.inl ⟨text, first⟩)) written
  | @aggregate a copy inner _ _ own unstaged copied written aggregated =>
    obtain rfl := QueryOver.copied_eq_ok copied
    have rows : NamesOnly allowed inner := by
      refine plainSelect_namesOnly (fun n hn => bound n ?_) ?_ predicates (fun _ names _ =>
        each names (Or.inr ⟨unstaged, by simp [own]⟩)) written
      · refine Query.mem_parameters.mpr ?_
        rcases Query.mem_parameters.mp hn with hn | hn | hn | hn | hn
        · exact Or.inl hn
        · exact Or.inr (Or.inl hn)
        · exact Or.inr (Or.inr (Or.inl hn))
        · exact Or.inr (Or.inr (Or.inr (Or.inl hn)))
        · cases hn
      · exact ⟨quiet.patterns, quiet.stages, quiet.columns, quiet.groups, quiet.havings,
          quiet.sortKeys, fun _ none => by cases none⟩
    exact callText_namesOnly rows (aggregateText_namesOnly bound quiet own aggregated)

end select

/-! ### Predicates and sub-queries -/

theorem negate_namesOnly {negated : Bool} {text : String} (h : NamesOnly allowed text) :
    NamesOnly allowed (negate negated text) := by
  have front : Silent "NOT " := by decide
  unfold negate
  split
  · exact front.front h
  · exact h

theorem braced_namesOnly {keyword text : String} (front : Silent (keyword ++ " "))
    (h : NamesOnly allowed text) : NamesOnly allowed (braced keyword text) := by
  have blank : Silent " " := by decide
  exact ((blank.front h).close isSeam_blank).brackets front '\x7b' '\x7d' (by decide) (by decide)
    (by simp [braced, String.toList_append])

theorem compared_namesOnly {column operator value : String} (first : NamesOnly allowed column)
    (silent : IsQuietOperator operator) (second : NamesOnly allowed value) :
    NamesOnly allowed (column ++ " " ++ operator ++ " " ++ value) := by
  have shape : column ++ " " ++ operator ++ " " ++ value =
      column ++ " " ++ (operator ++ " " ++ value) := by
    simp [← String.toList_inj, String.toList_append]
  rw [shape]
  exact first.spaced (Silent.front silent second)

mutual
theorem predicateText_namesOnly : ∀ {p : Predicate} {text : String}, p.IsQuiet →
    (∀ n ∈ p.parameters, allowed (spoken n)) → predicateText parameter p = .ok text →
      NamesOnly allowed text
  | .compared _ c operator binding, _, quiet, bound, h => by
    obtain ⟨column, found, h⟩ := Result.bind_eq_ok h
    obtain rfl := Except.ok.inj h
    exact compared_namesOnly (columnText_namesOnly quiet.1 found) quiet.2
      (namesOnly_parameter (bound binding (List.mem_singleton_self _)))
  | .among _ c binding negated, _, quiet, bound, h => by
    obtain ⟨column, found, h⟩ := Result.bind_eq_ok h
    obtain rfl := Except.ok.inj h
    exact negate_namesOnly ((columnText_namesOnly quiet found).behind (by decide)
      (namesOnly_parameter (bound binding (List.mem_singleton_self _))))
  | .between _ c binding negated, _, quiet, bound, h => by
    obtain ⟨column, found, h⟩ := Result.bind_eq_ok h
    obtain rfl := Except.ok.inj h
    have value : NamesOnly allowed (parameter binding) :=
      namesOnly_parameter (bound binding (List.mem_singleton_self _))
    have range := ((value.behind (by decide : IsSeam "[0] <= ")
      (columnText_namesOnly quiet found)).behind (by decide : IsSeam " <= ") value).close
      (by decide : IsSeam "[1]")
    have front : Silent "NOT " := by decide
    split
    · exact range.brackets front '(' ')' (by decide) (by decide) (by simp [String.toList_append])
    · exact range
  | .isNull _ c negated, _, quiet, _, h => by
    obtain ⟨column, found, h⟩ := Result.bind_eq_ok h
    obtain rfl := Except.ok.inj h
    have tail : ∀ negated : Bool, NamesOnly allowed ((if negated then "NOT " else "") ++ "NULL") := by
      intro negated
      refine Silent.namesOnly ?_
      cases negated <;> decide
    rw [String.append_assoc]
    exact (columnText_namesOnly quiet found).behind (by decide) (tail negated)
  | .carried _ _ _ _, _, quiet, _, h => by
    obtain rfl := Except.ok.inj h
    exact Silent.namesOnly quiet
  | .nested _ wheres, _, quiet, bound, h => by
    obtain ⟨entries, found, h⟩ := Result.bind_eq_ok h
    obtain rfl := Except.ok.inj h
    split
    · exact namesOnly_empty
    · exact (joinConditions_namesOnly (conditionTexts_namesOnly quiet bound found)).parentheses
  | .comparedRow _ c operator s, _, quiet, bound, h => by
    obtain ⟨column, found, h⟩ := Result.bind_eq_ok h
    obtain ⟨inner, written, h⟩ := Result.bind_eq_ok h
    obtain rfl := Except.ok.inj h
    have rows : NamesOnly allowed (braced "COLLECT" inner) :=
      braced_namesOnly (by decide) (subQueryText_namesOnly quiet.2.2 bound written)
    have row : NamesOnly allowed ("head(" ++ braced "COLLECT" inner ++ ")") :=
      rows.brackets (show Silent "head" by decide) '(' ')' (by decide) (by decide)
        (by simp [String.toList_append])
    have shape : column ++ " " ++ operator ++ " head(" ++ braced "COLLECT" inner ++ ")" =
        column ++ " " ++ operator ++ " " ++ ("head(" ++ braced "COLLECT" inner ++ ")") := by
      simp [← String.toList_inj, String.toList_append]
    rw [shape]
    exact compared_namesOnly (columnText_namesOnly quiet.1 found) quiet.2.1 row
  | .amongRows _ c s negated, _, quiet, bound, h => by
    obtain ⟨column, found, h⟩ := Result.bind_eq_ok h
    obtain ⟨inner, written, h⟩ := Result.bind_eq_ok h
    obtain rfl := Except.ok.inj h
    exact negate_namesOnly ((columnText_namesOnly quiet.1 found).behind (by decide)
      (braced_namesOnly (by decide) (subQueryText_namesOnly quiet.2 bound written)))
  | .present _ s negated, _, quiet, bound, h => by
    obtain ⟨inner, written, h⟩ := Result.bind_eq_ok h
    obtain rfl := Except.ok.inj h
    exact negate_namesOnly
      (braced_namesOnly (by decide) (subQueryText_namesOnly quiet bound written))
  | .foreign _, _, _, _, h => by cases h
termination_by structural p => p
theorem conditionTexts_namesOnly : ∀ {wheres : List Predicate}
    {entries : List (Connective × String)}, areQuiet wheres →
      (∀ n ∈ parametersOfAll wheres, allowed (spoken n)) →
      conditionTexts parameter wheres = .ok entries → ∀ e ∈ entries, NamesOnly allowed e.2
  | [], _, _, _, h => by
    cases h
    simp
  | _ :: _, _, quiet, bound, h => by
    refine forall_conditionTexts_cons h (fun text written _ => ?_) fun others found => ?_
    · exact predicateText_namesOnly quiet.1 (fun n hn => bound n (List.mem_append_left _ hn)) written
    · exact conditionTexts_namesOnly quiet.2 (fun n hn => bound n (List.mem_append_right _ hn)) found
termination_by structural wheres => wheres
theorem subQueryText_namesOnly : ∀ {s : SubQuery} {text : String}, s.IsQuiet →
    (∀ n ∈ s.parameters, allowed (spoken n)) → subQueryText parameter s = .ok text →
      NamesOnly allowed text
  | .own q, _, quiet, bound, h | .shared _ (some q), _, quiet, bound, h => by
    have own : ∀ n ∈ Query.parameters q, allowed (spoken n) := bound
    refine assembleSelect_namesOnly own quiet.1 (fun text written => ?_)
      (fun names _ => branchTexts_namesOnly quiet.2.2 (fun n hn =>
        own n (Query.mem_parameters.mpr (Or.inr (Or.inr (Or.inr (Or.inl hn)))))) names) h
    obtain ⟨entries, found, written⟩ := Result.bind_eq_ok written
    obtain rfl := Except.ok.inj written
    exact joinConditions_namesOnly (conditionTexts_namesOnly quiet.2.1
      (fun n hn => own n (Query.mem_parameters.mpr (Or.inr (Or.inl hn)))) found)
  | .shared _ none, _, _, _, h | .foreign _, _, _, _, h => by cases h
termination_by structural s => s
theorem branchTexts_namesOnly : ∀ {branches : List Branch}, areQuietBranches branches →
    (∀ n ∈ parametersOfBranches branches, allowed (spoken n)) →
      ∀ names, ∀ b ∈ branchTexts parameter branches, b.NamesOnly allowed names
  | [], _, _, _ => by simp [branchTexts]
  | ⟨s, keepsAll⟩ :: rest, quiet, bound, names => by
    rw [branchTexts]
    exact List.forall_mem_cons.mpr ⟨branchContent_namesOnly quiet.1.1 quiet.1.2
        (fun n hn => bound n (List.mem_append_left _ hn)) keepsAll names,
      branchTexts_namesOnly quiet.2 (fun n hn => bound n (List.mem_append_right _ hn)) names⟩
termination_by structural branches => branches
theorem branchContent_namesOnly : ∀ {s : SubQuery}, s.IsQuiet →
    (∀ q, s.query? = some q → q.CutsCleanly) → (∀ n ∈ s.parameters, allowed (spoken n)) →
      ∀ (keepsAll : Bool) (names : List String),
        BranchText.NamesOnly allowed names ⟨keepsAll, branchContent parameter s⟩
  | .own q, quiet, cut, bound, _, _, _, h | .shared _ (some q), quiet, cut, bound, _, _, _, h => by
    obtain rfl := Except.ok.inj h
    intro text columns written
    have own : ∀ n ∈ Query.parameters q, allowed (spoken n) := bound
    refine singleSelect_namesOnly own quiet.1 (fun text written => ?_)
      (fun given _ _ stage seen items matched returned p hp _ =>
        cut q rfl stage seen items matched returned p.1 (List.of_mem_zip hp).1) written
    obtain ⟨entries, found, written⟩ := Result.bind_eq_ok written
    obtain rfl := Except.ok.inj written
    exact joinConditions_namesOnly (conditionTexts_namesOnly quiet.2.1
      (fun n hn => own n (Query.mem_parameters.mpr (Or.inr (Or.inl hn)))) found)
  | .shared _ none, _, _, _, _, _, _, h | .foreign _, _, _, _, _, _, _, h => by cases h
termination_by structural s => s
end

/-! ### Whole queries -/

section query

variable {q : Query} (bound : ∀ n ∈ q.parameters, allowed (spoken n))

include bound

theorem predicatesText_namesOnly (quiet : areQuiet q.wheres) {text : String}
    (h : predicatesText parameter q.wheres = .ok text) : NamesOnly allowed text := by
  obtain ⟨entries, found, h⟩ := Result.bind_eq_ok h
  obtain rfl := Except.ok.inj h
  exact joinConditions_namesOnly (conditionTexts_namesOnly quiet
    (fun n hn => bound n (Query.mem_parameters.mpr (Or.inr (Or.inl hn)))) found)

variable (quiet : q.IsQuiet)

include quiet

/-- A branch that is the query itself has the names it gets, so that nothing in it is cut. -/
theorem repeated_namesOnly {keepsAll : Bool} {names : List String}
    (given : GivesNames q (conditionsOf parameter q) names) : BranchText.NamesOnly allowed names
      ⟨keepsAll, .ok ({ q with branches := [] }, conditionsOf parameter q)⟩ := by
  intro content same text columns written
  obtain rfl := Except.ok.inj same
  refine singleSelect_namesOnly (q := { q with branches := [] }) (fun n hn => bound n ?_) ?_
    (fun _ => predicatesText_namesOnly bound quiet.wheres) ?_ written
  · rw [Query.mem_parameters] at hn ⊢
    rcases hn with hn | hn | hn | hn | hn
    · exact Or.inl hn
    · exact Or.inr (Or.inl hn)
    · exact Or.inr (Or.inr (Or.inl hn))
    · cases hn
    · exact Or.inr (Or.inr (Or.inr (Or.inr hn)))
  · have parts := quiet.parts
    exact ⟨parts.patterns, parts.stages, parts.columns, parts.groups, parts.havings, parts.sortKeys,
      parts.aggregate⟩
  · intro names' same lists stage seen items matched returned p hp other
    obtain rfl := Option.some.inj same
    exact absurd (given.columnName_eq lists matched returned p hp) other

/-- The select of a quiet query mentions its parameters. -/
theorem selectText_namesOnly {text : String} (h : selectText parameter q = .ok text) :
    NamesOnly allowed text := by
  refine assembleSelect_namesOnly bound quiet.parts
    (fun _ written => predicatesText_namesOnly bound quiet.wheres written) (fun names given => ?_) h
  have each : ∀ branches : List Branch, (∀ b ∈ branches, b ∈ q.branches) →
      ∀ b ∈ branchTexts parameter branches, b.NamesOnly allowed names := by
    intro branches
    induction branches with
    | nil => simp [branchTexts]
    | cons b rest ih =>
      intro members
      obtain ⟨member, others⟩ := List.forall_mem_cons.mp members
      rw [branchTexts]
      refine List.forall_mem_cons.mpr ⟨?_, ih others⟩
      rcases quiet.branches b member with ⟨number, same⟩ | ⟨silent, cut⟩
      · rw [same]
        exact repeated_namesOnly bound quiet given
      · refine branchContent_namesOnly silent cut (fun n hn => bound n ?_) b.keepsAll names
        exact Query.mem_parameters.mpr (Or.inr (Or.inr (Or.inr (Or.inl
          (mem_parametersOfBranches.mpr ⟨b, member, hn⟩)))))
  exact each q.branches fun _ => id

theorem statementText_namesOnly {text : String} (h : statementText q = .ok text) :
    NamesOnly allowed text := by
  obtain ⟨-, -, h⟩ := Result.bind_eq_ok h
  exact selectText_namesOnly bound quiet h

end query

/-! ### Changes -/

variable {q : Query} {node : String}

theorem affected_namesOnly {text : String} (h : NamesOnly allowed text) (silent : Silent node) :
    NamesOnly allowed (text ++ affectedText node) := by
  have count : Silent "count" := by decide
  have rows : NamesOnly allowed ("count(" ++ node ++ ")") :=
    silent.namesOnly.brackets count '(' ')' (by decide) (by decide) (by simp [String.toList_append])
  rw [affectedText_eq]
  exact (h.behind (by decide) rows).close (by decide)

section change

variable (bound : ∀ n ∈ q.parameters, allowed (spoken n)) (parts : q.HasQuietParts)
  (wheres : areQuiet q.wheres)

include bound parts wheres

theorem targetText_namesOnly {text : String} (h : targetText q = .ok text) :
    NamesOnly allowed text := by
  obtain ⟨⟨stage, seen⟩, matched, h⟩ := Result.bind_eq_ok h
  have whole : NamesOnly allowed stage := (matchStage_namesOnly bound parts
    (fun _ written => predicatesText_namesOnly bound wheres written) matched).1
  dsimp only at h
  split at h
  · obtain ⟨node, target, h⟩ := Result.bind_eq_ok h
    obtain rfl := Except.ok.inj h
    refine whole.behind (by decide) (Silent.namesOnly ?_)
    cases node with
    | none => exact (by decide : Silent "None")
    | some p => exact (placeholder?_isPlainText target).2.silent
  · obtain rfl := Except.ok.inj h
    exact whole

theorem updateText_namesOnly {assignments : Assignments}
    (h : ∀ a ∈ assignments, allowed (spoken a.2)) {text : String}
    (written : updateText q assignments = .ok text) : NamesOnly allowed text := by
  obtain ⟨node, target, found, picked, rfl⟩ := updateText_eq written
  have silent := (placeholder?_isPlainText found).2.silent
  have sets : NamesOnly allowed (setsText node assignments) :=
    (setsText_carries silent assignments).namesOnly (List.forall_mem_map.mpr h)
  rw [← String.append_assoc, ← String.append_assoc]
  exact affected_namesOnly ((targetText_namesOnly bound parts wheres picked).behind
    (by decide) sets) silent

theorem deleteText_namesOnly {text : String} (written : deleteText q = .ok text) :
    NamesOnly allowed text := by
  obtain ⟨node, target, written⟩ := Result.bind_eq_ok written
  obtain ⟨stage, picked, written⟩ := Result.bind_eq_ok written
  obtain rfl := Except.ok.inj written
  have silent := writeTarget_silent target
  exact affected_namesOnly (NamesOnly.behind (targetText_namesOnly bound parts wheres picked)
    (by decide) silent.namesOnly) silent

theorem relabelText_namesOnly {labels operation : Value} {text : String}
    (written : relabelText q labels operation = .ok text) : NamesOnly allowed text := by
  obtain ⟨node, target, written⟩ := Result.bind_eq_ok written
  have silent := writeTarget_silent target
  have whole : ∀ keyword : String, Silent keyword → (do
      let target ← targetText q
      return target ++ " " ++ keyword ++ " " ++ node ++ (← labelsText labels) ++ affectedText node) =
        .ok text → NamesOnly allowed text := by
    intro keyword word written
    obtain ⟨stage, picked, written⟩ := Result.bind_eq_ok written
    obtain ⟨labels, labelled, written⟩ := Result.bind_eq_ok written
    obtain rfl := Except.ok.inj written
    have inside : NamesOnly allowed (stage ++ " " ++ keyword ++ " " ++ (node ++ labels)) :=
      ((targetText_namesOnly bound parts wheres picked).spaced word.namesOnly).spaced
        (silent.append (labelsText_silent labelled)).namesOnly
    rw [← String.append_assoc] at inside
    exact affected_namesOnly inside silent
  dsimp only at written
  split at written
  · exact whole "SET" (by decide) written
  · exact whole "REMOVE" (by decide) written
  · cases written

end change

end GraphQuery.Cypher
