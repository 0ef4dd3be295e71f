import GraphQuery.Builder.Basic
import GraphQuery.Proofs.Outcome

/-! # The parameters that a query names

`Query.parameters` lists the names of bindings that stand in the clauses of a query: in patterns,
predicates, conditions on groups, branches and the aggregate, and at any depth in groups and
sub-queries.

A copy under new names has the new names in the places of the old ones
(`SubQuery.parameters_rename`). -/

namespace GraphQuery

open BindingTable

/-- The parameters of patterns. -/
def patternParameters (patterns : List (Member Pattern)) : List String :=
  patterns.filterMap fun m => m.clause?.bind (·.binding)

/-- The parameters of conditions on groups. -/
def havingParameters (havings : List (Member Having)) : List String :=
  havings.filterMap fun m => m.clause?.map (·.binding)

/-- The parameter of an aggregate. -/
def aggregateParameters (aggregate : Option (Member Aggregate)) : List String :=
  (aggregate.bind fun m => m.clause?.bind (·.percentile)).toList

mutual
/-- The parameters of a predicate. -/
def Predicate.parameters : Predicate → List String
  | .compared _ _ _ binding | .among _ _ binding _ | .between _ _ binding _ => [binding]
  | .isNull _ _ _ | .carried _ _ _ _ | .foreign _ => []
  | .nested _ wheres => parametersOfAll wheres
  | .comparedRow _ _ _ s | .amongRows _ _ s _ | .present _ s _ => s.parameters
/-- The parameters of predicates. -/
def parametersOfAll : List Predicate → List String
  | [] => []
  | p :: rest => p.parameters ++ parametersOfAll rest
/-- The parameters of a sub-query. -/
def SubQuery.parameters : SubQuery → List String
  | .own q | .shared _ (some q) =>
    patternParameters q.patterns ++ parametersOfAll q.wheres ++ havingParameters q.havings ++
      parametersOfBranches q.branches ++ aggregateParameters q.aggregate
  | .shared _ none | .foreign _ => []
/-- The parameters of branches. -/
def parametersOfBranches : List Branch → List String
  | [] => []
  | b :: rest => b.query.parameters ++ parametersOfBranches rest
end

/-- The parameters of a query. -/
def Query.parameters (q : Query) : List String :=
  patternParameters q.patterns ++ parametersOfAll q.wheres ++ havingParameters q.havings ++
    parametersOfBranches q.branches ++ aggregateParameters q.aggregate

/-! ### Lists of clauses -/

theorem patternParameters_append (xs ys : List (Member Pattern)) :
    patternParameters (xs ++ ys) = patternParameters xs ++ patternParameters ys :=
  List.filterMap_append

theorem havingParameters_append (xs ys : List (Member Having)) :
    havingParameters (xs ++ ys) = havingParameters xs ++ havingParameters ys :=
  List.filterMap_append

theorem parametersOfAll_append (ys : List Predicate) : ∀ xs : List Predicate,
    parametersOfAll (xs ++ ys) = parametersOfAll xs ++ parametersOfAll ys
  | [] => rfl
  | x :: xs => by
    rw [List.cons_append, parametersOfAll, parametersOfAll, parametersOfAll_append ys xs,
      List.append_assoc]

theorem parametersOfBranches_append (ys : List Branch) : ∀ xs : List Branch,
    parametersOfBranches (xs ++ ys) = parametersOfBranches xs ++ parametersOfBranches ys
  | [] => rfl
  | x :: xs => by
    rw [List.cons_append, parametersOfBranches, parametersOfBranches,
      parametersOfBranches_append ys xs, List.append_assoc]

theorem mem_parametersOfBranches {n : String} : ∀ {branches : List Branch},
    n ∈ parametersOfBranches branches ↔ ∃ b ∈ branches, n ∈ b.query.parameters
  | [] => by simp [parametersOfBranches]
  | b :: rest => by
    rw [parametersOfBranches, List.mem_append, mem_parametersOfBranches]
    simp

theorem Query.mem_parameters {q : Query} {n : String} : n ∈ q.parameters ↔
    n ∈ patternParameters q.patterns ∨ n ∈ parametersOfAll q.wheres ∨
      n ∈ havingParameters q.havings ∨ n ∈ parametersOfBranches q.branches ∨
      n ∈ aggregateParameters q.aggregate := by
  unfold Query.parameters
  simp only [List.mem_append, or_assoc]

theorem Query.mem_parameters_of_pattern {q : Query} {p : Pattern} (member : .clause p ∈ q.patterns)
    {n : String} (own : n ∈ p.binding) : n ∈ q.parameters :=
  Query.mem_parameters.mpr (Or.inl (List.mem_filterMap.mpr ⟨_, member, own⟩))

/-! ### Under new names -/

theorem patternParameters_rename (renames : Renames) (patterns : List (Member Pattern)) :
    patternParameters (patterns.map (·.map (Pattern.rename renames))) =
      (patternParameters patterns).map renames.apply := by
  unfold patternParameters
  rw [List.filterMap_map, List.map_filterMap]
  congr 1
  funext m
  cases m <;> rfl

theorem havingParameters_rename (renames : Renames) (havings : List (Member Having)) :
    havingParameters (havings.map (·.map (Having.rename renames))) =
      (havingParameters havings).map renames.apply := by
  unfold havingParameters
  rw [List.filterMap_map, List.map_filterMap]
  congr 1
  funext m
  cases m <;> rfl

theorem aggregateParameters_rename (renames : Renames) :
    ∀ aggregate : Option (Member Aggregate),
      aggregateParameters (aggregate.map (·.map (Aggregate.rename renames))) =
        (aggregateParameters aggregate).map renames.apply
  | none | some (.foreign _) => rfl
  | some (.clause ⟨_, _, _, none⟩) | some (.clause ⟨_, _, _, some _⟩) => rfl

mutual
theorem Predicate.parameters_rename (renames : Renames) : ∀ (p : Predicate) {copy : Predicate},
    p.rename renames = .ok copy → copy.parameters = p.parameters.map renames.apply
  | .compared .., _, h | .among .., _, h | .between .., _, h | .isNull .., _, h
  | .carried .., _, h | .foreign _, _, h => by
    obtain rfl := Except.ok.inj h
    rfl
  | .nested _ wheres, _, h => by
    obtain ⟨copies, e, h⟩ := Result.bind_eq_ok h
    obtain rfl := Except.ok.inj h
    exact parametersOfAll_rename renames wheres e
  | .comparedRow _ _ _ s, _, h | .amongRows _ _ s _, _, h | .present _ s _, _, h => by
    obtain ⟨copy, e, h⟩ := Result.bind_eq_ok h
    obtain rfl := Except.ok.inj h
    exact SubQuery.parameters_rename renames s e
termination_by structural x => x
theorem parametersOfAll_rename (renames : Renames) :
    ∀ (wheres : List Predicate) {copies : List Predicate},
    renameAll renames wheres = .ok copies →
      parametersOfAll copies = (parametersOfAll wheres).map renames.apply
  | [], _, h => by
    obtain rfl := Except.ok.inj h
    rfl
  | p :: rest, _, h => by
    obtain ⟨copy, e, h⟩ := Result.bind_eq_ok h
    obtain ⟨copies, e', h⟩ := Result.bind_eq_ok h
    obtain rfl := Except.ok.inj h
    rw [parametersOfAll, parametersOfAll, List.map_append, Predicate.parameters_rename renames p e,
      parametersOfAll_rename renames rest e']
termination_by structural x => x
/-- A copy under new names has the new names in the places of the old ones. -/
theorem SubQuery.parameters_rename (renames : Renames) : ∀ (s : SubQuery) {copy : SubQuery},
    s.rename renames = .ok copy → copy.parameters = s.parameters.map renames.apply
  | .own q, _, h | .shared _ (some q), _, h => by
    obtain ⟨kept, same, h⟩ := Result.bind_eq_ok h
    obtain ⟨wheres, e, h⟩ := Result.bind_eq_ok h
    obtain ⟨branches, e', h⟩ := Result.bind_eq_ok h
    obtain rfl := Except.ok.inj h
    simp only [SubQuery.parameters, List.map_append, patternParameters_rename,
      havingParameters_rename, aggregateParameters_rename,
      parametersOfAll_rename renames q.wheres e, parametersOfBranches_rename renames q.branches e']
  | .shared _ none, _, h => by cases h
  | .foreign _, _, h => by
    obtain rfl := Except.ok.inj h
    rfl
termination_by structural x => x
theorem parametersOfBranches_rename (renames : Renames) :
    ∀ (branches : List Branch) {copies : List Branch},
    renameBranches renames branches = .ok copies →
      parametersOfBranches copies = (parametersOfBranches branches).map renames.apply
  | [], _, h => by
    obtain rfl := Except.ok.inj h
    rfl
  | b :: rest, _, h => by
    obtain ⟨copy, e, h⟩ := Result.bind_eq_ok h
    obtain ⟨copies, e', h⟩ := Result.bind_eq_ok h
    obtain rfl := Except.ok.inj h
    rw [parametersOfBranches, parametersOfBranches, List.map_append,
      SubQuery.parameters_rename renames b.query e, parametersOfBranches_rename renames rest e']
termination_by structural x => x
end

end GraphQuery
