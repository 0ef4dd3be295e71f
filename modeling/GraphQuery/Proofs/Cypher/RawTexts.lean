import GraphQuery.Execution.LiveQuery
import GraphQuery.Proofs.Cypher.Quiet
import GraphQuery.Proofs.Query.Parameters

/-! # Texts that are written as they are

A query is *silent* if the texts in it that are written as they are mention nothing, at any depth.  It is
quiet only if nothing in it is cut apart besides, and there is one place where that can happen: an item
of a branch that gets another name.  So a silent query is quiet if all branches in it cut their items
cleanly (`Query.IsSilent.areQuiet`), and it is when its branches have been brought up to date
(`Query.IsSilent.settle`).

Being silent says nothing about the names of bindings (`SubQuery.IsSilent.rename`). -/

namespace GraphQuery

open GraphQuery.Text GraphQuery.Cypher

/-! ### Silent queries -/

mutual
/-- A predicate in which all texts are silent that are written as they are. -/
def Predicate.IsSilent : Predicate → Prop
  | .compared _ c operator _ => c.IsQuiet ∧ IsQuietOperator operator
  | .among _ c _ _ | .between _ c _ _ | .isNull _ c _ => c.IsQuiet
  | .carried _ column operator value => Silent (column ++ " " ++ operator ++ " " ++ value)
  | .nested _ wheres => areSilent wheres
  | .comparedRow _ c operator s => c.IsQuiet ∧ IsQuietOperator operator ∧ s.IsSilent
  | .amongRows _ c s _ => c.IsQuiet ∧ s.IsSilent
  | .present _ s _ => s.IsSilent
  | .foreign _ => True
/-- The same of predicates. -/
def areSilent : List Predicate → Prop
  | [] => True
  | p :: rest => p.IsSilent ∧ areSilent rest
/-- The same of a sub-query. -/
def SubQuery.IsSilent : SubQuery → Prop
  | .own q | .shared _ (some q) =>
    Query.HasQuietParts q ∧ areSilent q.wheres ∧ areSilentBranches q.branches
  | .shared _ none | .foreign _ => True
/-- The same of branches. -/
def areSilentBranches : List Branch → Prop
  | [] => True
  | b :: rest => b.query.IsSilent ∧ areSilentBranches rest
end

/-- A query in which all texts are silent that are written as they are. -/
structure Query.IsSilent (q : Query) : Prop where
  parts : q.HasQuietParts
  wheres : areSilent q.wheres
  branches : areSilentBranches q.branches

theorem areSilent_append {ps : List Predicate} : ∀ {qs : List Predicate}, areSilent qs →
    areSilent ps → areSilent (qs ++ ps)
  | [], _, h => h
  | _ :: _, h, h' => ⟨h.1, areSilent_append h.2 h'⟩

theorem areSilentBranches_append {bs : List Branch} : ∀ {cs : List Branch}, areSilentBranches cs →
    areSilentBranches bs → areSilentBranches (cs ++ bs)
  | [], _, h => h
  | _ :: _, h, h' => ⟨h.1, areSilentBranches_append h.2 h'⟩

/-- Parts whose texts are quoted do not matter, nor do numbers. -/
theorem Query.IsSilent.other {q : Query} (h : q.IsSilent) (labels entity limit offset isDistinct : Value)
    (standIns : List (QueryPart × Value)) :
    Query.IsSilent { q with labels, entity, limit, offset, isDistinct, standIns } :=
  ⟨⟨h.parts.patterns, h.parts.stages, h.parts.columns, h.parts.groups, h.parts.havings,
    h.parts.sortKeys, h.parts.aggregate⟩, h.wheres, h.branches⟩

/-! ### Branches -/

mutual
/-- The queries that are branches somewhere in a predicate. -/
def Predicate.branchQueries : Predicate → List Query
  | .nested _ wheres => branchQueriesOfAll wheres
  | .comparedRow _ _ _ s | .amongRows _ _ s _ | .present _ s _ => s.branchQueries
  | .compared _ _ _ _ | .among _ _ _ _ | .between _ _ _ _ | .isNull _ _ _ | .carried _ _ _ _
  | .foreign _ => []
/-- The same of predicates. -/
def branchQueriesOfAll : List Predicate → List Query
  | [] => []
  | p :: rest => p.branchQueries ++ branchQueriesOfAll rest
/-- The same of a sub-query. -/
def SubQuery.branchQueries : SubQuery → List Query
  | .own q | .shared _ (some q) => branchQueriesOfAll q.wheres ++ branchQueriesOfBranches q.branches
  | .shared _ none | .foreign _ => []
/-- The queries of branches, and those that are branches in these. -/
def branchQueriesOfBranches : List Branch → List Query
  | [] => []
  | b :: rest => b.query.query?.toList ++ b.query.branchQueries ++ branchQueriesOfBranches rest
end

/-- The queries that are branches of a query, at any depth. -/
def Query.branchQueries (q : Query) : List Query :=
  branchQueriesOfAll q.wheres ++ branchQueriesOfBranches q.branches

/-- The queries cut their items cleanly. -/
def AllCutCleanly (qs : List Query) : Prop := ∀ q ∈ qs, q.CutsCleanly

theorem allCutCleanly_append {qs rs : List Query} :
    AllCutCleanly (qs ++ rs) ↔ AllCutCleanly qs ∧ AllCutCleanly rs := List.forall_mem_append

mutual
theorem Predicate.IsSilent.isQuiet : ∀ {p : Predicate}, p.IsSilent → AllCutCleanly p.branchQueries →
    p.IsQuiet
  | .compared .., h, _ | .among .., h, _ | .between .., h, _ | .isNull .., h, _ | .carried .., h, _
  | .foreign _, h, _ => h
  | .nested _ _, h, clean => areSilent.areQuiet h clean
  | .comparedRow _ _ _ _, h, clean => ⟨h.1, h.2.1, SubQuery.IsSilent.isQuiet h.2.2 clean⟩
  | .amongRows _ _ _ _, h, clean => ⟨h.1, SubQuery.IsSilent.isQuiet h.2 clean⟩
  | .present _ _ _, h, clean => SubQuery.IsSilent.isQuiet h clean
termination_by structural p => p
theorem areSilent.areQuiet : ∀ {ps : List Predicate}, areSilent ps →
    AllCutCleanly (branchQueriesOfAll ps) → areQuiet ps
  | [], _, _ => trivial
  | _ :: _, h, clean => by
    obtain ⟨first, rest⟩ := allCutCleanly_append.mp clean
    exact ⟨Predicate.IsSilent.isQuiet h.1 first, areSilent.areQuiet h.2 rest⟩
termination_by structural ps => ps
theorem SubQuery.IsSilent.isQuiet : ∀ {s : SubQuery}, s.IsSilent → AllCutCleanly s.branchQueries →
    s.IsQuiet
  | .own _, h, clean | .shared _ (some _), h, clean => by
    obtain ⟨wheres, branches⟩ := allCutCleanly_append.mp clean
    exact ⟨h.1, areSilent.areQuiet h.2.1 wheres, areSilentBranches.areQuiet h.2.2 branches⟩
  | .shared _ none, _, _ | .foreign _, _, _ => trivial
termination_by structural s => s
theorem areSilentBranches.areQuiet : ∀ {bs : List Branch}, areSilentBranches bs →
    AllCutCleanly (branchQueriesOfBranches bs) → areQuietBranches bs
  | [], _, _ => trivial
  | ⟨s, _⟩ :: _, h, clean => by
    obtain ⟨first, rest⟩ := allCutCleanly_append.mp clean
    obtain ⟨own, inner⟩ := allCutCleanly_append.mp first
    exact ⟨⟨SubQuery.IsSilent.isQuiet h.1 inner, fun q found => own q (by simp [found])⟩,
      areSilentBranches.areQuiet h.2 rest⟩
termination_by structural bs => bs
end

theorem areQuietBranches_of_mem {b : Branch} : ∀ {bs : List Branch}, areQuietBranches bs → b ∈ bs →
    b.query.IsQuiet ∧ ∀ q, b.query.query? = some q → q.CutsCleanly
  | _ :: _, h, member => by
    rcases List.mem_cons.mp member with rfl | later
    · exact h.1
    · exact areQuietBranches_of_mem h.2 later

namespace Query

variable {q : Query} {number : Nat}

/-- A branch that is brought up to date is the query itself; the other ones stay. -/
theorem settleBranch_cases (number : Nat) (q : Query) (b : Branch) :
    settleBranch number q b = b ∨ (settleBranch number q b).Repeats (settle number q) := by
  unfold settleBranch
  split
  · split
    · exact Or.inr ⟨_, rfl⟩
    · exact Or.inl rfl
  · exact Or.inl rfl

/-- A silent query whose branches cut their items cleanly is quiet when it is written. -/
theorem IsSilent.settle (h : q.IsSilent) (clean : AllCutCleanly q.branchQueries) :
    (settle number q).IsQuiet := by
  obtain ⟨wheres, branches⟩ := allCutCleanly_append.mp clean
  have each := areSilentBranches.areQuiet h.branches branches
  refine ⟨⟨h.parts.patterns, h.parts.stages, h.parts.columns, h.parts.groups, h.parts.havings,
    h.parts.sortKeys, h.parts.aggregate⟩, areSilent.areQuiet h.wheres wheres, fun b member => ?_⟩
  obtain ⟨own, inside, rfl⟩ := List.mem_map.mp member
  rcases settleBranch_cases number q own with same | repeats
  · rw [same]
    exact Or.inr (areQuietBranches_of_mem each inside)
  · exact Or.inl repeats

/-- Bringing branches up to date gives a query no further parameters. -/
theorem mem_parameters_of_settle {n : String} (h : n ∈ (settle number q).parameters) :
    n ∈ q.parameters := by
  rw [mem_parameters] at h ⊢
  rcases h with own | own | own | branch | own
  · exact Or.inl own
  · exact Or.inr (Or.inl own)
  · exact Or.inr (Or.inr (Or.inl own))
  · obtain ⟨b, member, inside⟩ := mem_parametersOfBranches.mp branch
    obtain ⟨own, given, rfl⟩ := List.mem_map.mp member
    rcases settleBranch_cases number q own with same | ⟨m, repeats⟩
    · rw [same] at inside
      exact Or.inr (Or.inr (Or.inr (Or.inl (mem_parametersOfBranches.mpr ⟨own, given, inside⟩))))
    · rw [repeats] at inside
      have inside : n ∈ Query.parameters { q with branches := [] } := inside
      rw [mem_parameters] at inside
      rcases inside with own | own | own | none | own
      · exact Or.inl own
      · exact Or.inr (Or.inl own)
      · exact Or.inr (Or.inr (Or.inl own))
      · cases none
      · exact Or.inr (Or.inr (Or.inr (Or.inr own)))
  · exact Or.inr (Or.inr (Or.inr (Or.inr own)))

end Query

/-! ### Other names of bindings -/

section rename

variable (renames : BindingTable.Renames)

omit renames in
theorem Member.map_eq_clause {α : Type} {f : α → α} {m : Member α} {b : α}
    (h : m.map f = .clause b) : ∃ a, m = .clause a ∧ f a = b := by
  cases m with
  | foreign v => cases h
  | clause a => exact ⟨a, rfl, Member.clause.inj h⟩

theorem hasQuietParts_rename {q : Query} (h : q.HasQuietParts) (standIns : List (QueryPart × Value))
    (wheres : List Predicate) (branches : List Branch) :
    Query.HasQuietParts { q with
      standIns, wheres, branches
      patterns := q.patterns.map (·.map (Pattern.rename renames))
      havings := q.havings.map (·.map (Having.rename renames))
      aggregate := q.aggregate.map (·.map (Aggregate.rename renames)) } := by
  refine ⟨fun p member => ?_, h.stages, h.columns, h.groups, fun g member => ?_, h.sortKeys,
    fun a found => ?_⟩
  · obtain ⟨m, inside, same⟩ := List.mem_map.mp member
    obtain ⟨own, rfl, rfl⟩ := Member.map_eq_clause same
    exact h.patterns own inside
  · obtain ⟨m, inside, same⟩ := List.mem_map.mp member
    obtain ⟨own, rfl, rfl⟩ := Member.map_eq_clause same
    exact h.havings own inside
  · obtain ⟨m, own, same⟩ := Option.map_eq_some_iff.mp found
    obtain ⟨b, rfl, rfl⟩ := Member.map_eq_clause same
    exact h.aggregate b own

mutual
theorem Predicate.IsSilent.rename : ∀ {p copy : Predicate}, p.IsSilent →
    p.rename renames = .ok copy → copy.IsSilent
  | .compared .., _, silent, h | .among .., _, silent, h | .between .., _, silent, h
  | .isNull .., _, silent, h | .carried .., _, silent, h | .foreign _, _, silent, h => by
    obtain rfl := Except.ok.inj h
    exact silent
  | .nested _ wheres, _, silent, h => by
    obtain ⟨copies, found, h⟩ := Result.bind_eq_ok h
    obtain rfl := Except.ok.inj h
    exact areSilent.rename silent found
  | .comparedRow _ c operator s, _, silent, h => by
    obtain ⟨copy, found, h⟩ := Result.bind_eq_ok h
    obtain rfl := Except.ok.inj h
    exact ⟨silent.1, silent.2.1, SubQuery.IsSilent.rename silent.2.2 found⟩
  | .amongRows _ c s _, _, silent, h => by
    obtain ⟨copy, found, h⟩ := Result.bind_eq_ok h
    obtain rfl := Except.ok.inj h
    exact ⟨silent.1, SubQuery.IsSilent.rename silent.2 found⟩
  | .present _ s _, _, silent, h => by
    obtain ⟨copy, found, h⟩ := Result.bind_eq_ok h
    obtain rfl := Except.ok.inj h
    exact SubQuery.IsSilent.rename silent found
termination_by structural p => p
theorem areSilent.rename : ∀ {ps copies : List Predicate}, areSilent ps →
    renameAll renames ps = .ok copies → areSilent copies
  | [], _, _, h => by
    obtain rfl := Except.ok.inj h
    trivial
  | p :: rest, _, silent, h => by
    obtain ⟨copy, first, h⟩ := Result.bind_eq_ok h
    obtain ⟨copies, others, h⟩ := Result.bind_eq_ok h
    obtain rfl := Except.ok.inj h
    exact ⟨Predicate.IsSilent.rename silent.1 first, areSilent.rename silent.2 others⟩
termination_by structural ps => ps
theorem SubQuery.IsSilent.rename : ∀ {s copy : SubQuery}, s.IsSilent →
    s.rename renames = .ok copy → copy.IsSilent
  | .own q, _, silent, h | .shared _ (some q), _, silent, h => by
    obtain ⟨kept, copied, h⟩ := Result.bind_eq_ok h
    obtain ⟨wheres, first, h⟩ := Result.bind_eq_ok h
    obtain ⟨branches, others, h⟩ := Result.bind_eq_ok h
    obtain rfl := Except.ok.inj h
    obtain ⟨-, -, copied⟩ := Result.bind_eq_ok copied
    obtain ⟨-, -, copied⟩ := Result.bind_eq_ok copied
    obtain rfl := Except.ok.inj copied
    exact ⟨hasQuietParts_rename renames silent.1 _ _ _, areSilent.rename silent.2.1 first,
      areSilentBranches.rename silent.2.2 others⟩
  | .shared _ none, _, _, h => by cases h
  | .foreign _, _, _, h => by
    obtain rfl := Except.ok.inj h
    trivial
termination_by structural s => s
theorem areSilentBranches.rename : ∀ {bs copies : List Branch}, areSilentBranches bs →
    renameBranches renames bs = .ok copies → areSilentBranches copies
  | [], _, _, h => by
    obtain rfl := Except.ok.inj h
    trivial
  | ⟨s, keepsAll⟩ :: rest, _, silent, h => by
    obtain ⟨copy, first, h⟩ := Result.bind_eq_ok h
    obtain ⟨copies, others, h⟩ := Result.bind_eq_ok h
    obtain rfl := Except.ok.inj h
    exact ⟨SubQuery.IsSilent.rename silent.1 first, areSilentBranches.rename silent.2 others⟩
termination_by structural bs => bs
end

end rename

end GraphQuery
