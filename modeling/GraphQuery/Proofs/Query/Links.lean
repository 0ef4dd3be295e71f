import GraphQuery.Proofs.Query.Plain
import GraphQuery.Query.Link

/-! # Links of plain queries

* A plain query stays plain when its links are followed again (`Query.relink_isPlain`).
* What it becomes depends on what its links lead to (`Query.relink_congr`). Without links it stays
  as it is (`SubQuery.relink_eq_self`).
* Its parameters are those it had, and those of the queries behind its links
  (`Query.mem_parameters_relink`).

The same holds when every link is followed at any depth (`Query.refreshFrom`), if the queries that
can be found behind links are plain themselves. -/

namespace GraphQuery

/-! ### One step along the links -/

/-- Links lead to queries that pass the test themselves. -/
def LinkTarget.Passes (target : LinkTarget) (test : LinkTest) : Prop :=
  ∀ place number seen, test number seen → test number (target place number) ∧
    ∀ q, target place number = some q → q.IsPlain test

section relink

variable {target target' : LinkTarget} {test : LinkTest}

mutual
theorem Predicate.relink_isPlain (passes : target.Passes test) : ∀ p : Predicate,
    p.IsPlain test → (p.relink target).IsPlain test
  | .nested _ wheres, plain => relinkAll_isPlain passes wheres plain
  | .comparedRow _ _ _ s, plain | .amongRows _ _ s _, plain | .present _ s _, plain =>
    SubQuery.relink_isPlain passes .condition s plain
  | .compared .., _ | .among .., _ | .between .., _ | .isNull .., _ | .carried .., _
  | .foreign _, _ => trivial
termination_by structural p => p
theorem relinkAll_isPlain (passes : target.Passes test) : ∀ wheres : List Predicate,
    arePlain test wheres → arePlain test (relinkAll target wheres)
  | [], _ => trivial
  | p :: rest, plain =>
    ⟨Predicate.relink_isPlain passes p plain.1, relinkAll_isPlain passes rest plain.2⟩
termination_by structural wheres => wheres
theorem SubQuery.relink_isPlain (passes : target.Passes test) (place : LinkPlace) :
    ∀ s : SubQuery, s.IsPlain test → (s.relink target place).IsPlain test
  | .own q, plain => ⟨plain.1, relinkAll_isPlain passes q.wheres plain.2.1,
      relinkBranches_isPlain passes q.branches plain.2.2⟩
  | .shared number seen, plain => by
    obtain ⟨here, inside⟩ := passes place number seen (SubQuery.isPlain_link plain)
    rw [SubQuery.relink]
    cases e : target place number with
    | none =>
        rw [e] at here
        exact here
    | some q => exact SubQuery.isPlain_shared.mpr ⟨e ▸ here, inside q e⟩
  | .foreign _, _ => trivial
termination_by structural s => s
theorem relinkBranches_isPlain (passes : target.Passes test) : ∀ branches : List Branch,
    arePlainBranches test branches → arePlainBranches test (relinkBranches target branches)
  | [], _ => trivial
  | b :: rest, plain => ⟨SubQuery.relink_isPlain passes .branch b.query plain.1,
      relinkBranches_isPlain passes rest plain.2⟩
termination_by structural branches => branches
end

theorem Query.relink_isPlain (passes : target.Passes test) {q : Query} (plain : q.IsPlain test) :
    (q.relink target).IsPlain test :=
  ⟨plain.standIns, relinkAll_isPlain passes q.wheres plain.wheres,
    relinkBranches_isPlain passes q.branches plain.branches⟩

mutual
theorem Predicate.relink_congr
    (same : ∀ place number seen, test number seen → target place number = target' place number) :
    ∀ p : Predicate, p.IsPlain test → p.relink target = p.relink target'
  | .nested j wheres, plain => congrArg (Predicate.nested j) (relinkAll_congr same wheres plain)
  | .comparedRow j c operator s, plain =>
    congrArg (Predicate.comparedRow j c operator) (SubQuery.relink_congr same .condition s plain)
  | .amongRows j c s negated, plain =>
    congrArg (Predicate.amongRows j c · negated) (SubQuery.relink_congr same .condition s plain)
  | .present j s negated, plain =>
    congrArg (Predicate.present j · negated) (SubQuery.relink_congr same .condition s plain)
  | .compared .., _ | .among .., _ | .between .., _ | .isNull .., _ | .carried .., _
  | .foreign _, _ => rfl
termination_by structural p => p
theorem relinkAll_congr
    (same : ∀ place number seen, test number seen → target place number = target' place number) :
    ∀ wheres : List Predicate, arePlain test wheres →
      relinkAll target wheres = relinkAll target' wheres
  | [], _ => rfl
  | p :: rest, plain => by
    rw [relinkAll, relinkAll, Predicate.relink_congr same p plain.1,
      relinkAll_congr same rest plain.2]
termination_by structural wheres => wheres
theorem SubQuery.relink_congr
    (same : ∀ place number seen, test number seen → target place number = target' place number)
    (place : LinkPlace) : ∀ s : SubQuery, s.IsPlain test →
      s.relink target place = s.relink target' place
  | .own q, plain => by
    rw [SubQuery.relink, SubQuery.relink, relinkAll_congr same q.wheres plain.2.1,
      relinkBranches_congr same q.branches plain.2.2]
  | .shared number seen, plain => by
    rw [SubQuery.relink, SubQuery.relink, same place number seen (SubQuery.isPlain_link plain)]
  | .foreign _, _ => rfl
termination_by structural s => s
theorem relinkBranches_congr
    (same : ∀ place number seen, test number seen → target place number = target' place number) :
    ∀ branches : List Branch, arePlainBranches test branches →
      relinkBranches target branches = relinkBranches target' branches
  | [], _ => rfl
  | b :: rest, plain => by
    rw [relinkBranches, relinkBranches, SubQuery.relink_congr same .branch b.query plain.1,
      relinkBranches_congr same rest plain.2]
termination_by structural branches => branches
end

/-- What a query becomes when its links are followed again depends on where its links lead. -/
theorem Query.relink_congr
    (same : ∀ place number seen, test number seen → target place number = target' place number)
    {q : Query} (plain : q.IsPlain test) : q.relink target = q.relink target' := by
  unfold Query.relink
  rw [relinkAll_congr same q.wheres plain.wheres, relinkBranches_congr same q.branches plain.branches]

/-- A name that a query behind a link has. -/
def LinkTarget.Names (target : LinkTarget) (test : LinkTest) (n : String) : Prop :=
  ∃ place number seen q, test number seen ∧ target place number = some q ∧ n ∈ Query.parameters q

mutual
theorem Predicate.mem_parameters_relink {n : String} : ∀ p : Predicate, p.IsPlain test →
    n ∈ (p.relink target).parameters → n ∈ p.parameters ∨ target.Names test n
  | .compared .., _, h | .among .., _, h | .between .., _, h | .isNull .., _, h
  | .carried .., _, h | .foreign _, _, h => Or.inl h
  | .nested _ wheres, plain, h => mem_parametersOfAll_relink wheres plain h
  | .comparedRow _ _ _ s, plain, h | .amongRows _ _ s _, plain, h | .present _ s _, plain, h =>
    SubQuery.mem_parameters_relink .condition s plain h
termination_by structural p => p
theorem mem_parametersOfAll_relink {n : String} : ∀ wheres : List Predicate,
    arePlain test wheres → n ∈ parametersOfAll (relinkAll target wheres) →
      n ∈ parametersOfAll wheres ∨ target.Names test n
  | [], _, h => Or.inl h
  | p :: rest, plain, h => by
    rw [relinkAll, parametersOfAll, List.mem_append] at h
    rw [parametersOfAll, List.mem_append]
    rcases h with h | h
    · exact (Predicate.mem_parameters_relink p plain.1 h).imp_left Or.inl
    · exact (mem_parametersOfAll_relink rest plain.2 h).imp_left Or.inr
termination_by structural wheres => wheres
theorem SubQuery.mem_parameters_relink {n : String} (place : LinkPlace) : ∀ s : SubQuery,
    s.IsPlain test → n ∈ (s.relink target place).parameters →
      n ∈ s.parameters ∨ target.Names test n
  | .own q, plain, h => by
    simp only [SubQuery.relink, SubQuery.parameters, List.mem_append] at h ⊢
    rcases h with (((h | h) | h) | h) | h
    · exact Or.inl (Or.inl (Or.inl (Or.inl (Or.inl h))))
    · exact (mem_parametersOfAll_relink q.wheres plain.2.1 h).imp_left fun h =>
        Or.inl (Or.inl (Or.inl (Or.inr h)))
    · exact Or.inl (Or.inl (Or.inl (Or.inr h)))
    · exact (mem_parametersOfBranches_relink q.branches plain.2.2 h).imp_left fun h =>
        Or.inl (Or.inr h)
    · exact Or.inl (Or.inr h)
  | .shared number seen, plain, h => by
    rw [SubQuery.relink] at h
    cases e : target place number with
    | none =>
        rw [e] at h
        exact absurd h List.not_mem_nil
    | some q =>
        rw [e] at h
        exact Or.inr ⟨place, number, seen, q, SubQuery.isPlain_link plain, e, h⟩
  | .foreign _, _, h => Or.inl h
termination_by structural s => s
theorem mem_parametersOfBranches_relink {n : String} : ∀ branches : List Branch,
    arePlainBranches test branches → n ∈ parametersOfBranches (relinkBranches target branches) →
      n ∈ parametersOfBranches branches ∨ target.Names test n
  | [], _, h => Or.inl h
  | b :: rest, plain, h => by
    rw [relinkBranches, parametersOfBranches, List.mem_append] at h
    rw [parametersOfBranches, List.mem_append]
    rcases h with h | h
    · exact (SubQuery.mem_parameters_relink .branch b.query plain.1 h).imp_left Or.inl
    · exact (mem_parametersOfBranches_relink rest plain.2 h).imp_left Or.inr
termination_by structural branches => branches
end

/-- Following the links of a query again adds the parameters of the linked queries alone. -/
theorem Query.mem_parameters_relink {q : Query} (plain : q.IsPlain test) {n : String}
    (h : n ∈ (q.relink target).parameters) : n ∈ q.parameters ∨ target.Names test n :=
  SubQuery.mem_parameters_relink .condition (.own q) (SubQuery.isPlain_own.mpr plain) h

mutual
theorem Predicate.relink_eq_self : ∀ p : Predicate, p.IsPlain noLink → p.relink target = p
  | .nested j wheres, plain => congrArg (Predicate.nested j) (relinkAll_eq_self wheres plain)
  | .comparedRow j c operator s, plain =>
    congrArg (Predicate.comparedRow j c operator) (SubQuery.relink_eq_self .condition s plain)
  | .amongRows j c s negated, plain =>
    congrArg (Predicate.amongRows j c · negated) (SubQuery.relink_eq_self .condition s plain)
  | .present j s negated, plain =>
    congrArg (Predicate.present j · negated) (SubQuery.relink_eq_self .condition s plain)
  | .compared .., _ | .among .., _ | .between .., _ | .isNull .., _ | .carried .., _
  | .foreign _, _ => rfl
termination_by structural p => p
theorem relinkAll_eq_self : ∀ wheres : List Predicate, arePlain noLink wheres →
    relinkAll target wheres = wheres
  | [], _ => rfl
  | p :: rest, plain => by
    rw [relinkAll, Predicate.relink_eq_self p plain.1, relinkAll_eq_self rest plain.2]
termination_by structural wheres => wheres
theorem SubQuery.relink_eq_self (place : LinkPlace) : ∀ s : SubQuery, s.IsPlain noLink →
    s.relink target place = s
  | .own q, plain => by
    rw [SubQuery.relink, relinkAll_eq_self q.wheres plain.2.1,
      relinkBranches_eq_self q.branches plain.2.2]
  | .shared _ none, plain => plain.elim
  | .shared _ (some _), plain => plain.1.elim
  | .foreign _, _ => rfl
termination_by structural s => s
theorem relinkBranches_eq_self : ∀ branches : List Branch, arePlainBranches noLink branches →
    relinkBranches target branches = branches
  | [], _ => rfl
  | b :: rest, plain => by
    rw [relinkBranches, SubQuery.relink_eq_self .branch b.query plain.1,
      relinkBranches_eq_self rest plain.2]
termination_by structural branches => branches
end

end relink

/-! ### Every link followed -/

/-- The queries that can be found behind links are plain, and so are their links. -/
def Closed (linked : Nat → Prop) (look : Nat → Option Query) : Prop :=
  ∀ n q, linked n → look n = some q → q.IsPlain fun k _ => linked k

namespace Query

variable {linked : Nat → Prop} {look look' : Nat → Option Query}

theorem refreshFrom_isPlain (closed : Closed linked look) :
    ∀ (depth : Nat) (path : List (LinkPlace × Nat)) {q : Query}, q.IsPlain (fun k _ => linked k) →
      (refreshFrom look depth path q).IsPlain fun k _ => linked k
  | 0, _, _, plain => plain
  | depth + 1, path, q, plain => by
    refine relink_isPlain (fun place number seen passed => ⟨passed, fun t e => ?_⟩) plain
    split at e
    · cases e
    · obtain ⟨found, look_eq, rfl⟩ := Option.map_eq_some_iff.mp e
      exact refreshFrom_isPlain closed depth _ (closed number found passed look_eq)

/-- What a query becomes depends on what is found behind its links alone. -/
theorem refreshFrom_congr (closed : Closed linked look)
    (same : ∀ n, linked n → look n = look' n) :
    ∀ (depth : Nat) (path : List (LinkPlace × Nat)) {q : Query}, q.IsPlain (fun k _ => linked k) →
      refreshFrom look depth path q = refreshFrom look' depth path q
  | 0, _, _, _ => rfl
  | depth + 1, path, q, plain => by
    refine relink_congr (fun place number seen passed => ?_) plain
    rw [← same number passed]
    split
    · rfl
    · cases e : look number with
      | none => rfl
      | some found =>
          exact congrArg some (refreshFrom_congr closed same depth _ (closed number found passed e))

theorem mem_parameters_refreshFrom (closed : Closed linked look) {n : String} :
    ∀ (depth : Nat) (path : List (LinkPlace × Nat)) {q : Query}, q.IsPlain (fun k _ => linked k) →
      n ∈ (refreshFrom look depth path q).parameters →
        n ∈ q.parameters ∨ ∃ k t, linked k ∧ look k = some t ∧ n ∈ Query.parameters t
  | 0, _, _, _, h => Or.inl h
  | depth + 1, path, q, plain, h => by
    refine (mem_parameters_relink plain h).imp_right ?_
    rintro ⟨place, number, seen, t, passed, e, inside⟩
    dsimp only at e
    split at e
    · cases e
    · obtain ⟨found, look_eq, rfl⟩ := Option.map_eq_some_iff.mp e
      rcases mem_parameters_refreshFrom closed depth _ (closed number found passed look_eq) inside
        with own | deeper
      · exact ⟨number, found, passed, look_eq, own⟩
      · exact deeper

end Query

end GraphQuery
