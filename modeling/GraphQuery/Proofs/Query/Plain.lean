import GraphQuery.Proofs.Query.Parameters

/-! # Plain queries

A query is *plain* when nothing stands for a part of it, at any depth, and every link in it passes a
test. The test gets the number behind the link and the query that was seen there.

A copy under new names is plain and has no links at all (`SubQuery.rename_isPlain`). Every query has
one unless it contains itself (`SubQuery.rename_isOk`). -/

namespace GraphQuery

open BindingTable

/-- A test of links: the number behind a link, and the query that was seen there. -/
abbrev LinkTest := Nat → Option Query → Prop

mutual
/-- A predicate with nothing that stands for a part, and all of whose links pass the test. -/
def Predicate.IsPlain (test : LinkTest) : Predicate → Prop
  | .nested _ wheres => arePlain test wheres
  | .comparedRow _ _ _ s | .amongRows _ _ s _ | .present _ s _ => s.IsPlain test
  | .compared _ _ _ _ | .among _ _ _ _ | .between _ _ _ _ | .isNull _ _ _ | .carried _ _ _ _
  | .foreign _ => True
/-- The same of predicates. -/
def arePlain (test : LinkTest) : List Predicate → Prop
  | [] => True
  | p :: rest => p.IsPlain test ∧ arePlain test rest
/-- The same of a sub-query. -/
def SubQuery.IsPlain (test : LinkTest) : SubQuery → Prop
  | .own q => q.standIns = [] ∧ arePlain test q.wheres ∧ arePlainBranches test q.branches
  | .shared number (some q) => test number (some q) ∧ q.standIns = [] ∧ arePlain test q.wheres ∧
    arePlainBranches test q.branches
  | .shared number none => test number none
  | .foreign _ => True
/-- The same of branches. -/
def arePlainBranches (test : LinkTest) : List Branch → Prop
  | [] => True
  | b :: rest => b.query.IsPlain test ∧ arePlainBranches test rest
end

/-- A query with nothing that stands for a part of it, and all of whose links pass the test. -/
structure Query.IsPlain (test : LinkTest) (q : Query) : Prop where
  standIns : q.standIns = []
  wheres : arePlain test q.wheres
  branches : arePlainBranches test q.branches

/-- Any link passes. -/
def anyLink : LinkTest := fun _ _ => True

/-- No link passes. -/
def noLink : LinkTest := fun _ _ => False

/-- A link passes unless its query contains itself. -/
def closedLink : LinkTest := fun _ seen => seen ≠ none

section plain

variable {test : LinkTest}

theorem SubQuery.isPlain_own {q : Query} : (SubQuery.own q).IsPlain test ↔ q.IsPlain test :=
  ⟨fun h => ⟨h.1, h.2.1, h.2.2⟩, fun h => ⟨h.standIns, h.wheres, h.branches⟩⟩

theorem SubQuery.isPlain_shared {number : Nat} {q : Query} :
    (SubQuery.shared number (some q)).IsPlain test ↔ test number (some q) ∧ q.IsPlain test :=
  ⟨fun h => ⟨h.1, h.2.1, h.2.2.1, h.2.2.2⟩,
    fun h => ⟨h.1, h.2.standIns, h.2.wheres, h.2.branches⟩⟩

theorem SubQuery.isPlain_link {number : Nat} : ∀ {seen : Option Query},
    (SubQuery.shared number seen).IsPlain test → test number seen
  | none, plain => plain
  | some _, plain => plain.1

theorem arePlain_append (ys : List Predicate) : ∀ xs : List Predicate,
    arePlain test (xs ++ ys) ↔ arePlain test xs ∧ arePlain test ys
  | [] => ⟨fun h => ⟨trivial, h⟩, fun h => h.2⟩
  | x :: xs => by
    rw [List.cons_append, arePlain, arePlain, arePlain_append ys xs, and_assoc]

theorem arePlainBranches_append (ys : List Branch) : ∀ xs : List Branch,
    arePlainBranches test (xs ++ ys) ↔ arePlainBranches test xs ∧ arePlainBranches test ys
  | [] => ⟨fun h => ⟨trivial, h⟩, fun h => h.2⟩
  | x :: xs => by
    rw [List.cons_append, arePlainBranches, arePlainBranches, arePlainBranches_append ys xs,
      and_assoc]

end plain

/-! ### Weaker tests -/

section mono

variable {test weaker : LinkTest}

mutual
theorem Predicate.IsPlain.mono (h : ∀ n seen, test n seen → weaker n seen) :
    ∀ p : Predicate, p.IsPlain test → p.IsPlain weaker
  | .nested _ wheres, plain => arePlain_mono h wheres plain
  | .comparedRow _ _ _ s, plain | .amongRows _ _ s _, plain | .present _ s _, plain =>
    SubQuery.IsPlain.mono h s plain
  | .compared .., _ | .among .., _ | .between .., _ | .isNull .., _ | .carried .., _
  | .foreign _, _ => trivial
termination_by structural p => p
theorem arePlain_mono (h : ∀ n seen, test n seen → weaker n seen) :
    ∀ wheres : List Predicate, arePlain test wheres → arePlain weaker wheres
  | [], _ => trivial
  | p :: rest, plain => ⟨Predicate.IsPlain.mono h p plain.1, arePlain_mono h rest plain.2⟩
termination_by structural wheres => wheres
theorem SubQuery.IsPlain.mono (h : ∀ n seen, test n seen → weaker n seen) :
    ∀ s : SubQuery, s.IsPlain test → s.IsPlain weaker
  | .own q, plain =>
    ⟨plain.1, arePlain_mono h q.wheres plain.2.1, arePlainBranches_mono h q.branches plain.2.2⟩
  | .shared _ (some q), plain =>
    ⟨h _ _ plain.1, plain.2.1, arePlain_mono h q.wheres plain.2.2.1,
      arePlainBranches_mono h q.branches plain.2.2.2⟩
  | .shared _ none, plain => h _ _ plain
  | .foreign _, _ => trivial
termination_by structural s => s
theorem arePlainBranches_mono (h : ∀ n seen, test n seen → weaker n seen) :
    ∀ branches : List Branch, arePlainBranches test branches → arePlainBranches weaker branches
  | [], _ => trivial
  | b :: rest, plain =>
    ⟨SubQuery.IsPlain.mono h b.query plain.1, arePlainBranches_mono h rest plain.2⟩
termination_by structural branches => branches
end

theorem Query.IsPlain.mono (h : ∀ n seen, test n seen → weaker n seen) {q : Query}
    (plain : q.IsPlain test) : q.IsPlain weaker :=
  SubQuery.isPlain_own.mp (SubQuery.IsPlain.mono h (.own q) (SubQuery.isPlain_own.mpr plain))

end mono

/-! ### Copies under new names -/

/-- A copy of a query with these predicates and branches, under new names of bindings. -/
def Query.under (renames : Renames) (q : Query) (wheres : List Predicate)
    (branches : List Branch) : Query :=
  { q with
    wheres, branches
    patterns := q.patterns.map (·.map (Pattern.rename renames))
    havings := q.havings.map (·.map (Having.rename renames))
    aggregate := q.aggregate.map (·.map (Aggregate.rename renames)) }

theorem QueryOver.copied_eq_ok {q copy : Query} (h : q.copied = .ok copy) :
    copy = { q with standIns := q.standIns.filter fun s => s.1 ∉ QueryOver.listParts } := by
  obtain ⟨-, -, h⟩ := Result.bind_eq_ok h
  obtain ⟨-, -, h⟩ := Result.bind_eq_ok h
  exact (Except.ok.inj h).symm

theorem QueryOver.copied_plain {q : Query} (plain : q.standIns = []) : q.copied = .ok q := by
  obtain ⟨_, _, _, _, _, _, _, _, _, _, _, _, _, _, standIns⟩ := q
  obtain rfl : standIns = [] := plain
  rfl

theorem SubQuery.rename_own (renames : Renames) {q : Query} (plain : q.standIns = []) :
    (SubQuery.own q).rename renames = (do
      let wheres ← renameAll renames q.wheres
      let branches ← renameBranches renames q.branches
      return .own (q.under renames wheres branches)) := by
  rw [SubQuery.rename, QueryOver.copied_plain plain]
  have kept : q.withStandIn .bindings none = q := by
    unfold QueryOver.withStandIn
    rw [plain]
    exact congrArg (fun s => { q with standIns := s }) plain.symm
  show (do
    let wheres ← renameAll renames q.wheres
    let branches ← renameBranches renames q.branches
    return SubQuery.own (Query.under renames (q.withStandIn .bindings none) wheres branches)) = _
  rw [kept]

theorem SubQuery.rename_own_eq_ok {renames : Renames} {q : Query} {copy : SubQuery}
    (plain : q.standIns = []) (h : (SubQuery.own q).rename renames = .ok copy) :
    ∃ wheres branches, renameAll renames q.wheres = .ok wheres ∧
      renameBranches renames q.branches = .ok branches ∧
      copy = .own (q.under renames wheres branches) := by
  rw [SubQuery.rename_own renames plain] at h
  obtain ⟨wheres, e, h⟩ := Result.bind_eq_ok h
  obtain ⟨branches, e', h⟩ := Result.bind_eq_ok h
  exact ⟨wheres, branches, e, e', (Except.ok.inj h).symm⟩

section rename

variable {renames : Renames} {test : LinkTest}

mutual
theorem Predicate.rename_isPlain : ∀ (p : Predicate) {copy : Predicate}, p.IsPlain test →
    p.rename renames = .ok copy → copy.IsPlain noLink
  | .compared .., _, _, h | .among .., _, _, h | .between .., _, _, h | .isNull .., _, _, h
  | .carried .., _, _, h | .foreign _, _, _, h => by
    obtain rfl := Except.ok.inj h
    trivial
  | .nested _ wheres, _, plain, h => by
    obtain ⟨copies, e, h⟩ := Result.bind_eq_ok h
    obtain rfl := Except.ok.inj h
    exact renameAll_isPlain wheres plain e
  | .comparedRow _ _ _ s, _, plain, h | .amongRows _ _ s _, _, plain, h
  | .present _ s _, _, plain, h => by
    obtain ⟨copy, e, h⟩ := Result.bind_eq_ok h
    obtain rfl := Except.ok.inj h
    exact SubQuery.rename_isPlain s plain e
termination_by structural p => p
theorem renameAll_isPlain : ∀ (wheres : List Predicate) {copies : List Predicate},
    arePlain test wheres → renameAll renames wheres = .ok copies → arePlain noLink copies
  | [], _, _, h => by
    obtain rfl := Except.ok.inj h
    trivial
  | p :: rest, _, plain, h => by
    obtain ⟨copy, e, h⟩ := Result.bind_eq_ok h
    obtain ⟨copies, e', h⟩ := Result.bind_eq_ok h
    obtain rfl := Except.ok.inj h
    exact ⟨Predicate.rename_isPlain p plain.1 e, renameAll_isPlain rest plain.2 e'⟩
termination_by structural wheres => wheres
/-- A copy under new names is plain and has no links. -/
theorem SubQuery.rename_isPlain : ∀ (s : SubQuery) {copy : SubQuery}, s.IsPlain test →
    s.rename renames = .ok copy → copy.IsPlain noLink
  | .own q, _, plain, h => by
    obtain ⟨wheres, branches, e, e', rfl⟩ := SubQuery.rename_own_eq_ok plain.1 h
    exact ⟨plain.1, renameAll_isPlain q.wheres plain.2.1 e,
      renameBranches_isPlain q.branches plain.2.2 e'⟩
  | .shared _ (some q), _, plain, h => by
    obtain ⟨wheres, branches, e, e', rfl⟩ := SubQuery.rename_own_eq_ok plain.2.1 h
    exact ⟨plain.2.1, renameAll_isPlain q.wheres plain.2.2.1 e,
      renameBranches_isPlain q.branches plain.2.2.2 e'⟩
  | .shared _ none, _, _, h => by cases h
  | .foreign _, _, _, h => by
    obtain rfl := Except.ok.inj h
    trivial
termination_by structural s => s
theorem renameBranches_isPlain : ∀ (branches : List Branch) {copies : List Branch},
    arePlainBranches test branches → renameBranches renames branches = .ok copies →
      arePlainBranches noLink copies
  | [], _, _, h => by
    obtain rfl := Except.ok.inj h
    trivial
  | b :: rest, _, plain, h => by
    obtain ⟨copy, e, h⟩ := Result.bind_eq_ok h
    obtain ⟨copies, e', h⟩ := Result.bind_eq_ok h
    obtain rfl := Except.ok.inj h
    exact ⟨SubQuery.rename_isPlain b.query plain.1 e, renameBranches_isPlain rest plain.2 e'⟩
termination_by structural branches => branches
end

mutual
theorem Predicate.rename_isOk : ∀ p : Predicate, p.IsPlain closedLink →
    ∃ copy, p.rename renames = .ok copy
  | .compared .., _ | .among .., _ | .between .., _ | .isNull .., _ | .carried .., _
  | .foreign _, _ => ⟨_, rfl⟩
  | .nested j wheres, plain => by
    obtain ⟨copies, e⟩ := renameAll_isOk wheres plain
    exact ⟨.nested j copies, by rw [Predicate.rename, e]; rfl⟩
  | .comparedRow j c operator s, plain => by
    obtain ⟨copy, e⟩ := SubQuery.rename_isOk s plain
    exact ⟨.comparedRow j c operator copy, by rw [Predicate.rename, e]; rfl⟩
  | .amongRows j c s negated, plain => by
    obtain ⟨copy, e⟩ := SubQuery.rename_isOk s plain
    exact ⟨.amongRows j c copy negated, by rw [Predicate.rename, e]; rfl⟩
  | .present j s negated, plain => by
    obtain ⟨copy, e⟩ := SubQuery.rename_isOk s plain
    exact ⟨.present j copy negated, by rw [Predicate.rename, e]; rfl⟩
termination_by structural p => p
theorem renameAll_isOk : ∀ wheres : List Predicate, arePlain closedLink wheres →
    ∃ copies, renameAll renames wheres = .ok copies
  | [], _ => ⟨[], rfl⟩
  | p :: rest, plain => by
    obtain ⟨copy, e⟩ := Predicate.rename_isOk p plain.1
    obtain ⟨copies, e'⟩ := renameAll_isOk rest plain.2
    exact ⟨copy :: copies, by rw [renameAll, e, e']; rfl⟩
termination_by structural wheres => wheres
/-- A query that does not contain itself can be copied under new names. -/
theorem SubQuery.rename_isOk : ∀ s : SubQuery, s.IsPlain closedLink →
    ∃ copy, s.rename renames = .ok copy
  | .own q, plain => by
    obtain ⟨wheres, e⟩ := renameAll_isOk q.wheres plain.2.1
    obtain ⟨branches, e'⟩ := renameBranches_isOk q.branches plain.2.2
    exact ⟨.own (Query.under renames q wheres branches),
      by rw [SubQuery.rename_own renames plain.1, e, e']; rfl⟩
  | .shared _ (some q), plain => by
    obtain ⟨wheres, e⟩ := renameAll_isOk q.wheres plain.2.2.1
    obtain ⟨branches, e'⟩ := renameBranches_isOk q.branches plain.2.2.2
    refine ⟨.own (Query.under renames q wheres branches), ?_⟩
    show (SubQuery.own q).rename renames = _
    rw [SubQuery.rename_own renames plain.2.1, e, e']
    rfl
  | .shared _ none, plain => absurd rfl plain
  | .foreign v, _ => ⟨.foreign v, rfl⟩
termination_by structural s => s
theorem renameBranches_isOk : ∀ branches : List Branch, arePlainBranches closedLink branches →
    ∃ copies, renameBranches renames branches = .ok copies
  | [], _ => ⟨[], rfl⟩
  | b :: rest, plain => by
    obtain ⟨copy, e⟩ := SubQuery.rename_isOk b.query plain.1
    obtain ⟨copies, e'⟩ := renameBranches_isOk rest plain.2
    exact ⟨⟨copy, b.keepsAll⟩ :: copies, by rw [renameBranches, e, e']; rfl⟩
termination_by structural branches => branches
end

end rename

end GraphQuery
