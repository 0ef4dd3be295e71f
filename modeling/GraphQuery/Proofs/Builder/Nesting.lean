import GraphQuery.Proofs.Builder.Clauses

/-! # What sub-queries and groups add to a builder

* `adopt_tells` : a query that was built on its own brings its values along, under the names of its
  copy.
* `onQuery_ends` : what a callback binds on the same table stays bound.
* `compareRow_ends`, `amongRows_ends`, `present_ends` and `union_ends` : the clauses that hold what
  came out of it. With the ending `_adds` they say what such a clause adds, and `group_adds` says so
  of predicates in parentheses. -/

namespace GraphQuery

open GraphQuery.Binding BindingTable

/-! ### Copies -/

theorem mem_zip_map {α β : Type} {f : α → β} {p : β × α} : ∀ {xs : List α},
    p ∈ (xs.map f).zip xs → p.2 ∈ xs ∧ f p.2 = p.1
  | x :: xs, h => by
    rw [List.map_cons, List.zip_cons_cons, List.mem_cons] at h
    rcases h with rfl | inside
    · exact ⟨List.mem_cons_self, rfl⟩
    · obtain ⟨rest, e⟩ := mem_zip_map inside
      exact ⟨List.mem_cons_of_mem x rest, e⟩

theorem zip_map_mem {α β : Type} (f : α → β) {x : α} : ∀ {xs : List α}, x ∈ xs →
    (f x, x) ∈ (xs.map f).zip xs
  | y :: ys, h => by
    rw [List.map_cons, List.zip_cons_cons, List.mem_cons]
    rcases List.mem_cons.mp h with rfl | inside
    · exact Or.inl rfl
    · exact Or.inr (zip_map_mem f inside)

theorem mem_noteRows {ledger : Ledger} {q : Query} {copy : SubQuery} {r : String → String}
    (renamed : copy.parameters = q.parameters.map r) {e : String × Value} :
    e ∈ noteRows ledger q copy ↔ ∃ n ∈ q.parameters, r n = e.1 ∧ ledger.lookup n = some e.2 := by
  unfold noteRows
  rw [renamed, List.mem_flatMap]
  constructor
  · rintro ⟨p, hp, he⟩
    obtain ⟨v, found, rfl⟩ := List.mem_map.mp he
    obtain ⟨inside, new⟩ := mem_zip_map hp
    exact ⟨p.2, inside, new, Option.mem_toList.mp found⟩
  · rintro ⟨n, inside, new, found⟩
    refine ⟨(r n, n), zip_map_mem r inside, List.mem_map.mpr ⟨e.2, Option.mem_toList.mpr found, ?_⟩⟩
    rw [new]

namespace Build

open Builder Exec

variable {test : LinkTest} {b : Builder}

/-! ### Taking in a query -/

/-- What is known of a query that was built on its own: that it is plain, and which value each of
its names is bound to. If it uses the table of the builder, it is bound there and can be linked. -/
structure Known (test : LinkTest) (ledger : Ledger) (b : Builder) (q : Incoming) : Prop where
  plain : q.query.IsPlain anyLink
  named : q.table.WellNamed
  bound : ∀ n ∈ q.query.parameters, ∃ v, ledger.lookup n = some v ∧ q.table.bound n = some v
  shared : q.tableNumber = b.tableNumber →
    ∀ n ∈ q.query.parameters, ∀ v, ledger.lookup n = some v → b.table.bound n = some v
  linked : q.tableNumber = b.tableNumber → (SubQuery.shared q.number (some q.query)).IsPlain test

/-- What is known stays so while the builder goes on. -/
theorem Known.later {ledger : Ledger} {b b' : Builder} {q : Incoming} (h : Known test ledger b q)
    (r : b.Ready) (number : b'.tableNumber = b.tableNumber) (grows : b.table.Grows b'.table) :
    Known test ledger b' q :=
  ⟨h.plain, h.named, h.bound, fun e n hn v found =>
    grows.bound r.named (h.shared (e.trans number) n hn v found), fun e => h.linked (e.trans number)⟩

/-- A plain sub-query whose parameters are in the ledger, all of them bound. -/
structure Tells (test : LinkTest) (b : Builder) (l : Ledger) (s : SubQuery) (b' : Builder) : Prop where
  query : b'.query = b.query
  keeps : b.Keeps b'
  bound : ∀ e ∈ l, b'.table.bound e.1 = some e.2
  covered : ∀ n ∈ s.parameters, ∃ v, (n, v) ∈ l
  plain : s.IsPlain test

/-- Nothing of the query has changed. -/
def Stays (b b' : Builder) : Prop := b.Keeps b' ∧ b'.query = b.query

theorem Stays.refl (b : Builder) : Stays b b := ⟨.refl b, rfl⟩

theorem Stays.adds_nil {b b' : Builder} (h : Stays b b') : b.Adds test [] b' :=
  h.1.adds_nil h.2

theorem Tells.stays {b b' : Builder} {l : Ledger} {s : SubQuery} (h : Tells test b l s b') :
    Stays b b' := ⟨h.keeps, h.query⟩

theorem isSameTable_eq {q : Incoming} (plain : q.query.standIns = []) (r : b.Ready) :
    isSameTable q b = decide (q.tableNumber = b.tableNumber) := by
  unfold isSameTable QueryOver.standIn?
  rw [plain, r.plain]
  rfl

/-- A query that was built on its own brings its values along. -/
theorem adopt_tells {ledger : Ledger} {q : Incoming} (r : b.Ready) (h : Known test ledger b q) :
    (adopt q).Ends b (fun s b' => Tells test b (noteRows ledger q.query s) s b') (Stays b) := by
  unfold adopt
  refine .bind (.of_get ?_)
  rw [isSameTable_eq h.plain.standIns r]
  by_cases same : q.tableNumber = b.tableNumber
  · rw [if_pos (decide_eq_true same)]
    have unchanged : (SubQuery.shared q.number (some q.query)).parameters =
        q.query.parameters.map id := (List.map_id _).symm
    refine .of_pure ⟨rfl, .refl b, fun e he => ?_, fun n hn => ?_, h.linked same⟩
    · obtain ⟨n, hn, new, found⟩ := (mem_noteRows unchanged).mp he
      rw [← new]
      exact h.shared same n hn e.2 found
    · obtain ⟨v, found, -⟩ := h.bound n hn
      exact ⟨v, (mem_noteRows unchanged).mpr ⟨n, hn, rfl, found⟩⟩
  · rw [if_neg (by rw [decide_eq_true_iff]; exact same)]
    have absorbed := absorb_absorbed b.table h.named
    have keeps : b.Keeps { b with table := (b.table.absorb q.table).1 } :=
      ⟨rfl, rfl, absorbed.kept, absorbed.named⟩
    refine .bind (ask_ends (.bind (.ofResult (fun _ _ => ?_) (.refl b))) (.refl b))
    refine .bind (.of_set (.ofResult (fun copy e => ?_) ⟨keeps, rfl⟩))
    have renamed := SubQuery.parameters_rename _ _ e
    have plain : copy.IsPlain noLink := SubQuery.rename_isPlain _ (SubQuery.isPlain_own.mpr h.plain) e
    refine ⟨rfl, keeps, fun e he => ?_, fun n hn => ?_, .mono (fun _ _ h => h.elim) copy plain⟩
    · obtain ⟨n, hn, new, found⟩ := (mem_noteRows renamed).mp he
      obtain ⟨v, found', value⟩ := h.bound n hn
      obtain rfl := Option.some.inj (found.symm.trans found')
      rw [← new]
      exact absorbed.carried n _ value
    · rw [renamed] at hn
      obtain ⟨m, hm, rfl⟩ := List.mem_map.mp hn
      obtain ⟨v, found, -⟩ := h.bound m hm
      exact ⟨v, (mem_noteRows renamed).mpr ⟨m, hm, rfl, found⟩⟩

/-! ### Callbacks -/

/-- What a callback binds on the same table stays bound. -/
theorem onQuery_ends (r : b.Ready) {start : Query} {body : Build Unit} {l : Ledger}
    {good : Query → Builder → Prop} {bad : Builder → Prop}
    (h : body.Ends { b with query := start } (fun _ => Adds test { b with query := start } l)
      (Keeps { b with query := start }))
    (ok : ∀ q b', Stays b b' → (∀ e ∈ l, b'.table.bound e.1 = some e.2) →
      (∀ n ∈ q.parameters, n ∈ start.parameters ∨ ∃ v, (n, v) ∈ l) →
      (start.IsPlain test → q.IsPlain test) → good q b')
    (error : ∀ b', Stays b b' → bad b') : (onQuery start body).Ends b good bad := by
  have shared : (b.query.standIn? .bindings).any (·.isNull) = false := by
    unfold QueryOver.standIn?
    rw [r.plain]
    rfl
  have back : ∀ {a : Builder}, Keeps { b with query := start } a →
      Stays b { b with table := a.table, used := a.used } := fun keeps =>
    ⟨⟨rfl, rfl, keeps.grows, keeps.named⟩, rfl⟩
  cases e : body.outcome { b with query := start } with
  | mk result after =>
    have whole : (onQuery start body).outcome b = (result.map fun _ => after.query,
        { b with table := after.table, used := after.used }) := by
      unfold onQuery
      rw [outcome_ofOutcome]
      simp only [shared, Bool.false_eq_true, if_false, e]
    refine .of_outcome whole (fun q eq => ?_) fun _ ee => ?_
    · cases result with
      | error _ => cases eq
      | ok u =>
          obtain rfl := Except.ok.inj eq
          have added := h.1 u after e
          exact ok _ _ (back added.keeps) added.bound added.covered added.plain
    · cases result with
      | ok _ => cases ee
      | error f => exact error _ (back (h.2 f after e))

theorem subStart_parameters (q : Query) : (subStart q).parameters = [] := rfl

theorem subStart_plain {q : Query} (plain : q.standIns = []) : (subStart q).standIns = [] := by
  show List.filter _ q.standIns = []
  rw [plain]
  rfl

theorem subStart_isPlain {q : Query} (plain : q.standIns = []) : (subStart q).IsPlain test :=
  ⟨subStart_plain plain, trivial, trivial⟩

theorem subStart_ready (r : b.Ready) : Ready { b with query := subStart b.query } :=
  ⟨subStart_plain r.plain, r.named⟩

/-- The builder that a group of predicates starts from. -/
def groupBuilder (b : Builder) : Builder :=
  { b with query :=
    { subStart b.query with labels := b.query.labels, patterns := b.query.patterns } }

theorem groupBuilder_ready (r : b.Ready) : Ready (groupBuilder b) :=
  ⟨subStart_plain r.plain, r.named⟩

/-- The parameters of a group to begin with are those of the patterns around it. -/
theorem groupStart_parameters {q : Query} (n : String)
    (h : n ∈ Query.parameters { subStart q with labels := q.labels, patterns := q.patterns }) :
    n ∈ q.parameters := by
  rcases Query.mem_parameters.mp h with old | none | none | none | none
  · exact Query.mem_parameters.mpr (Or.inl old)
  all_goals exact absurd none List.not_mem_nil

theorem subQuery_tells (r : b.Ready) {o : Operand} (deferred : ∀ q, o ≠ .query q) {l : Ledger}
    (h : (callback o).Ends { b with query := subStart b.query }
      (fun _ => Adds test { b with query := subStart b.query } l)
      (Keeps { b with query := subStart b.query })) :
    (subQuery o).Ends b (fun s b' => Tells test b l s b') (Stays b) := by
  have built : (get >>= fun b : Builder =>
      (SubQuery.own <$> onQuery (subStart b.query) (callback o) : Build SubQuery)).Ends b
        (fun s b' => Tells test b l s b') (Stays b) := by
    refine .bind (.of_get ?_)
    rw [← bind_pure_comp]
    refine .bind (onQuery_ends r h (fun q b' stays bound covered plain => .of_pure ?_) fun _ s => s)
    refine ⟨stays.2, stays.1, bound, fun n hn => ?_,
      SubQuery.isPlain_own.mpr (plain (subStart_isPlain r.plain))⟩
    exact (covered n hn).resolve_left (by rw [subStart_parameters]; exact List.not_mem_nil)
  cases o with
  | query q => exact absurd rfl (deferred q)
  | value v => exact built
  | body f => exact built

/-! ### Clauses that hold a sub-query -/

/-- A predicate that holds a sub-query and nothing else of the kind. -/
structure Wraps (s : SubQuery) (p : Predicate) : Prop where
  rows : p.rows? = some s
  names : p.parameters = s.parameters
  plain : ∀ test, s.IsPlain test → p.IsPlain test

/-- The builder with one more branch. -/
def withBranch (b : Builder) (branch : Branch) : Builder :=
  { b with query := { b.query with branches := b.query.branches ++ [branch] } }

/-- The branch that was added last. -/
def lastBranch (q : Query) : Option SubQuery := q.branches.getLast?.map (·.query)

theorem lastBranch_withBranch (b : Builder) (branch : Branch) :
    lastBranch (withBranch b branch).query = some branch.query := by
  unfold lastBranch withBranch
  rw [List.getLast?_concat]
  rfl

section ends

variable {query : Operand} {good : SubQuery → Builder → Prop} {bad : Builder → Prop}

theorem compareRow_ends (h : (subQuery query).Ends b good bad)
    (failed : ∀ s b', good s b' → bad b') (column : Operand) (operator joined : Value) :
    (compareRow column operator query joined).Ends b
      (fun _ b' => ∃ s b₁ p, good s b₁ ∧ Wraps s p ∧ b' = b₁.withWhere p) bad := by
  unfold compareRow
  refine .bind (h.imp (fun s b₁ made => ?_) fun _ error => error)
  refine .bind (needList_ends ?_ (failed s b₁ made))
  refine .bind (resolveOperand_ends (fun c => ?_) (failed s b₁ made))
  refine .bind (.ofResult (fun operator _ => ?_) (failed s b₁ made))
  refine addChecked_ends (fun p e => ?_) (failed s b₁ made)
  obtain ⟨j, -, rfl⟩ := Checked.map_eq_ok e
  exact ⟨s, b₁, .comparedRow j c operator s, made, ⟨rfl, rfl, fun _ plain => plain⟩, rfl⟩

theorem amongRows_ends (h : (subQuery query).Ends b good bad)
    (failed : ∀ s b', good s b' → bad b') (column : Operand) (joined negated : Value) :
    (amongRows column query joined negated).Ends b
      (fun _ b' => ∃ s b₁ p, good s b₁ ∧ Wraps s p ∧ b' = b₁.withWhere p) bad := by
  unfold amongRows
  refine .bind (h.imp (fun s b₁ made => ?_) fun _ error => error)
  refine .bind (needList_ends ?_ (failed s b₁ made))
  refine .bind (resolveOperand_ends (fun c => ?_) (failed s b₁ made))
  refine addChecked_ends (fun p e => ?_) (failed s b₁ made)
  obtain ⟨j, -, rfl⟩ := Checked.map_eq_ok e
  exact ⟨s, b₁, .amongRows j.1 c s j.2, made, ⟨rfl, rfl, fun _ plain => plain⟩, rfl⟩

theorem present_ends (h : (subQuery query).Ends b good bad)
    (failed : ∀ s b', good s b' → bad b') (joined negated : Value) :
    (present query joined negated).Ends b
      (fun _ b' => ∃ s b₁ p, good s b₁ ∧ Wraps s p ∧ b' = b₁.withWhere p) bad := by
  unfold present
  refine .bind (h.imp (fun s b₁ made => ?_) fun _ error => error)
  refine addChecked_ends (fun p e => ?_) (failed s b₁ made)
  obtain ⟨j, -, rfl⟩ := Checked.map_eq_ok e
  exact ⟨s, b₁, .present j.1 s j.2, made, ⟨rfl, rfl, fun _ plain => plain⟩, rfl⟩

theorem union_ends (h : (subQuery query).Ends b good bad) (failed : ∀ s b', good s b' → bad b')
    (error : bad b) (keepsAll : Value) : (union query keepsAll).Ends b
      (fun _ b' => ∃ s b₁ all, good s b₁ ∧ b' = withBranch b₁ ⟨s, all⟩) bad := by
  unfold union
  refine .bind (needList_ends ?_ error)
  refine .bind (h.imp (fun s b₁ made => ?_) fun _ error => error)
  exact .bind (.ofResult (fun all _ => change_ends ⟨s, b₁, all, made, rfl⟩) (failed s b₁ made))

end ends

/-- What comes out of an operand is noted in a ledger, which may depend on the sub-query. -/
def Rows (test : LinkTest) (o : Operand) (b : Builder) (ledger : Option SubQuery → Ledger) : Prop :=
  (subQuery o).Ends b (fun s b' => Tells test b (ledger (some s)) s b') (Stays b)

section adds

variable {query : Operand} {ledger : Option SubQuery → Ledger}

theorem Tells.adds_where {b b' : Builder} {s : SubQuery} (h : Tells test b (ledger (some s)) s b')
    {p : Predicate} (wraps : Wraps s p) :
    b.Adds test (ledger (lastRows (b'.withWhere p).query)) (b'.withWhere p) := by
  rw [lastRows_withWhere, wraps.rows]
  exact h.keeps.adds_where h.query (wraps.plain test h.plain) h.bound fun n hn =>
    Or.inr (h.covered n (wraps.names ▸ hn))

theorem Rows.adds_where {step : Build Unit} (h : step.Ends b
      (fun _ b' => ∃ s b₁ p, Tells test b (ledger (some s)) s b₁ ∧ Wraps s p ∧ b' = b₁.withWhere p)
      (Stays b)) :
    step.Ends b (fun _ b' => b.Adds test (ledger (lastRows b'.query)) b') (b.Adds test []) := by
  refine h.imp (fun _ b' made => ?_) fun _ stays => stays.adds_nil
  obtain ⟨s, b₁, p, tells, wraps, rfl⟩ := made
  exact tells.adds_where wraps

theorem compareRow_adds (h : Rows test query b ledger) (column : Operand)
    (operator joined : Value) : (compareRow column operator query joined).Ends b
      (fun _ b' => b.Adds test (ledger (lastRows b'.query)) b') (b.Adds test []) :=
  Rows.adds_where (compareRow_ends h (fun _ _ => Tells.stays) column operator joined)

theorem amongRows_adds (h : Rows test query b ledger) (column : Operand) (joined negated : Value) :
    (amongRows column query joined negated).Ends b
      (fun _ b' => b.Adds test (ledger (lastRows b'.query)) b') (b.Adds test []) :=
  Rows.adds_where (amongRows_ends h (fun _ _ => Tells.stays) column joined negated)

theorem present_adds (h : Rows test query b ledger) (joined negated : Value) :
    (present query joined negated).Ends b
      (fun _ b' => b.Adds test (ledger (lastRows b'.query)) b') (b.Adds test []) :=
  Rows.adds_where (present_ends h (fun _ _ => Tells.stays) joined negated)

/-- A branch adds what its query tells. -/
theorem Tells.adds_branch {b b' : Builder} {s : SubQuery} (h : Tells test b (ledger (some s)) s b')
    (all : Bool) : b.Adds test (ledger (lastBranch (withBranch b' ⟨s, all⟩).query))
      (withBranch b' ⟨s, all⟩) := by
  rw [lastBranch_withBranch]
  have plain : b.query.IsPlain test → (withBranch b' ⟨s, all⟩).query.IsPlain test := by
    intro old
    rw [← h.query] at old
    exact ⟨old.standIns, old.wheres,
      (arePlainBranches_append _ _).mpr ⟨old.branches, h.plain, trivial⟩⟩
  refine ⟨⟨h.keeps.number, h.keeps.standIns, h.keeps.grows, h.keeps.named⟩, h.bound,
    fun n hn => ?_, plain⟩
  unfold withBranch at hn
  rw [h.query, Query.mem_parameters, parametersOfBranches_append, List.mem_append] at hn
  rcases hn with old | old | old | (old | new) | old
  · exact Or.inl (Query.mem_parameters.mpr (Or.inl old))
  · exact Or.inl (Query.mem_parameters.mpr (Or.inr (Or.inl old)))
  · exact Or.inl (Query.mem_parameters.mpr (Or.inr (Or.inr (Or.inl old))))
  · exact Or.inl (Query.mem_parameters.mpr (Or.inr (Or.inr (Or.inr (Or.inl old)))))
  · refine Or.inr (h.covered n ?_)
    simpa [parametersOfBranches] using new
  · exact Or.inl (Query.mem_parameters.mpr (Or.inr (Or.inr (Or.inr (Or.inr old)))))

theorem union_adds (h : Rows test query b ledger) (keepsAll : Value) :
    (union query keepsAll).Ends b
      (fun _ b' => b.Adds test (ledger (lastBranch b'.query)) b') (b.Adds test []) := by
  refine (union_ends h (fun _ _ => Tells.stays) (.refl b) keepsAll).imp (fun _ b' made => ?_)
    fun _ stays => stays.adds_nil
  obtain ⟨s, b₁, all, tells, rfl⟩ := made
  exact tells.adds_branch all

end adds

/-! ### Groups -/

/-- Predicates in parentheses leave no trace if there are none. -/
theorem nest_ends {wheres : List Predicate} {joined : Value} {good : Unit → Builder → Prop}
    {bad : Builder → Prop} (without : good () b)
    (nested : ∀ j, good () (b.withWhere (.nested j wheres))) (error : bad b) :
    (nest wheres joined).Ends b good bad := by
  unfold nest
  split
  · exact .of_pure without
  · refine addChecked_ends (fun p e => ?_) error
    obtain ⟨j, -, rfl⟩ := Checked.map_eq_ok e
    exact nested j

/-- Predicates in parentheses. What else the callback has built is left out. -/
theorem group_adds (r : b.Ready) {body : Build Unit} {l : Ledger}
    (h : body.Ends (groupBuilder b) (fun _ => (groupBuilder b).Adds test l) (groupBuilder b).Keeps)
    (joined : Value) : (group body joined).Ends b (fun _ => b.Adds test l) (b.Adds test []) := by
  unfold group
  refine .bind (withQuery_ends (fun start e => .bind ?_) (.refl b))
  obtain rfl : start = (groupBuilder b).query := by
    obtain ⟨-, -, e⟩ := Result.bind_eq_ok e
    exact (Except.ok.inj e).symm
  refine onQuery_ends r h (fun inner b' stays bound covered plain => ?_) fun _ stays => stays.adds_nil
  have inside : ∀ n ∈ parametersOfAll inner.wheres,
      n ∈ b.query.parameters ∨ ∃ v, (n, v) ∈ l := fun n hn =>
    (covered n (Query.mem_parameters.mpr (Or.inr (Or.inl hn)))).imp_left
      (groupStart_parameters n)
  have wheres : arePlain test inner.wheres :=
    (plain ⟨subStart_plain r.plain, trivial, trivial⟩).wheres
  refine nest_ends ⟨stays.1, bound, fun n hn => Or.inl (stays.2 ▸ hn), fun old => stays.2 ▸ old⟩
    (fun j => ?_) stays.adds_nil
  exact stays.1.adds_where stays.2 wheres bound inside

end Build

end GraphQuery
