import GraphQuery.Proofs.Builder.Steps

/-! # What clauses add to a builder

Each way of adding a clause has one lemma here, which says what the clause names and what is bound
under these names afterwards.

* `noteWhere` reads the ledger of a predicate off the query: the name that the last predicate holds,
  and the value that its column is compared with. `notePattern` and `noteHaving` do so for the other
  clauses, `noteRows` for a query that was taken in.
* `Tells` is what taking in a query, or building one by a callback, leaves behind.
* A `Quiet` step adds no clause and binds nothing. -/

namespace GraphQuery

open GraphQuery.Binding BindingTable

/-! ### Entries of a ledger -/

/-- The name with the value, if there is one. -/
def entryOf (n : String) (v : Result Value) : Ledger := v.toOption.toList.map fun x => (n, x)

theorem entryOf_ok (n : String) (x : Value) : entryOf n (.ok x) = [(n, x)] := rfl

/-- The entry of a predicate, given the value for its column. -/
def Predicate.note (value : ColumnRef → Result Value) : Predicate → Ledger
  | .compared _ c _ n | .among _ c n _ | .between _ c n _ => entryOf n (value c)
  | _ => []

/-- The entry of the predicate that was added last. -/
def noteWhere (value : ColumnRef → Result Value) (q : Query) : Ledger :=
  (q.wheres.getLast?.map (·.note value)).getD []

/-- The sub-query of a predicate. -/
def Predicate.rows? : Predicate → Option SubQuery
  | .comparedRow _ _ _ s | .amongRows _ _ s _ | .present _ s _ => some s
  | _ => none

/-- The sub-query of the predicate that was added last. -/
def lastRows (q : Query) : Option SubQuery := q.wheres.getLast?.bind (·.rows?)

/-- The value that a parent is constrained to: for its identity it has to be an integer. -/
def parentValue (property v : Value) : Result Value :=
  if property.text? = some "id" then (Build.identity v).map .int else .ok v

/-- The entry of a pattern, given what its parent is constrained to. -/
def Pattern.note (property v : Value) (p : Pattern) : Ledger :=
  p.binding.elim [] fun n => entryOf n (parentValue property v)

/-- The entry of the pattern that was added last. -/
def notePattern (property v : Value) (q : Query) : Ledger :=
  ((q.patterns.getLast?.bind (·.clause?)).map (·.note property v)).getD []

/-- The entry of the condition on groups that was added last. -/
def noteHaving (v : Value) (q : Query) : Ledger :=
  ((q.havings.getLast?.bind (·.clause?)).map fun h => [(h.binding, v)]).getD []

/-- The entries of a copy of a query: in the place of each name of the query stands the name of the
copy, with the same value. -/
def noteRows (ledger : Ledger) (q : Query) (copy : SubQuery) : Ledger :=
  (copy.parameters.zip q.parameters).flatMap fun p =>
    (ledger.lookup p.2).toList.map fun v => (p.1, v)

namespace Builder

/-- The builder with one more predicate. -/
def withWhere (b : Builder) (p : Predicate) : Builder :=
  { b with query := { b.query with wheres := b.query.wheres ++ [p] } }

theorem noteWhere_withWhere (value : ColumnRef → Result Value) (b : Builder) (p : Predicate) :
    noteWhere value (b.withWhere p).query = p.note value := by
  unfold noteWhere withWhere
  rw [List.getLast?_concat]
  rfl

theorem lastRows_withWhere (b : Builder) (p : Predicate) :
    lastRows (b.withWhere p).query = p.rows? := by
  unfold lastRows withWhere
  rw [List.getLast?_concat]
  rfl

theorem mem_parameters_withWhere {b : Builder} {p : Predicate} {n : String} :
    n ∈ (b.withWhere p).query.parameters ↔ n ∈ b.query.parameters ∨ n ∈ p.parameters := by
  unfold withWhere
  simp only [Query.mem_parameters, parametersOfAll_append, parametersOfAll, List.append_nil,
    List.mem_append]
  constructor
  · rintro (h | (h | h) | h | h | h) <;> simp only [h, true_or, or_true]
  · rintro ((h | h | h | h | h) | h) <;> simp only [h, true_or, or_true]

theorem withWhere_isPlain {test : LinkTest} {b : Builder} {p : Predicate}
    (h : b.query.IsPlain test) (plain : p.IsPlain test) :
    (b.withWhere p).query.IsPlain test :=
  ⟨h.standIns, (arePlain_append _ _).mpr ⟨h.wheres, plain, trivial⟩, h.branches⟩

theorem Keeps.adds_where {test : LinkTest} {b b' : Builder} (h : b.Keeps b')
    (same : b'.query = b.query) {p : Predicate} {l : Ledger} (plain : p.IsPlain test)
    (bound : ∀ e ∈ l, b'.table.bound e.1 = some e.2)
    (covered : ∀ n ∈ p.parameters, n ∈ b.query.parameters ∨ ∃ v, (n, v) ∈ l) :
    b.Adds test l (b'.withWhere p) := by
  refine ⟨⟨h.number, h.standIns, h.grows, h.named⟩, bound, fun n hn => ?_,
    fun old => withWhere_isPlain (same ▸ old) plain⟩
  rcases mem_parameters_withWhere.mp hn with old | new
  · exact Or.inl (same ▸ old)
  · exact covered n new

theorem Keeps.of_used {b : Builder} {used : Remains} : b.Keeps { b with used } :=
  ⟨rfl, rfl, .refl _, id⟩

theorem Adds.of_used {test : LinkTest} {b : Builder} {used : Remains} :
    b.Adds test [] { b with used } := Keeps.of_used.adds_nil rfl

end Builder

namespace Build

open Builder Exec

variable {α β : Type} {test : LinkTest} {b : Builder}

theorem Binds.adds_where {b b' : Builder} {n : String} {x : Value} (h : Binds b n x b')
    {p : Predicate} {value : ColumnRef → Result Value} (names : p.parameters = [n])
    (plain : p.IsPlain test) (entry : p.note value = [(n, x)]) :
    b.Adds test (noteWhere value (b'.withWhere p).query) (b'.withWhere p) := by
  rw [noteWhere_withWhere, entry]
  refine h.keeps.adds_where h.query plain (fun e he => ?_) fun m hm => ?_
  · obtain rfl := List.mem_singleton.mp he
    exact h.bound
  · rw [names] at hm
    obtain rfl := List.mem_singleton.mp hm
    exact Or.inr ⟨x, List.mem_singleton_self _⟩

theorem Binds.adds_nil {b b' : Builder} {n : String} {x : Value} (h : Binds b n x b') :
    b.Adds test [] b' := h.keeps.adds_nil h.query

theorem Binds.of_used {b b' : Builder} {used : Remains} {n : String} {x : Value}
    (h : Binds { b with used } n x b') : Binds b n x b' :=
  ⟨h.query, ⟨h.keeps.number, h.keeps.standIns, h.keeps.grows, h.keeps.named⟩, h.bound⟩

/-! ### Steps that add nothing -/

/-- A step that adds no clause and binds nothing. -/
def Quiet (step : Build α) : Prop :=
  ∀ test b, step.Ends b (fun _ => b.Adds test []) (b.Adds test [])

namespace Quiet

theorem bind {x : Build α} {f : α → Build β} (h : Quiet x) (h' : ∀ a, Quiet (f a)) :
    Quiet (x >>= f) := by
  have join : ∀ {test} {b b' b'' : Builder}, b.Adds test [] b' → b'.Adds test [] b'' →
      b.Adds test [] b'' := by
    intro test b b' b'' h h'
    refine ⟨h.keeps.trans h'.keeps, h'.bound, fun n hn => ?_, fun p => h'.plain (h.plain p)⟩
    rcases h'.covered n hn with old | ⟨v, c⟩
    · exact h.covered n old
    · exact (List.not_mem_nil c).elim
  intro test b
  exact .bind ((h test b).imp (fun a b' l => (h' a test b').imp (fun _ _ => join l) fun _ => join l)
    fun _ l => l)

theorem of_pure (a : α) : Quiet (pure a) := fun _ b => .of_pure (.refl b)

theorem ofResult (r : Result α) : Quiet (Exec.ofResult r) := fun _ b =>
  .ofResult (fun _ _ => .refl b) (.refl b)

theorem fail (e : Error) : Quiet (Exec.fail e : Build α) := fun _ b => .fail (.refl b)

theorem withQuery (f : Query → Result α) : Quiet (Build.withQuery f) := fun _ b =>
  withQuery_ends (fun _ _ => .refl b) (.refl b)

theorem get : Quiet (get : Build Builder) := fun _ b => .of_get (.refl b)

/-- A change of parts that name no parameters and hold no queries. -/
theorem change {f : Query → Query} (standIns : ∀ q, (f q).standIns = q.standIns)
    (parameters : ∀ q : Query, (f q).parameters = q.parameters)
    (queries : ∀ q, (f q).wheres = q.wheres ∧ (f q).branches = q.branches) :
    Quiet (Build.change f) := by
  intro test b
  refine change_ends ⟨⟨rfl, standIns _, .refl _, id⟩, fun _ h => (List.not_mem_nil h).elim,
    fun n hn => Or.inl (parameters b.query ▸ hn), fun h => ⟨(standIns _).trans h.standIns, ?_, ?_⟩⟩
  · exact (queries b.query).1 ▸ h.wheres
  · exact (queries b.query).2 ▸ h.branches

theorem useUp (v : Value) : Quiet (Build.useUp v) := by
  intro test b
  exact useUp_ends Adds.of_used

end Quiet

/-! ### Predicates with a value -/

theorem addChecked_ends {p : Checked Predicate} {good : Unit → Builder → Prop}
    {bad : Builder → Prop} (ok : ∀ q, p = .ok q → good () (b.withWhere q)) (error : bad b) :
    (addChecked p).Ends b good bad := by
  unfold addChecked
  refine .bind (needList_ends (.bind (.ofResult (fun q e => ?_) error)) error)
  exact .bind (needList_ends (change_ends (ok q (Result.ofChecked_eq_ok e))) error)

/-- A predicate that names nothing. -/
theorem addChecked_unnamed {p : Checked Predicate} {l : Query → Ledger}
    (unnamed : ∀ q, p = .ok q → q.parameters = [] ∧ q.IsPlain test ∧
      l (b.withWhere q).query = []) :
    (addChecked p).Ends b (fun _ b' => b.Adds test (l b'.query) b') (b.Adds test []) := by
  refine addChecked_ends (fun q e => ?_) (.refl b)
  obtain ⟨names, plain, entries⟩ := unnamed q e
  rw [entries]
  refine (Keeps.refl b).adds_where rfl plain (fun _ h => (List.not_mem_nil h).elim) fun n h => ?_
  exact absurd (names ▸ h) List.not_mem_nil

theorem isNull_adds (column : Operand) (joined negated : Value) {l : Query → Ledger}
    (unnamed : ∀ j c n, l (b.withWhere (.isNull j c n)).query = []) :
    (isNull column joined negated).Ends b (fun _ b' => b.Adds test (l b'.query) b') (b.Adds test []) := by
  unfold isNull
  refine .bind (needList_ends (.bind (resolveOperand_ends (fun c => ?_) (.refl b))) (.refl b))
  refine addChecked_unnamed fun q e => ?_
  obtain ⟨p, -, rfl⟩ := Checked.map_eq_ok e
  exact ⟨rfl, trivial, unnamed _ _ _⟩

theorem carried_adds (column operator value joined : Value) :
    (carried column operator value joined).Ends b (fun _ => b.Adds test []) (b.Adds test []) := by
  unfold carried
  dsimp only
  refine addChecked_unnamed (l := fun _ => []) fun q e => ?_
  obtain ⟨p, -, rfl⟩ := Checked.map_eq_ok e
  exact ⟨rfl, trivial, rfl⟩

theorem compare_adds (column operator : Operand) (v joined : Value) :
    (compare column operator v joined).Ends b
      (fun _ b' => b.Adds test (noteWhere (fun c => valueFor c v) b'.query) b') (b.Adds test []) := by
  unfold compare
  refine .bind (resolveOperand_ends (fun c => ?_) (.refl b))
  refine .bind (bindColumn_ends (fun x n b' value h => ?_) (.refl b))
  have failed : b.Adds test [] b' := h.adds_nil
  refine .bind (needList_ends (.bind (.ofResult (fun o _ => ?_) failed)) failed)
  refine addChecked_ends (fun p e => ?_) failed
  obtain ⟨j, -, rfl⟩ := Checked.map_eq_ok e
  refine h.adds_where rfl trivial ?_
  show entryOf n (valueFor c v) = _
  rw [value, entryOf_ok]

/-- The value for a column whose values are those of a collection. A stream is gone through first.
-/
def valuesOf (members : Value → Result (List Value)) (b : Builder) (v : Value) (c : ColumnRef) :
    Result Value := do
  return .ofList (← valuesFor c (← members (b.used.useUp v).1))

theorem valuesOf_eq {members : Value → Result (List Value)} {v : Value} {c : ColumnRef}
    {given values : List Value} (e : members (b.used.useUp v).1 = .ok given)
    (e' : valuesFor c given = .ok values) : valuesOf members b v c = .ok (.ofList values) := by
  unfold valuesOf
  rw [e]
  show (valuesFor c given >>= _) = _
  rw [e']
  rfl

theorem among_adds (column : Operand) (v joined negated : Value) :
    (among column (.value v) joined negated).Ends b
      (fun _ b' => b.Adds test (noteWhere (valuesOf membershipValues b v) b'.query) b')
      (b.Adds test []) := by
  unfold among
  refine .bind (.discard (.ofResult (fun _ _ => ?_) (.refl b)))
  refine .bind (resolveOperand_ends (fun c => ?_) (.refl b))
  have used : b.Adds test [] { b with used := (b.used.useUp v).2 } := Adds.of_used
  refine .bind (useUp_ends (.bind (.ofResult (fun given e => ?_) used)))
  refine .bind (.ofResult (fun values e' => ?_) used)
  refine .bind (bindValue_ends (fun n b' h => ?_) used)
  replace h := Binds.of_used h
  refine addChecked_ends (fun p e'' => ?_) h.adds_nil
  obtain ⟨j, -, rfl⟩ := Checked.map_eq_ok e''
  refine h.adds_where rfl trivial ?_
  show entryOf n (valuesOf membershipValues b v c) = _
  rw [valuesOf_eq e e', entryOf_ok]

/-- The members of anything that has some. -/
def boundsOf (v : Value) : Result (List Value) := Result.ofFailure v.members

theorem between_adds (column : Operand) (v joined negated : Value) :
    (between column v joined negated).Ends b
      (fun _ b' => b.Adds test (noteWhere (valuesOf boundsOf b v) b'.query) b') (b.Adds test []) := by
  unfold between
  have used : b.Adds test [] { b with used := (b.used.useUp v).2 } := Adds.of_used
  refine .bind (useUp_ends (.bind (.ofResult (fun given e => ?_) used)))
  split
  · exact .bind (fault_ends used)
  refine .bind (resolveOperand_ends (fun c => ?_) used)
  refine .bind (.ofResult (fun values e' => ?_) used)
  refine .bind (bindValue_ends (fun n b' h => ?_) used)
  replace h := Binds.of_used h
  refine addChecked_ends (fun p e'' => ?_) h.adds_nil
  obtain ⟨j, -, rfl⟩ := Checked.map_eq_ok e''
  refine h.adds_where rfl trivial ?_
  show entryOf n (valuesOf boundsOf b v c) = _
  rw [valuesOf_eq e e', entryOf_ok]

/-! ### Patterns and conditions on groups -/

/-- The builder with one more pattern. -/
def withPattern (b : Builder) (p : Pattern) : Builder :=
  { b with query := { b.query with patterns := b.query.patterns ++ [.clause p] } }

theorem notePattern_withPattern (property v : Value) (b : Builder) (p : Pattern) :
    notePattern property v (withPattern b p).query = p.note property v := by
  unfold notePattern withPattern
  rw [List.getLast?_concat]
  rfl

/-- A pattern whose parameter is bound, if it has one. -/
theorem adds_pattern {b b' : Builder} (h : b.Keeps b') (same : b'.query = b.query)
    {p : Pattern} {l : Ledger} (bound : ∀ e ∈ l, b'.table.bound e.1 = some e.2)
    (covered : ∀ n, p.binding = some n → ∃ v, (n, v) ∈ l) : b.Adds test l (withPattern b' p) := by
  have plain : b.query.IsPlain test → (withPattern b' p).query.IsPlain test := fun old => by
    rw [← same] at old
    exact ⟨old.standIns, old.wheres, old.branches⟩
  refine ⟨⟨h.number, h.standIns, h.grows, h.named⟩, bound, fun n hn => ?_, plain⟩
  unfold withPattern at hn
  rw [same, Query.mem_parameters, patternParameters_append, List.mem_append] at hn
  rcases hn with (old | new) | old
  · exact Or.inl (Query.mem_parameters.mpr (Or.inl old))
  · refine Or.inr (covered n ?_)
    simpa [patternParameters, Member.clause?] using new
  · exact Or.inl (Query.mem_parameters.mpr (Or.inr old))

theorem addPattern_ends {p : Checked Pattern} {good : Unit → Builder → Prop}
    {bad : Builder → Prop} (ok : ∀ q, p = .ok q → good () (withPattern b q)) (error : bad b) :
    (addPattern p).Ends b good bad := by
  unfold addPattern
  refine .bind (needList_ends (.bind (.ofResult (fun q e => ?_) error)) error)
  exact change_ends (ok q (Result.ofChecked_eq_ok e))

/-- A parent is constrained to the value that is given, or not at all. -/
theorem constrain_ends {parent : String} {property v : Value}
    {good : Option String → Builder → Prop} {bad : Builder → Prop} (none : good .none b)
    (some : ∀ x n b', parentValue property v = .ok x → Binds b n x b' → good (.some n) b')
    (error : bad b) : (constrain parent property v).Ends b good bad := by
  unfold constrain
  split
  · exact .of_pure none
  · exact .of_pure none
  · next p _ =>
    have named : ∀ {base : String} {x : Value}, base ≠ "" → parentValue (.text p) v = .ok x →
        (Option.some <$> bind base x .pattern).Ends b good bad := by
      intro base x filled value
      rw [← bind_pure_comp]
      exact .bind (bind_ends filled (fun n b' h => .of_pure (some x n b' value h)) error)
    split
    case isTrue identity_p =>
      refine .bind (ask_ends (.bind (ask_ends ?_ error)) error)
      refine .bind (.ofResult (fun n e => named (identityName_ne_empty parent) ?_) error)
      subst identity_p
      show (identity v).map Value.int = _
      rw [e]
      rfl
    case isFalse other =>
      exact named (bindingName_ne_empty p) (if_neg fun c => other (Option.some.inj c))
  · exact .bind (ask_ends (.fail error) error)

theorem frame_binding {parent : NodePattern} {isOptional : Bool} {binding : Option String}
    {direction property : Value} {f : PatternFrame}
    (h : frame parent isOptional binding direction property = .ok f) : f.binding = binding := by
  unfold frame at h
  obtain ⟨p, -, rfl⟩ := Checked.map_eq_ok h
  rfl

/-- A parent is constrained, and then the pattern is checked and added. -/
theorem constrained_adds {a : Builder} {parent : String} {property v : Value}
    {p : Option String → Checked Pattern} (begun : a.Keeps b) (same : b.query = a.query)
    (holds : ∀ binding q, p binding = .ok q → q.binding = binding) :
    (constrain parent property v >>= fun binding => addPattern (p binding)).Ends b
      (fun _ b' => a.Adds test (notePattern property v b'.query) b') (a.Adds test []) := by
  have failed : ∀ {b'}, a.Keeps b' → b'.query = b.query → a.Adds test [] b' := fun keeps e =>
    keeps.adds_nil (e.trans same)
  refine .bind (constrain_ends ?_ (fun x n b' value h => ?_) (failed begun rfl))
  · refine addPattern_ends (fun q e => ?_) (failed begun rfl)
    have unnamed := holds none q e
    have entries : q.note property v = [] := by
      unfold Pattern.note
      rw [unnamed]
      rfl
    rw [notePattern_withPattern, entries]
    refine adds_pattern begun same (fun _ h => (List.not_mem_nil h).elim) fun n hn => ?_
    rw [unnamed] at hn
    cases hn
  · have kept := begun.trans h.keeps
    refine addPattern_ends (fun q e => ?_) (failed kept h.query)
    have named := holds (some n) q e
    have entries : q.note property v = [(n, x)] := by
      unfold Pattern.note
      rw [named, value]
      rfl
    rw [notePattern_withPattern, entries]
    refine adds_pattern kept (h.query.trans same) (fun e he => ?_) fun m hm => ?_
    · obtain rfl := List.mem_singleton.mp he
      exact h.bound
    · obtain rfl := Option.some.inj (named.symm.trans hm)
      exact ⟨x, List.mem_singleton_self _⟩

theorem parentNode_ends {v : Value} {good : NodePattern → Builder → Prop} {bad : Builder → Prop}
    (ok : ∀ node used, good node { b with used }) (error : ∀ used, bad { b with used }) :
    (parentNode v).Ends b good bad := by
  unfold parentNode
  refine .bind (readLabels_ends (fun labels used => ?_) error)
  refine .bind (.ofResult (fun _ _ => ?_) (error used))
  exact .bind (.ofResult (fun _ _ => .of_pure (ok _ used)) (error used))

theorem relation_adds
    (parent related placeholder relationship property v direction boolean : Value) :
    (relation parent related placeholder relationship property v direction boolean).Ends b
      (fun _ b' => b.Adds test (notePattern property v b'.query) b') (b.Adds test []) := by
  unfold relation
  refine .bind (parentNode_ends (fun node used => ?_) fun _ => Adds.of_used)
  refine .bind (needList_ends ?_ Adds.of_used)
  refine .bind (readLabels_ends (fun labels used' => ?_) fun _ => Adds.of_used)
  refine .bind (.ofResult (fun far _ => ?_) Adds.of_used)
  refine .bind (.ofResult (fun isOptional _ => ?_) Adds.of_used)
  refine constrained_adds Keeps.of_used rfl fun binding q e => ?_
  obtain ⟨p, both, rfl⟩ := Checked.map_eq_ok e
  exact frame_binding (Checked.and_eq_ok both).1

theorem anyRelation_adds
    (parent placeholder property v direction boolean relationship : Value) :
    (anyRelation parent placeholder property v direction boolean relationship).Ends b
      (fun _ b' => b.Adds test (notePattern property v b'.query) b') (b.Adds test []) := by
  unfold anyRelation
  refine .bind (parentNode_ends (fun node used => ?_) fun _ => Adds.of_used)
  refine .bind (needList_ends ?_ Adds.of_used)
  refine .bind (.ofResult (fun isOptional _ => ?_) Adds.of_used)
  refine constrained_adds Keeps.of_used rfl fun binding q e => ?_
  obtain ⟨p, both, rfl⟩ := Checked.map_eq_ok e
  exact frame_binding (Checked.and_eq_ok both).1

theorem addHaving_adds (column operator v joined : Value) :
    (addHaving column operator v joined).Ends b
      (fun _ b' => b.Adds test (noteHaving v b'.query) b') (b.Adds test []) := by
  unfold addHaving
  refine .bind (ask_ends (.bind (.ofResult (fun column _ => ?_) (.refl b))) (.refl b))
  refine .bind (bind_ends (bindingName_ne_empty column) (fun n b' h => ?_) (.refl b))
  refine .bind (needList_ends ?_ h.adds_nil)
  refine .bind (.ofResult (fun operator _ => ?_) h.adds_nil)
  refine .bind (.ofResult (fun j _ => change_ends ?_) h.adds_nil)
  have entries : noteHaving v { b'.query with havings :=
      b'.query.havings ++ [.clause ⟨column, operator, n, j⟩] } = [(n, v)] := by
    unfold noteHaving
    rw [List.getLast?_concat]
    rfl
  rw [entries]
  have plain : b.query.IsPlain test → Query.IsPlain test { b'.query with havings :=
      b'.query.havings ++ [.clause ⟨column, operator, n, j⟩] } := fun old => by
    rw [← h.query] at old
    exact ⟨old.standIns, old.wheres, old.branches⟩
  refine ⟨⟨h.keeps.number, h.keeps.standIns, h.keeps.grows, h.keeps.named⟩, fun e he => ?_,
    fun m hm => ?_, plain⟩
  · obtain rfl := List.mem_singleton.mp he
    exact h.bound
  · rw [h.query, Query.mem_parameters, havingParameters_append, List.mem_append] at hm
    rcases hm with old | old | (old | new) | old
    · exact Or.inl (Query.mem_parameters.mpr (Or.inl old))
    · exact Or.inl (Query.mem_parameters.mpr (Or.inr (Or.inl old)))
    · exact Or.inl (Query.mem_parameters.mpr (Or.inr (Or.inr (Or.inl old))))
    · obtain rfl : m = n := by simpa [havingParameters, Member.clause?] using new
      exact Or.inr ⟨v, List.mem_singleton_self _⟩
    · exact Or.inl (Query.mem_parameters.mpr (Or.inr (Or.inr (Or.inr old))))

end Build

end GraphQuery
