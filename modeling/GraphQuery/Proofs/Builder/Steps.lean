import GraphQuery.Builder.Filter
import GraphQuery.Builder.Match
import GraphQuery.Builder.Projection
import GraphQuery.Proofs.Binding.Absorption
import GraphQuery.Proofs.Outcome
import GraphQuery.Proofs.Query.Plain

/-! # What steps of building keep

`Builder.Keeps` relates a builder to a later state of it: the table is the same one, and it still
binds every name as before. `Builder.Adds test ledger` says more: the entries of the ledger are
bound, every parameter that a clause names was there before or is in the ledger, and a plain query
stays plain.

There is one lemma for each way in which a step of building begins: looking something up
(`withQuery_ends`), going through a value (`useUp_ends`), binding a value (`bindColumn_ends`),
taking in a query (`adopt_ends`). -/

namespace GraphQuery

open GraphQuery.Binding BindingTable

/-- Names of bindings, with the values that clauses compare with under them. -/
abbrev Ledger := List (String × Value)

namespace Builder

/-- What every step keeps, also when it fails. -/
structure Keeps (b b' : Builder) : Prop where
  number : b'.tableNumber = b.tableNumber
  standIns : b'.query.standIns = b.query.standIns
  grows : b.table.Grows b'.table
  named : b.table.WellNamed → b'.table.WellNamed

theorem Keeps.refl (b : Builder) : b.Keeps b := ⟨rfl, rfl, .refl _, id⟩

theorem Keeps.trans {a b c : Builder} (h : a.Keeps b) (h' : b.Keeps c) : a.Keeps c :=
  ⟨h'.number.trans h.number, h'.standIns.trans h.standIns, h.grows.trans h'.grows,
    fun n => h'.named (h.named n)⟩

/-- Nothing stands for a part of the builder, and all names of its table differ. -/
structure Ready (b : Builder) : Prop where
  plain : b.query.standIns = []
  named : b.table.WellNamed

theorem Keeps.ready {b b' : Builder} (h : b.Keeps b') (r : b.Ready) : b'.Ready :=
  ⟨h.standIns.trans r.plain, h.named r.named⟩

/-- Every entry of the ledger is bound, every parameter of a clause that was not there before is in
the ledger, and the new clauses are plain. -/
structure Adds (test : LinkTest) (b : Builder) (ledger : Ledger) (b' : Builder) : Prop where
  keeps : b.Keeps b'
  bound : ∀ e ∈ ledger, b'.table.bound e.1 = some e.2
  covered : ∀ n ∈ b'.query.parameters, n ∈ b.query.parameters ∨ ∃ v, (n, v) ∈ ledger
  plain : b.query.IsPlain test → b'.query.IsPlain test

theorem Keeps.adds_nil {test : LinkTest} {b b' : Builder} (h : b.Keeps b')
    (same : b'.query = b.query) : b.Adds test [] b' :=
  ⟨h, fun _ e => (List.not_mem_nil e).elim, fun _ hn => Or.inl (same ▸ hn), fun p => same ▸ p⟩

theorem Adds.refl {test : LinkTest} (b : Builder) : b.Adds test [] b := (Keeps.refl b).adds_nil rfl

theorem Adds.trans {test : LinkTest} {a b c : Builder} {l l' : Ledger} (r : a.Ready)
    (h : a.Adds test l b) (h' : b.Adds test l' c) : a.Adds test (l ++ l') c := by
  refine ⟨h.keeps.trans h'.keeps, fun e he => ?_, fun n hn => ?_, fun p => h'.plain (h.plain p)⟩
  · rcases List.mem_append.mp he with old | new
    · exact h'.keeps.grows.bound (h.keeps.ready r).named (h.bound e old)
    · exact h'.bound e new
  · rcases h'.covered n hn with old | ⟨v, new⟩
    · rcases h.covered n old with older | ⟨v, inside⟩
      · exact Or.inl older
      · exact Or.inr ⟨v, List.mem_append_left _ inside⟩
    · exact Or.inr ⟨v, List.mem_append_right _ new⟩

end Builder

namespace Build

open Builder Exec

variable {α : Type} {b : Builder}

/-! ### Reading -/

theorem withQuery_ends {f : Query → Result α} {good : α → Builder → Prop} {bad : Builder → Prop}
    (ok : ∀ a, f b.query = .ok a → good a b) (error : bad b) : (withQuery f).Ends b good bad :=
  .of_outcome (outcome_ofOutcome _ b) ok fun _ _ => error

theorem ask_ends {part : QueryPart} {name : String} {good : Unit → Builder → Prop}
    {bad : Builder → Prop} (ok : good () b) (error : bad b) : (ask part name).Ends b good bad :=
  withQuery_ends (fun _ _ => ok) error

theorem needList_ends {part : QueryPart} {good : Unit → Builder → Prop} {bad : Builder → Prop}
    (ok : good () b) (error : bad b) : (needList part).Ends b good bad := ask_ends ok error

theorem fault_ends {f : BuilderFault} {good : α → Builder → Prop} {bad : Builder → Prop}
    (error : bad b) : (fault f : Build α).Ends b good bad := .fail error

theorem change_ends {f : Query → Query} {good : Unit → Builder → Prop} {bad : Builder → Prop}
    (ok : good () { b with query := f b.query }) : (change f).Ends b good bad := .of_modify ok

theorem useUp_ends {v : Value} {good : Value → Builder → Prop} {bad : Builder → Prop}
    (ok : good (b.used.useUp v).1 { b with used := (b.used.useUp v).2 }) :
    (useUp v).Ends b good bad :=
  .of_outcome (outcome_ofOutcome _ b) (fun _ e => Except.ok.inj e ▸ ok) fun _ e => by cases e

theorem resolveOperand_ends {column : Operand} {good : ColumnRef → Builder → Prop}
    {bad : Builder → Prop} (ok : ∀ c, good c b) (error : bad b) :
    (resolveOperand column).Ends b good bad := by
  cases column with
  | value v =>
      unfold resolveOperand resolve
      exact withQuery_ends (fun c _ => ok c) error
  | body _ | query _ => exact .fail error

theorem readLabels_ends {v : Value} {good : List Value → Builder → Prop} {bad : Builder → Prop}
    (ok : ∀ labels used, good labels { b with used }) (error : ∀ used, bad { b with used }) :
    (readLabels v).Ends b good bad := by
  unfold readLabels
  refine .bind (ask_ends ?_ (error b.used))
  exact .bind (useUp_ends (.ofResult (fun labels _ => ok labels _) (error _)))

/-! ### Comparing with a value that is given -/

theorem isNull_iff {v : Value} : v.isNull = true ↔ v = .null := by
  cases v <;> simp [Value.isNull]

/-- Whatever the operator is, a value that is not null goes with it. -/
theorem isIllegalPair_given {v : Value} (given : v.isNull = false) (operator : Operand) :
    isIllegalPair operator (.value v) = false := by
  rw [isIllegalPair, show (Operand.value v).isNull = false from given, Bool.false_and, Bool.false_and]

/-- Only null makes another clause of a comparison. -/
theorem compareOperand_given {v : Value} (given : v.isNull = false) (column operator : Operand)
    (joined : Value) :
    compareOperand column operator (.value v) joined = compare column operator v joined := by
  cases v with
  | null => cases given
  | _ => rfl

/-! ### Binding -/

theorem identityName_ne_empty (node : String) : identityName ("id(" ++ node ++ ")") ≠ "" := by
  intro h
  have letters := congrArg String.toList h
  simp [identityName, Text.dropBlanks, Text.isBlank] at letters

theorem bindingBase_ne_empty (c : ColumnRef) : bindingBase c ≠ "" := by
  unfold bindingBase ColumnRef.qualified
  split
  · exact identityName_ne_empty _
  · exact bindingName_ne_empty _

/-- `b'` is `b` with a value under a name in its table. -/
structure Binds (b : Builder) (n : String) (v : Value) (b' : Builder) : Prop where
  query : b'.query = b.query
  keeps : b.Keeps b'
  bound : b'.table.bound n = some v

theorem bind_ends {base : String} (filled : base ≠ "") {v : Value} {bucket : Bucket}
    {good : String → Builder → Prop} {bad : Builder → Prop}
    (ok : ∀ n b', Binds b n v b' → good n b') (error : bad b) :
    (bind base v bucket).Ends b good bad := by
  unfold bind
  refine .bind (ask_ends ?_ error)
  refine .of_outcome (outcome_ofOutcome _ b) (fun n e => ?_) fun _ e => by cases e
  obtain rfl := Except.ok.inj e
  have free := uniqueName_not_mem b.table base
  exact ok _ _ ⟨rfl, ⟨rfl, rfl, grows_add free v bucket,
    fun named => named.add free (uniqueName_ne_empty b.table filled) v bucket⟩,
    bound_add_self free v bucket⟩

theorem bindValue_ends {c : ColumnRef} {v : Value} {bucket : Bucket}
    {good : String → Builder → Prop} {bad : Builder → Prop}
    (ok : ∀ n b', Binds b n v b' → good n b') (error : bad b) :
    (bindValue c v bucket).Ends b good bad := by
  unfold bindValue
  refine .bind (ask_ends ?_ error)
  have last : (bind (bindingBase c) v bucket).Ends b good bad :=
    bind_ends (bindingBase_ne_empty c) ok error
  split
  · exact .bind (ask_ends last error)
  · exact last

theorem bindColumn_ends {c : ColumnRef} {v : Value} {bucket : Bucket}
    {good : String → Builder → Prop} {bad : Builder → Prop}
    (ok : ∀ x n b', valueFor c v = .ok x → Binds b n x b' → good n b') (error : bad b) :
    (bindColumn c v bucket).Ends b good bad := by
  unfold bindColumn
  exact .bind (.ofResult (fun x e => bindValue_ends (fun n b' h => ok x n b' e h) error) error)

end Build

end GraphQuery
