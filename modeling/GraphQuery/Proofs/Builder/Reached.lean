import GraphQuery.Proofs.Builder.Ledger
import GraphQuery.Proofs.Query.Links
import Mathlib.Data.List.Pairwise

/-! # Builders that clause calls have built

`Reached number table ledger query` holds of a query that clause calls have built on a table, alone
or together with other queries on the same table. The ledger has what the calls on that table
compared with.

* One call keeps the parameters of every query on its table bound to what the ledger says
  (`Accounted.called`), and so do any number of calls (`Reached.accounted`).
* `Reached.parameters_bound` : no name stands in two buckets, and every parameter of the query is
  bound to the value that the call compared with which created its clause. -/

namespace GraphQuery

open BindingTable Build

/-- A query that clause calls have built on the table with this number, with what the calls on the
table compared with. -/
inductive Reached : Nat → BindingTable → Ledger → Query → Prop
  /-- a new builder has a table of its own -/
  | fresh (number : Nat) : Reached number .empty [] .empty
  /-- a builder for a sub-query has the table of another one -/
  | beside {number table ledger query} :
    Reached number table ledger query → Reached number table ledger (subStart query)
  /-- a builder for a group has the table of another one, and its nodes -/
  | grouped {number table ledger query start} :
    Reached number table ledger query → groupStart query = .ok start →
      Reached number table ledger start
  /-- the predicates of one builder become a group of another one on the same table -/
  | nested {number table ledger query inner} (joint : Value) (used : Remains) :
    Reached number table ledger query → Reached number table ledger inner →
      Reached number table ledger
        ((nest inner.wheres joint).outcome ⟨query, table, number, used⟩).2.query
  /-- a call, which may fail, changes its own query `query` and leaves another one `other` -/
  | called {number table ledger query other} (c : Call) (clause : c.isClause = true)
      (known : Incoming → Ledger) (used : Remains) :
    Reached number table ledger query → Reached number table ledger other →
      (∀ q ∈ c.queries, Reached q.tableNumber q.table (known q) q.query) →
      (∀ q ∈ c.queries, q.tableNumber = number → q.table = table ∧ known q = ledger) →
      ∀ query', query' = (c.run.outcome ⟨query, table, number, used⟩).2.query ∨ query' = other →
        Reached number (c.run.outcome ⟨query, table, number, used⟩).2.table
          (ledger ++ ledgerOfAll known [c] ⟨query, table, number, used⟩) query'
  /-- the queries that are linked are looked at again -/
  | relinked {number table ledger query} (target : LinkTarget) :
    Reached number table ledger query →
      (∀ place linked q, target place linked = some q → Reached number table ledger q) →
      Reached number table ledger (query.relink target)

/-- Every value of the ledger is bound under its name, and the ledger has every parameter of the
query. -/
structure Accounted (table : BindingTable) (ledger : Ledger) (query : Query) : Prop where
  plain : query.IsPlain anyLink
  named : table.WellNamed
  bound : ∀ e ∈ ledger, table.bound e.1 = some e.2
  covered : ∀ n ∈ query.parameters, ∃ v, (n, v) ∈ ledger

namespace Accounted

variable {table : BindingTable} {ledger : Ledger} {query : Query}

theorem lookup (h : Accounted table ledger query) {n : String} (hn : n ∈ query.parameters) :
    ∃ v, ledger.lookup n = some v ∧ table.bound n = some v := by
  obtain ⟨v, inside⟩ := h.covered n hn
  cases e : ledger.lookup n with
  | none => exact absurd (List.lookup_eq_none_iff.mp e _ inside) (by simp)
  | some w =>
      obtain ⟨before, after, rfl, -⟩ := List.lookup_eq_some_iff.mp e
      exact ⟨w, rfl, h.bound (n, w) (by simp)⟩

theorem adds {number : Nat} {used : Remains} {known : Incoming → Ledger} {c : Call}
    (clause : c.isClause = true) (h : Accounted table ledger query)
    (queries : ∀ q ∈ c.queries, Accounted q.table (known q) q.query)
    (shared : ∀ q ∈ c.queries, q.tableNumber = number → q.table = table ∧ known q = ledger) :
    Builder.Adds anyLink ⟨query, table, number, used⟩
      (ledgerOfAll known [c] ⟨query, table, number, used⟩)
      (c.run.outcome ⟨query, table, number, used⟩).2 := by
  have ready : Builder.Ready ⟨query, table, number, used⟩ := ⟨h.plain.standIns, h.named⟩
  have all : AllKnown anyLink known ⟨query, table, number, used⟩ c.queries := by
    refine fun q hq => ⟨(queries q hq).plain, (queries q hq).named, fun n hn => ?_,
      fun same n hn v found => ?_, fun _ =>
        SubQuery.isPlain_shared.mpr ⟨trivial, (queries q hq).plain⟩⟩
    · exact (queries q hq).lookup hn
    · obtain ⟨w, found', value⟩ := (queries q hq).lookup hn
      obtain rfl := Option.some.inj (found.symm.trans found')
      exact (shared q hq same).1 ▸ value
  have ends := call_adds c clause _ ready all
  rw [ledgerOfAll_single]
  cases e : c.run.outcome ⟨query, table, number, used⟩ with
  | mk result b' =>
    cases result with
    | ok u => exact ends.1 u b' e
    | error f => exact ends.2 f b' e

/-- One call keeps its own query and every other one on the table accounted for. -/
theorem called {number : Nat} {used : Remains} {known : Incoming → Ledger} {c : Call}
    (clause : c.isClause = true) (h : Accounted table ledger query)
    (queries : ∀ q ∈ c.queries, Accounted q.table (known q) q.query)
    (shared : ∀ q ∈ c.queries, q.tableNumber = number → q.table = table ∧ known q = ledger)
    {query' : Query} (after : query' = (c.run.outcome ⟨query, table, number, used⟩).2.query ∨
      Accounted table ledger query') :
    Accounted (c.run.outcome ⟨query, table, number, used⟩).2.table
      (ledger ++ ledgerOfAll known [c] ⟨query, table, number, used⟩) query' := by
  have added : Builder.Adds anyLink ⟨query, table, number, used⟩
      (ledgerOfAll known [c] ⟨query, table, number, used⟩)
      (c.run.outcome ⟨query, table, number, used⟩).2 := h.adds clause queries shared
  revert added after
  generalize (c.run.outcome ⟨query, table, number, used⟩).2 = b'
  intro after added
  have kept : ∀ e ∈ ledger, b'.table.bound e.1 = some e.2 := fun e he =>
    added.keeps.grows.bound h.named (h.bound e he)
  refine ⟨?_, added.keeps.named h.named, fun e he => ?_, fun n hn => ?_⟩
  · rcases after with rfl | other
    · exact added.plain h.plain
    · exact other.plain
  · exact (List.mem_append.mp he).elim (kept e) (added.bound e)
  · rcases after with rfl | other
    · rcases added.covered n hn with old | ⟨v, new⟩
      · exact (h.covered n old).imp fun v inside => List.mem_append_left _ inside
      · exact ⟨v, List.mem_append_right _ new⟩
    · exact (other.covered n hn).imp fun v inside => List.mem_append_left _ inside

/-- A query whose parameters are among those of queries that are accounted for. -/
theorem mono (h : Accounted table ledger query) {query' : Query} (plain : query'.IsPlain anyLink)
    (covered : ∀ n ∈ query'.parameters, ∃ v, (n, v) ∈ ledger) : Accounted table ledger query' :=
  ⟨plain, h.named, h.bound, covered⟩

theorem nested {number : Nat} {used : Remains} {inner : Query} (h : Accounted table ledger query)
    (h' : Accounted table ledger inner) (joint : Value) : Accounted table ledger
      ((nest inner.wheres joint).outcome ⟨query, table, number, used⟩).2.query := by
  have ends : (nest inner.wheres joint).Ends ⟨query, table, number, used⟩
      (fun _ b' => Accounted table ledger b'.query)
      (fun b' => Accounted table ledger b'.query) := by
    refine nest_ends h (fun j => ?_) h
    refine h.mono (Builder.withWhere_isPlain h.plain h'.plain.wheres) fun n hn => ?_
    rw [Builder.mem_parameters_withWhere] at hn
    rcases hn with old | new
    · exact h.covered n old
    · exact h'.covered n (Query.mem_parameters.mpr (Or.inr (Or.inl new)))
  cases e : (nest inner.wheres joint).outcome ⟨query, table, number, used⟩ with
  | mk result b' =>
    cases result with
    | ok u => exact ends.1 u b' e
    | error f => exact ends.2 f b' e

end Accounted

/-- Any number of calls keep every query accounted for. -/
theorem Reached.accounted {number : Nat} {table : BindingTable} {ledger : Ledger} {query : Query}
    (h : Reached number table ledger query) : Accounted table ledger query := by
  induction h with
  | fresh =>
      exact ⟨⟨rfl, trivial, trivial⟩, wellNamed_empty, fun _ h => (List.not_mem_nil h).elim,
        fun _ h => (List.not_mem_nil h).elim⟩
  | beside _ ih => exact ih.mono (subStart_isPlain ih.plain.standIns) fun n hn => absurd hn List.not_mem_nil
  | grouped _ start ih =>
      obtain ⟨-, -, e⟩ := Result.bind_eq_ok start
      obtain rfl := Except.ok.inj e
      exact ih.mono ⟨subStart_plain ih.plain.standIns, trivial, trivial⟩ fun n hn =>
        ih.covered n (groupStart_parameters n hn)
  | nested joint used _ _ ih inner => exact ih.nested inner joint
  | called c clause known used _ _ _ shared query' after ih other queries =>
      refine ih.called clause queries shared ?_
      rcases after with own | rfl
      · exact Or.inl own
      · exact Or.inr other
  | relinked target _ _ ih linked =>
      have plain := Query.relink_isPlain (fun place number _ _ =>
        ⟨trivial, fun q e => (linked place number q e).plain⟩) ih.plain
      refine ih.mono plain fun n hn => ?_
      rcases Query.mem_parameters_relink ih.plain hn with own | ⟨place, number, _, q, -, e, inside⟩
      · exact ih.covered n own
      · exact (linked place number q e).covered n inside

/-! ### The law of bindings -/

/-- No name of a well-named table stands in two buckets. -/
theorem BindingTable.WellNamed.bucket_unique {t : BindingTable} (h : t.WellNamed) {b c : Bucket}
    {k : Value} (hb : k ∈ (t.bucket b).map Prod.fst) (hc : k ∈ (t.bucket c).map Prod.fst) :
    b = c := by
  have distinct := h.distinct
  unfold names entries at distinct
  rw [List.map_flatMap, List.nodup_flatMap] at distinct
  by_contra other
  let apart (b c : Bucket) : Prop :=
    List.Disjoint ((t.bucket b).map Prod.fst) ((t.bucket c).map Prod.fst)
  have symmetric : Std.Symm apart := ⟨fun _ _ => List.disjoint_symm⟩
  have order : Bucket.all.Pairwise apart := distinct.2
  exact order.forall (Bucket.mem_all b) (Bucket.mem_all c) other hb hc

/-- No name stands in two buckets, so that the flat table has as many entries as the buckets; and
every parameter of a query is bound to the value that the call compared with which created its
clause. -/
theorem Reached.parameters_bound {number : Nat} {table : BindingTable} {ledger : Ledger}
    {query : Query} (h : Reached number table ledger query) :
    (∀ b c k, k ∈ (table.bucket b).map Prod.fst → k ∈ (table.bucket c).map Prod.fst → b = c) ∧
      table.flatten.length = table.size ∧
      (∀ e ∈ ledger, table.bound e.1 = some e.2) ∧
      ∀ name ∈ query.parameters, ∃ v, (name, v) ∈ ledger ∧ table.bound name = some v := by
  have accounted := h.accounted
  refine ⟨fun b c k hb hc => accounted.named.bucket_unique hb hc, accounted.named.length_flatten,
    accounted.bound, fun name hn => ?_⟩
  obtain ⟨v, inside⟩ := accounted.covered name hn
  exact ⟨v, inside, accounted.bound _ inside⟩

/-- A call on a builder whose table no other builder uses. -/
theorem Reached.alone {number : Nat} {table : BindingTable} {ledger : Ledger} {query : Query}
    (h : Reached number table ledger query) (c : Call) (clause : c.isClause = true)
    (known : Incoming → Ledger)
    (queries : ∀ q ∈ c.queries, q.tableNumber ≠ number ∧
      Reached q.tableNumber q.table (known q) q.query) :
    Reached number (c.run.outcome ⟨query, table, number, []⟩).2.table
      (ledger ++ ledgerOfAll known [c] ⟨query, table, number, []⟩)
      (c.run.outcome ⟨query, table, number, []⟩).2.query :=
  .called c clause known [] h h (fun q hq => (queries q hq).2)
    (fun q hq same => absurd same (queries q hq).1) _ (Or.inl rfl)

theorem Reached.afterCalls {number : Nat} (known : Incoming → Ledger) : ∀ {calls : List Call}
    {b : Builder} {ledger : Ledger}, b.tableNumber = number → Reached number b.table ledger b.query →
    areClauses calls = true → (∀ q ∈ queriesOfAll calls, q.tableNumber ≠ number ∧
      Reached q.tableNumber q.table (known q) q.query) →
    ((runAll calls).outcome b).2.tableNumber = number ∧ ∃ ledger',
      Reached number ((runAll calls).outcome b).2.table ledger' ((runAll calls).outcome b).2.query
  | [], _, ledger, same, h, _, _ => ⟨same, ledger, h⟩
  | c :: rest, ⟨query, table, number, used⟩, ledger, rfl, h, clauses, queries => by
    obtain ⟨clause, others⟩ := Bool.and_eq_true_iff.mp clauses
    have own := fun q hq => queries q (List.mem_append_left _ hq)
    have first := Reached.called c clause known used h h (fun q hq => (own q hq).2)
      (fun q hq same => absurd same (own q hq).1) _ (Or.inl rfl)
    have added : Builder.Adds anyLink ⟨query, table, number, used⟩
        (ledgerOfAll known [c] ⟨query, table, number, used⟩)
        (c.run.outcome ⟨query, table, number, used⟩).2 :=
      h.accounted.adds clause (fun q hq => (own q hq).2.accounted)
        fun q hq same => absurd same (own q hq).1
    have kept := added.keeps.number
    revert first kept
    unfold runAll
    rw [Exec.outcome_bind]
    rcases c.run.outcome ⟨query, table, number, used⟩ with ⟨_ | u, b⟩
    · exact fun first kept => ⟨kept, _, first⟩
    · exact fun first kept => afterCalls known kept first others fun q hq =>
        queries q (List.mem_append_right _ hq)

/-- A query with a table of its own, for a call on another table. -/
theorem Reached.apart {number other : Nat} {table : BindingTable} {ledger : Ledger} {query : Query}
    (h : Reached other table ledger query) (different : other ≠ number) (name : Nat) :
    ∀ q ∈ [(⟨name, other, query, table⟩ : Incoming)], q.tableNumber ≠ number ∧
      Reached q.tableNumber q.table ledger q.query := by
  intro q hq
  obtain rfl := List.mem_singleton.mp hq
  exact ⟨different, h⟩

/-- A query whose sub-query takes in another query, where both have names in common. -/
theorem Reached.parameters_bound_adopted : ∃ table ledger query, Reached 1 table ledger query ∧
    query.parameters = ["age", "age_2", "iduser", "age_3"] ∧
    ledger.map Prod.fst = query.parameters ∧
    (∀ b c k, k ∈ (table.bucket b).map Prod.fst → k ∈ (table.bucket c).map Prod.fst → b = c) ∧
    table.flatten.length = table.size ∧ (∀ e ∈ ledger, table.bound e.1 = some e.2) ∧
    ∀ name ∈ query.parameters, ∃ v, (name, v) ∈ ledger ∧ table.bound name = some v := by
  have other := (Reached.fresh 2).alone (.group (.body [.equals (.text "age") (.int 5),
    .orFilter (.value (.text "id(user)")) (some (.value (.text "7"))) none]) (.text "and")) rfl
    (fun _ => []) fun _ h => by cases h
  have first := (Reached.fresh 1).alone (.equals (.text "age") (.int 30)) rfl (fun _ => [])
    fun _ h => by cases h
  have second := first.alone (.present (.body [.present (.query ⟨2, 2, _, _⟩) (.text "and")
    (.bool false), .between (.value (.text "age")) (.tuple [.int 1, .int 2]) (.text "and")
    (.bool false)]) (.text "or") (.bool true)) rfl (fun _ => _) (other.apart (by decide) 2)
  refine ⟨_, _, _, second, ?_, ?_, second.parameters_bound⟩
  · decide +kernel
  · decide +kernel

end GraphQuery
