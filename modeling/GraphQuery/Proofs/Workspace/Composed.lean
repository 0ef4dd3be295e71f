import GraphQuery.Proofs.Builder.Ledger
import GraphQuery.Proofs.Query.Links
import GraphQuery.Workspace

/-! # Workspaces in which queries have been composed

`Workspace.Step` is one step of composing queries in a workspace: a builder is made, alone or out of
another one, a clause call runs on a builder, or an aggregate is set. `Workspace.Composed` holds
after any number of such steps.

* `Workspace.Sound` is the invariant: the queries of all builders are plain, all names of their
  tables differ, every parameter of a query is bound in its table, and links lead to builders on the
  same table.
* `Workspace.Step.sound` : every step keeps it. -/

namespace GraphQuery

open BindingTable Build

namespace Workspace

/-! ### Steps -/

/-- One step of composing queries. -/
inductive Step (w : Workspace) : Workspace → Prop
  /-- a new builder has a table of its own -/
  | opened (connection : Option Nat) (standard : w.grammarInstead? connection = none) :
    Step w ((addBuilder Query.empty connection).outcome w).2
  /-- a builder like another one, with a table of its own -/
  | fresh {n : Nat} (there : n < w.builders.length) : Step w ((newBuilder n).outcome w).2
  /-- a builder for a sub-query, on the same table -/
  | beside {n : Nat} (there : n < w.builders.length) : Step w ((subBuilder n).outcome w).2
  /-- a builder for a group of predicates, on the same table -/
  | grouped {n : Nat} (there : n < w.builders.length) : Step w ((groupBuilder n).outcome w).2
  /-- a call, which may fail, and which may be given builders of the workspace as they are now -/
  | called {n : Nat} (there : n < w.builders.length) (c : Call) (clause : c.isClause = true)
    (queries : ∀ q ∈ c.queries, ∃ m < w.builders.length, q = w.incoming m) :
    Step w ((c.run.within (builderPart n)).outcome w).2
  /-- the predicates of one builder become a group of another one on the same table -/
  | nested {n m : Nat} (there : n < w.builders.length) (there' : m < w.builders.length)
    (shared : (w.slot m).table = (w.slot n).table) (joint : Value) :
    Step w (((nest (w.query m).wheres joint).within (builderPart n)).outcome w).2
  /-- a value is bound for a percentile -/
  | bound {n : Nat} (there : n < w.builders.length) (base : String) (filled : base ≠ "") (v : Value)
    (bucket : Bucket) : Step w (((bind base v bucket).within (builderPart n)).outcome w).2
  /-- an aggregate is set whose percentile is bound, if it has one -/
  | aggregated {n : Nat} (there : n < w.builders.length) (a : Option Aggregate)
    (percentile : ∀ p ∈ a.bind (·.percentile), ((w.builder n).table.bound p).isSome) :
    Step w (((setAggregate a).within (builderPart n)).outcome w).2
  /-- anything that happens to other parts of the workspace -/
  | elsewhere (w' : Workspace) (builders : w'.builders = w.builders)
    (tables : w'.tables = w.tables) : Step w w'

/-- A workspace in which queries have been composed, out of one without builders. -/
inductive Composed : Workspace → Prop
  | start {w : Workspace} (none : w.builders = []) : Composed w
  | step {w w' : Workspace} : Composed w → Step w w' → Composed w'

/-! ### The invariant -/

/-- There is a builder with this number, and it uses this table. -/
def OnTable (w : Workspace) (table number : Nat) : Prop :=
  ∃ s, w.builders[number]? = some s ∧ s.table = table

/-- What holds of a builder of a workspace. -/
structure Holds (w : Workspace) (s : BuilderSlot) : Prop where
  table : s.table < w.tables.length
  named : (w.table s.table).WellNamed
  plain : s.query.IsPlain fun n _ => w.OnTable s.table n
  bound : ∀ name ∈ s.query.parameters, ((w.table s.table).bound name).isSome

/-- It holds of every builder. -/
def Sound (w : Workspace) : Prop :=
  ∀ (n : Nat) (s : BuilderSlot), w.builders[n]? = some s → w.Holds s

variable {w : Workspace} {n : Nat} {s : BuilderSlot}

theorem slot_eq (e : w.builders[n]? = some s) : w.slot n = s := by
  unfold slot
  rw [e]
  rfl

theorem exists_slot (there : n < w.builders.length) : ∃ s, w.builders[n]? = some s :=
  ⟨_, List.getElem?_eq_getElem there⟩

theorem query_eq (e : w.builders[n]? = some s) : w.query n =
    Query.refreshFrom w.storedQuery? (2 * w.builders.length + 1) [(.condition, n)] s.query := by
  unfold query Query.refresh
  rw [slot_eq e]

theorem builder_eq (e : w.builders[n]? = some s) :
    w.builder n = ⟨w.query n, w.table s.table, s.table, w.used⟩ := by
  unfold builder
  rw [slot_eq e]

namespace Sound

theorem closed (h : w.Sound) (table : Nat) : Closed (w.OnTable table) w.storedQuery? := by
  rintro k q ⟨s, e, rfl⟩ found
  unfold storedQuery? at found
  rw [e] at found
  exact Option.some.inj found ▸ (h k s e).plain

theorem query_isPlain (h : w.Sound) (e : w.builders[n]? = some s) :
    (w.query n).IsPlain fun k _ => w.OnTable s.table k := by
  rw [query_eq e]
  exact Query.refreshFrom_isPlain (h.closed s.table) _ _ (h n s e).plain

theorem query_bound (h : w.Sound) (e : w.builders[n]? = some s) :
    ∀ name ∈ (w.query n).parameters, ((w.table s.table).bound name).isSome := by
  intro name inside
  rw [query_eq e] at inside
  rcases Query.mem_parameters_refreshFrom (h.closed s.table) _ _ (h n s e).plain inside with
    own | ⟨k, q, ⟨t, found, shared⟩, look, linked⟩
  · exact (h n s e).bound name own
  · unfold storedQuery? at look
    rw [found] at look
    obtain rfl := Option.some.inj look
    exact shared ▸ (h k t found).bound name linked

theorem ready (h : w.Sound) (e : w.builders[n]? = some s) : (w.builder n).Ready := by
  rw [builder_eq e]
  exact ⟨(h.query_isPlain e).standIns, (h n s e).named⟩

end Sound

/-! ### New builders -/

theorem Sound.add (h : w.Sound) {w' : Workspace} {s : BuilderSlot} (tables : List BindingTable)
    (builders : w'.builders = w.builders ++ [s]) (grown : w'.tables = w.tables ++ tables)
    (table : s.table < w'.tables.length) (named : (w'.table s.table).WellNamed)
    (plain : s.query.IsPlain noLink)
    (bound : ∀ name ∈ s.query.parameters, ((w'.table s.table).bound name).isSome) : w'.Sound := by
  intro k t e
  rw [builders] at e
  by_cases old : k < w.builders.length
  · rw [List.getElem?_append_left old] at e
    have holds := h k t e
    have same : w'.table t.table = w.table t.table := by
      unfold Workspace.table
      rw [grown, List.getElem?_append_left holds.table]
    have links : ∀ j, w.OnTable t.table j → w'.OnTable t.table j := by
      rintro j ⟨u, found, shared⟩
      refine ⟨u, ?_, shared⟩
      rw [builders, List.getElem?_append_left (List.getElem?_eq_some_iff.mp found).1, found]
    refine ⟨?_, same ▸ holds.named, holds.plain.mono fun j _ => links j, same ▸ holds.bound⟩
    rw [grown, List.length_append]
    exact Nat.lt_add_right _ holds.table
  · rw [List.getElem?_append_right (Nat.le_of_not_lt old)] at e
    obtain rfl : s = t := by
      cases c : k - w.builders.length with
      | zero =>
          rw [c] at e
          exact Option.some.inj e
      | succ i =>
          rw [c] at e
          cases e
    exact ⟨table, named, plain.mono fun _ _ none => none.elim, bound⟩

/-! ### Steps on a builder -/

/-- A builder that may take the place of one of the workspace. -/
structure Continues (w : Workspace) (s : BuilderSlot) (b : Builder) : Prop where
  grows : (w.table s.table).Grows b.table
  named : b.table.WellNamed
  plain : b.query.IsPlain fun k _ => w.OnTable s.table k
  bound : ∀ name ∈ b.query.parameters, (b.table.bound name).isSome

section setBuilder

variable {b : Builder}

theorem table_setBuilder (h : w.Sound) (e : w.builders[n]? = some s) (number : Nat) :
    (w.setBuilder n b).table number = if number = s.table then b.table else w.table number := by
  unfold setBuilder setTable
  rw [slot_eq e]
  show ((w.tables.set s.table b.table)[number]?).getD _ = _
  rw [List.getElem?_set]
  split
  · next same =>
    subst same
    rw [if_pos (h n s e).table, if_pos rfl]
    rfl
  · next other => rw [if_neg fun same => other same.symm]; rfl

theorem builders_setBuilder (e : w.builders[n]? = some s) (k : Nat) :
    (w.setBuilder n b).builders[k]? =
      if k = n then some { s with query := b.query } else w.builders[k]? := by
  unfold setBuilder
  rw [slot_eq e]
  show (w.builders.set n { s with query := b.query })[k]? = _
  rw [List.getElem?_set]
  split
  · next same =>
    subst same
    rw [if_pos (List.getElem?_eq_some_iff.mp e).1, if_pos rfl]
  · next other => rw [if_neg fun same => other same.symm]

theorem onTable_setBuilder (e : w.builders[n]? = some s) (table k : Nat) :
    (w.setBuilder n b).OnTable table k ↔ w.OnTable table k := by
  unfold OnTable
  rw [builders_setBuilder e]
  split
  · next same =>
    subst same
    rw [e]
    constructor
    · rintro ⟨t, found, shared⟩
      obtain rfl := Option.some.inj found
      exact ⟨s, rfl, shared⟩
    · rintro ⟨t, found, shared⟩
      obtain rfl := Option.some.inj found
      exact ⟨_, rfl, shared⟩
  · exact Iff.rfl

/-- The invariant is kept when a builder goes on. -/
theorem Sound.setBuilder (h : w.Sound) (e : w.builders[n]? = some s) (next : Continues w s b) :
    (w.setBuilder n b).Sound := by
  intro k t found
  have length : (w.setBuilder n b).tables.length = w.tables.length := List.length_set
  have links (table : Nat) {q : Query} (plain : q.IsPlain fun j _ => w.OnTable table j) :
      q.IsPlain fun j _ => (w.setBuilder n b).OnTable table j :=
    plain.mono fun j _ => (onTable_setBuilder e table j).mpr
  rw [builders_setBuilder e] at found
  split at found
  · obtain rfl := Option.some.inj found
    have table : (w.setBuilder n b).table s.table = b.table := by
      rw [table_setBuilder h e, if_pos rfl]
    refine ⟨length ▸ (h n s e).table, ?_, links s.table next.plain, fun name inside => ?_⟩
    · exact table.symm ▸ next.named
    · exact table.symm ▸ next.bound name inside
  · have holds := h k t found
    refine ⟨length ▸ holds.table, ?_, links t.table holds.plain, fun name inside => ?_⟩
    · rw [table_setBuilder h e]
      split
      · exact next.named
      · exact holds.named
    · have old := holds.bound name inside
      rw [table_setBuilder h e]
      split
      · next same =>
        obtain ⟨v, value⟩ := Option.isSome_iff_exists.mp old
        exact Option.isSome_of_eq_some (next.grows.bound (h n s e).named (same ▸ value))
      · exact old

end setBuilder

/-- A step that lets its builder go on keeps the invariant, also when it fails. -/
theorem Sound.within {α : Type} (h : w.Sound) (e : w.builders[n]? = some s) {step : Build α}
    (ends : step.Ends (w.builder n) (fun _ b => Continues w s b) (Continues w s)) :
    ((step.within (builderPart n)).outcome w).2.Sound := by
  show (w.setBuilder n (step.outcome (w.builder n)).2).Sound
  refine h.setBuilder e ?_
  cases o : step.outcome (w.builder n) with
  | mk result b =>
    cases result with
    | ok a => exact ends.1 a b o
    | error f => exact ends.2 f b o

/-! ### Calls -/

/-- The values that names are bound to. -/
def boundLedger (t : BindingTable) (names : List String) : Ledger :=
  names.filterMap fun n => (t.bound n).map fun v => (n, v)

theorem mem_boundLedger {t : BindingTable} {names : List String} {n : String} {v : Value} :
    (n, v) ∈ boundLedger t names ↔ n ∈ names ∧ t.bound n = some v := by
  unfold boundLedger
  rw [List.mem_filterMap]
  constructor
  · rintro ⟨m, inside, e⟩
    obtain ⟨w, value, pair⟩ := Option.map_eq_some_iff.mp e
    obtain ⟨rfl, rfl⟩ := Prod.mk.inj pair
    exact ⟨inside, value⟩
  · rintro ⟨inside, value⟩
    exact ⟨n, inside, by rw [value]; rfl⟩

theorem bound_of_lookup {t : BindingTable} {names : List String} {n : String} {v : Value}
    (e : (boundLedger t names).lookup n = some v) : t.bound n = some v := by
  obtain ⟨before, after, parts, -⟩ := List.lookup_eq_some_iff.mp e
  have inside : (n, v) ∈ boundLedger t names := by
    rw [parts]
    exact List.mem_append_right _ List.mem_cons_self
  exact (mem_boundLedger.mp inside).2

theorem lookup_of_bound {t : BindingTable} {names : List String} {n : String} {v : Value}
    (inside : n ∈ names) (value : t.bound n = some v) :
    (boundLedger t names).lookup n = some v := by
  cases e : (boundLedger t names).lookup n with
  | none =>
      have apart := List.lookup_eq_none_iff.mp e (n, v) (mem_boundLedger.mpr ⟨inside, value⟩)
      exact absurd apart (by simp)
  | some u => exact (bound_of_lookup e).symm.trans value

theorem incoming_eq (e : w.builders[n]? = some s) :
    w.incoming n = ⟨n, s.table, w.query n, w.table s.table⟩ := by
  unfold incoming
  rw [builder_eq e]

/-- What a call needs to know of a builder of the workspace that it is given. -/
theorem Sound.known (h : w.Sound) (e : w.builders[n]? = some s) {m : Nat} {t : BuilderSlot}
    (found : w.builders[m]? = some t) : Known (fun k _ => w.OnTable s.table k)
      (boundLedger (w.incoming m).table (w.incoming m).query.parameters) (w.builder n)
      (w.incoming m) := by
  rw [incoming_eq found, builder_eq e]
  refine ⟨(h.query_isPlain found).mono fun _ _ _ => trivial, (h m t found).named,
    fun name inside => ?_, fun shared name _ v value => ?_, fun shared => ?_⟩
  · obtain ⟨v, value⟩ := Option.isSome_iff_exists.mp (h.query_bound found name inside)
    exact ⟨v, lookup_of_bound inside value, value⟩
  · exact (show t.table = s.table from shared) ▸ bound_of_lookup value
  · refine SubQuery.isPlain_shared.mpr ⟨⟨t, found, shared⟩, ?_⟩
    exact (show t.table = s.table from shared) ▸ h.query_isPlain found

theorem Sound.continues (h : w.Sound) (e : w.builders[n]? = some s) {l : Ledger} {b : Builder}
    (added : Builder.Adds (fun k _ => w.OnTable s.table k) (w.builder n) l b) :
    Continues w s b := by
  have ready := h.ready e
  rw [builder_eq e] at added ready
  refine ⟨added.keeps.grows, added.keeps.named ready.named, added.plain (h.query_isPlain e),
    fun name inside => ?_⟩
  rcases added.covered name inside with old | ⟨v, new⟩
  · obtain ⟨v, value⟩ := Option.isSome_iff_exists.mp (h.query_bound e name old)
    exact Option.isSome_of_eq_some (added.keeps.grows.bound ready.named value)
  · exact Option.isSome_of_eq_some (added.bound _ new)

theorem Sound.called (h : w.Sound) (e : w.builders[n]? = some s) {c : Call}
    (clause : c.isClause = true)
    (queries : ∀ q ∈ c.queries, ∃ m < w.builders.length, q = w.incoming m) :
    ((c.run.within (builderPart n)).outcome w).2.Sound := by
  have all : AllKnown (fun k _ => w.OnTable s.table k)
      (fun q => boundLedger q.table q.query.parameters) (w.builder n) c.queries := by
    intro q inside
    obtain ⟨m, there, rfl⟩ := queries q inside
    obtain ⟨t, found⟩ := exists_slot there
    exact h.known e found
  exact h.within e ((call_adds c clause _ (h.ready e) all).imp (fun _ _ => h.continues e)
    fun _ => h.continues e)

/-! ### Other steps on a builder -/

/-- Predicates of another builder on the same table become a group. -/
theorem Sound.nested (h : w.Sound) (e : w.builders[n]? = some s) {m : Nat} {t : BuilderSlot}
    (found : w.builders[m]? = some t) (shared : t.table = s.table) (joint : Value) :
    (((nest (w.query m).wheres joint).within (builderPart n)).outcome w).2.Sound := by
  have same : Continues w s (w.builder n) := h.continues e (.refl _)
  refine h.within e (nest_ends same (fun j => ?_) same)
  have inner := h.query_isPlain found
  rw [shared] at inner
  refine ⟨same.grows, same.named, Builder.withWhere_isPlain same.plain inner.wheres,
    fun name inside => ?_⟩
  rcases Builder.mem_parameters_withWhere.mp inside with old | new
  · exact same.bound name old
  · have value := h.query_bound found name (Query.mem_parameters.mpr (Or.inr (Or.inl new)))
    rw [shared] at value
    rw [builder_eq e]
    exact value

theorem Sound.bound (h : w.Sound) (e : w.builders[n]? = some s) {base : String} (filled : base ≠ "")
    (v : Value) (bucket : Bucket) :
    (((bind base v bucket).within (builderPart n)).outcome w).2.Sound :=
  h.within e (bind_ends filled (fun _ _ binds => h.continues e binds.adds_nil)
    (h.continues e (.refl _)))

theorem Sound.aggregated (h : w.Sound) (e : w.builders[n]? = some s) (a : Option Aggregate)
    (percentile : ∀ p ∈ a.bind (·.percentile), ((w.builder n).table.bound p).isSome) :
    (((setAggregate a).within (builderPart n)).outcome w).2.Sound := by
  have same : Continues w s (w.builder n) := h.continues e (.refl _)
  refine h.within e (change_ends ⟨same.grows, same.named,
    ⟨same.plain.standIns, same.plain.wheres, same.plain.branches⟩, fun name inside => ?_⟩)
  rcases Query.mem_parameters.mp inside with old | old | old | old | new
  · exact same.bound name (Query.mem_parameters.mpr (Or.inl old))
  · exact same.bound name (Query.mem_parameters.mpr (Or.inr (Or.inl old)))
  · exact same.bound name (Query.mem_parameters.mpr (Or.inr (Or.inr (Or.inl old))))
  · exact same.bound name (Query.mem_parameters.mpr (Or.inr (Or.inr (Or.inr (Or.inl old)))))
  · refine percentile name ?_
    cases a with
    | none => cases new
    | some a => exact Option.mem_toList.mp new

/-! ### Making builders -/

theorem addBuilderOn_ends {table grammar : Nat} {q : Query} {connection : Option Nat}
    {good : Nat → Workspace → Prop} {bad : Workspace → Prop}
    (ok : good w.builders.length
      { w with builders := w.builders ++ [⟨q, table, connection, grammar, []⟩] }) :
    (addBuilderOn table grammar q connection).Ends w good bad :=
  .bind (.of_get (.bind (.of_set (.of_pure ok))))

theorem addTable_ends {t : BindingTable} {good : Nat → Workspace → Prop} {bad : Workspace → Prop}
    (ok : good w.tables.length { w with tables := w.tables ++ [t] }) :
    (addTable t).Ends w good bad :=
  .bind (.of_get (.bind (.of_set (.of_pure ok))))

theorem grammarFor_ends {connection : Option Nat} {good : Nat → Workspace → Prop}
    {bad : Workspace → Prop} (ok : ∀ g grammars, good g { w with grammars }) :
    (grammarFor connection).Ends w good bad := by
  cases connection with
  | none => exact .bind (.of_get (.bind (.of_set (.of_pure (ok _ _)))))
  | some c => exact .bind (.of_get (.of_pure (ok _ w.grammars)))

/-- A builder that has nothing in the place of its grammar passes it on. -/
theorem grammarOf_ends (plain : s.query.standIns = []) {good : Nat → Workspace → Prop}
    {bad : Workspace → Prop} (ok : good s.grammar w) : (grammarOf s).Ends w good bad := by
  unfold grammarOf QueryOver.standIn?
  rw [plain]
  exact .of_pure ok

theorem addBeside_ends (e : w.builders[n]? = some s) (plain : s.query.standIns = []) {q : Query}
    {good : Nat → Workspace → Prop} {bad : Workspace → Prop}
    (ok : ∀ slot, slot.query = q → slot.table = s.table →
      good w.builders.length { w with builders := w.builders ++ [slot] }) :
    (addBeside n q).Ends w good bad := by
  unfold addBeside
  refine .bind (.of_get ?_)
  rw [slot_eq e]
  have own : (s.query.standIn? .bindings).any (·.isNull) = false := by
    unfold QueryOver.standIn?
    rw [plain]
    rfl
  dsimp only
  rw [own]
  refine .bind (.of_pure (.bind (grammarOf_ends plain ?_)))
  exact addBuilderOn_ends (ok _ rfl rfl)

theorem Sound.addFresh (h : w.Sound) {w' : Workspace} {s : BuilderSlot}
    (builders : w'.builders = w.builders ++ [s])
    (grown : w'.tables = w.tables ++ [BindingTable.empty]) (table : s.table = w.tables.length)
    (plain : s.query.IsPlain noLink) (unnamed : s.query.parameters = []) : w'.Sound := by
  have new : w'.table s.table = BindingTable.empty := by
    unfold Workspace.table
    rw [grown, table, List.getElem?_concat_length]
    rfl
  refine h.add _ builders grown ?_ (new.symm ▸ wellNamed_empty) plain fun name inside => ?_
  · rw [grown, table, List.length_append]
    exact Nat.lt_succ_self _
  · rw [unnamed] at inside
    exact absurd inside List.not_mem_nil

theorem Sound.addBeside (h : w.Sound) (e : w.builders[n]? = some s) {slot : BuilderSlot}
    (table : slot.table = s.table) (plain : slot.query.IsPlain noLink)
    (names : ∀ name ∈ slot.query.parameters, name ∈ s.query.parameters) :
    Sound { w with builders := w.builders ++ [slot] } := by
  have holds := h n s e
  refine h.add [] rfl (List.append_nil _).symm ?_ ?_ plain fun name inside => ?_
  · exact table ▸ holds.table
  · exact table ▸ holds.named
  · exact table ▸ holds.bound name (names name inside)

/-! ### The law of steps -/

theorem sound_of_ends {α : Type} {step : Exec Workspace α}
    (ends : step.Ends w (fun _ w' => w'.Sound) Sound) : (step.outcome w).2.Sound := by
  cases o : step.outcome w with
  | mk result w' =>
    cases result with
    | ok a => exact ends.1 a w' o
    | error f => exact ends.2 f w' o

/-- Every step keeps the invariant. -/
theorem Step.sound {w' : Workspace} (step : Step w w') (h : w.Sound) : w'.Sound := by
  cases step with
  | opened connection standard =>
      refine sound_of_ends (.bind (addTable_ends (.bind (grammarFor_ends fun g grammars => ?_))))
      refine .bind (.of_get ?_)
      rw [show grammarInstead? { w with tables := _, grammars } connection = none from standard]
      exact addBuilderOn_ends (h.addFresh rfl rfl rfl ⟨rfl, trivial, trivial⟩ rfl)
  | @fresh n there =>
      obtain ⟨s, e⟩ := exists_slot there
      have plain := (h n s e).plain.standIns
      refine sound_of_ends (.bind (.of_get (.bind (addTable_ends (.bind ?_)))))
      rw [slot_eq e]
      refine grammarOf_ends plain (addBuilderOn_ends (h.addFresh rfl rfl rfl ?_ rfl))
      refine ⟨?_, trivial, trivial⟩
      show List.filter _ (subStart s.query).standIns = []
      rw [subStart_plain plain]
      rfl
  | @beside n there =>
      obtain ⟨s, e⟩ := exists_slot there
      have plain := (h n s e).plain.standIns
      refine sound_of_ends (.bind (.of_get (addBeside_ends e plain fun slot query table => ?_)))
      rw [slot_eq e] at query
      refine h.addBeside e table (query ▸ subStart_isPlain plain) fun name inside => ?_
      rw [query, subStart_parameters] at inside
      exact absurd inside List.not_mem_nil
  | @grouped n there =>
      obtain ⟨s, e⟩ := exists_slot there
      have plain := (h n s e).plain.standIns
      refine sound_of_ends (.bind (.of_get (.bind (.ofResult (fun start started => ?_) h))))
      rw [slot_eq e] at started
      obtain ⟨-, -, started⟩ := Result.bind_eq_ok started
      obtain rfl := Except.ok.inj started
      refine addBeside_ends e plain fun slot query table => ?_
      refine h.addBeside e table (query ▸ ⟨subStart_plain plain, trivial, trivial⟩) ?_
      exact fun name inside => groupStart_parameters name (query ▸ inside)
  | @called n there c clause queries =>
      obtain ⟨s, e⟩ := exists_slot there
      exact h.called e clause queries
  | @nested n m there there' shared joint =>
      obtain ⟨s, e⟩ := exists_slot there
      obtain ⟨t, found⟩ := exists_slot there'
      rw [slot_eq e, slot_eq found] at shared
      exact h.nested e found shared joint
  | @bound n there base filled v bucket =>
      obtain ⟨s, e⟩ := exists_slot there
      exact h.bound e filled v bucket
  | @aggregated n there a percentile =>
      obtain ⟨s, e⟩ := exists_slot there
      exact h.aggregated e a percentile
  | elsewhere w' builders tables =>
      intro k t found
      rw [builders] at found
      have holds := h k t found
      have table : w'.table t.table = w.table t.table := by
        unfold Workspace.table
        rw [tables]
      refine ⟨tables ▸ holds.table, table ▸ holds.named, ?_, table ▸ holds.bound⟩
      refine holds.plain.mono fun j _ => ?_
      unfold OnTable
      rw [builders]
      exact id

/-- Any number of steps keep the invariant. -/
theorem Composed.sound {w : Workspace} (h : w.Composed) : w.Sound := by
  induction h with
  | start none =>
      intro n s e
      rw [none] at e
      cases e
  | step _ step ih => exact step.sound ih

end Workspace

end GraphQuery
