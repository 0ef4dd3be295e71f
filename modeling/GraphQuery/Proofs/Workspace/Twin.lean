import GraphQuery.Proofs.Execution.TwinUses
import GraphQuery.Workspace

/-! # Two runs that differ in values alone

`Workspace.Twin w w'` holds of two workspaces after the same steps from a common one, where the steps of
the two runs may have been given different values to compare with and different values to write, and
all of them have succeeded.  A step makes a builder, runs a call on a builder, or runs a statement for
one; a call may be given builders of its own workspace, whose bindings are taken in.

* `Workspace.Alike` is what such workspaces have in common: the queries of all builders, and the names
  in all tables.  Every step keeps it (`Workspace.Paired.inStep`), and so does a run (`Twin.alike`).
* `Workspace.Twin.same_texts` : no value has any influence on a statement, or on the names of bindings. -/

namespace GraphQuery

open GraphQuery.Binding GraphQuery.Cypher BindingTable Exec

namespace Workspace

/-- What a builder shows of itself: its query, and which table it uses. -/
def seen (s : BuilderSlot) : Query × Nat := (s.query, s.table)

/-- Two workspaces whose builders ask for the same, and whose tables have the same names. -/
structure Alike (w w' : Workspace) : Prop where
  builders : w.builders.map seen = w'.builders.map seen
  tableCount : w.tables.length = w'.tables.length
  tables : ∀ n, (w.table n).Alike (w'.table n)
  used : w.used = w'.used

/-! ### Builders of workspaces that are alike -/

namespace Alike

variable {w w' : Workspace}

theorem refl (w : Workspace) : w.Alike w := ⟨rfl, rfl, fun _ => .refl _, rfl⟩

theorem seen_slot (h : w.Alike w') (n : Nat) : seen (w.slot n) = seen (w'.slot n) := by
  have entry := congrArg (·[n]?) h.builders
  simp only [List.getElem?_map] at entry
  unfold slot
  cases e : w.builders[n]? <;> cases e' : w'.builders[n]? <;> rw [e, e'] at entry
  · cases entry
  · cases entry
  · exact Option.some.inj entry

theorem slot_query (h : w.Alike w') (n : Nat) : (w.slot n).query = (w'.slot n).query :=
  congrArg Prod.fst (h.seen_slot n)

theorem slot_table (h : w.Alike w') (n : Nat) : (w.slot n).table = (w'.slot n).table :=
  congrArg Prod.snd (h.seen_slot n)

theorem storedQuery?_eq (h : w.Alike w') : w.storedQuery? = w'.storedQuery? := by
  funext n
  have entry := congrArg (·[n]?) h.builders
  simp only [List.getElem?_map] at entry
  unfold storedQuery?
  have first := congrArg (Option.map Prod.fst) entry
  rwa [Option.map_map, Option.map_map] at first

theorem query_eq (h : w.Alike w') (n : Nat) : w.query n = w'.query n := by
  have count : w.builders.length = w'.builders.length := by
    simpa using congrArg List.length h.builders
  unfold query
  rw [h.storedQuery?_eq, count, h.slot_query]

theorem builder_alike (h : w.Alike w') (n : Nat) : (w.builder n).Alike (w'.builder n) := by
  refine ⟨h.query_eq n, ?_, h.slot_table n, h.used⟩
  show (w.table (w.slot n).table).Alike (w'.table (w'.slot n).table)
  rw [h.slot_table]
  exact h.tables _

theorem incoming_alike (h : w.Alike w') (n : Nat) : (w.incoming n).Alike (w'.incoming n) := by
  have builders := h.builder_alike n
  exact ⟨rfl, builders.number, builders.query, builders.table⟩

theorem live_alike (h : w.Alike w') (n : Nat) : (w.live n).Alike (w'.live n) :=
  ⟨h.builder_alike n, rfl⟩

/-! ### Changes -/

theorem tables_set (h : w.Alike w') (n : Nat) {t t' : BindingTable} (tables : t.Alike t') (k : Nat) :
    (((w.tables.set n t)[k]?).getD .empty).Alike (((w'.tables.set n t')[k]?).getD .empty) := by
  rw [List.getElem?_set, List.getElem?_set, h.tableCount]
  split
  · split
    · exact tables
    · exact .refl _
  · exact h.tables k

theorem setBuilder (h : w.Alike w') (n : Nat) {b b' : Builder} (next : b.Alike b') :
    (w.setBuilder n b).Alike (w'.setBuilder n b') := by
  refine ⟨?_, ?_, fun k => ?_, next.used⟩
  · show (w.builders.set n { w.slot n with query := b.query }).map seen =
      (w'.builders.set n { w'.slot n with query := b'.query }).map seen
    rw [List.map_set, List.map_set, h.builders]
    exact congrArg _ (Prod.ext next.query (h.slot_table n))
  · show (w.tables.set _ _).length = (w'.tables.set _ _).length
    rw [List.length_set, List.length_set, h.tableCount]
  · show (((w.tables.set (w.slot n).table b.table)[k]?).getD .empty).Alike
      (((w'.tables.set (w'.slot n).table b'.table)[k]?).getD .empty)
    rw [h.slot_table]
    exact h.tables_set _ next.table k

theorem addTable (h : w.Alike w') {t t' : BindingTable} (new : t.Alike t') :
    Alike { w with tables := w.tables ++ [t] } { w' with tables := w'.tables ++ [t'] } := by
  refine ⟨h.builders, ?_, fun k => ?_, h.used⟩
  · rw [List.length_append, List.length_append, h.tableCount]
    rfl
  · show (((w.tables ++ [t])[k]?).getD .empty).Alike (((w'.tables ++ [t'])[k]?).getD .empty)
    rw [List.getElem?_append, List.getElem?_append, h.tableCount]
    split
    · exact h.tables k
    · cases k - w'.tables.length with
      | zero => exact new
      | succ i => exact .refl _

theorem addBuilder (h : w.Alike w') {s s' : BuilderSlot} (new : seen s = seen s') :
    Alike { w with builders := w.builders ++ [s] } { w' with builders := w'.builders ++ [s'] } := by
  refine ⟨?_, h.tableCount, h.tables, h.used⟩
  rw [List.map_append, List.map_append, h.builders]
  exact congrArg (fun e => _ ++ [e]) new

/-- What the connection of a builder does leaves all builders as they are. -/
theorem setLive (h : w.Alike w') (n : Nat) {l l' : LiveQuery} (next : l.Alike l') :
    (w.setLive n l).Alike (w'.setLive n l') := by
  have parts (w : Workspace) (l : LiveQuery) :
      (w.setLive n l).builders = (w.setBuilder n l.builder).builders ∧
        (w.setLive n l).tables = (w.setBuilder n l.builder).tables ∧
          (w.setLive n l).used = (w.setBuilder n l.builder).used := by
    unfold Workspace.setLive
    dsimp only
    split <;> exact ⟨rfl, rfl, rfl⟩
  have kept := h.setBuilder n next.builder
  obtain ⟨builders, tables, used⟩ := parts w l
  obtain ⟨builders', tables', used'⟩ := parts w' l'
  refine ⟨?_, ?_, fun k => ?_, ?_⟩
  · rw [builders, builders', kept.builders]
  · rw [tables, tables', kept.tableCount]
  · unfold table
    rw [tables, tables']
    exact kept.tables k
  · rw [used, used', kept.used]

end Alike

/-! ### Steps -/

section steps

variable {α β : Type} {related : α → β → Prop}

/-- Two steps that keep workspaces alike. -/
abbrev KeepAlike (x : Exec Workspace α) (y : Exec Workspace β) : Prop :=
  InStep Alike (fun _ _ => True) x y

theorem within_builder {x : Build α} {y : Build β} (h : Build.Paired related x y) (n : Nat) :
    InStep Alike related (x.within (builderPart n)) (y.within (builderPart n)) :=
  .within (fun _ _ alike => alike.builder_alike n) (fun _ _ _ _ alike => alike.setBuilder n) h

theorem within_live {x : Exec LiveQuery α} {y : Exec LiveQuery β}
    (h : InStep LiveQuery.Alike related x y) (n : Nat) :
    InStep Alike related (x.within (livePart n)) (y.within (livePart n)) :=
  .within (fun _ _ alike => alike.live_alike n) (fun _ _ _ _ alike => alike.setLive n) h

theorem addTable_paired {t t' : BindingTable} (new : t.Alike t') :
    InStep Alike Eq (addTable t) (addTable t') :=
  .bind .of_get fun _ _ alike => .bind (.of_set (alike.addTable new)) fun _ _ _ => .of_pure alike.tableCount

/-- The builders, the tables, and what is left of streams. -/
def IsAt (builders : List BuilderSlot) (tables : List BindingTable) (used : Remains)
    (w : Workspace) : Prop := w.builders = builders ∧ w.tables = tables ∧ w.used = used

theorem Alike.elsewhere {w w' u u' : Workspace} (h : w.Alike w')
    (left : IsAt w.builders w.tables w.used u) (right : IsAt w'.builders w'.tables w'.used u') :
    u.Alike u' := by
  obtain ⟨builders, tables, used⟩ := left
  obtain ⟨builders', tables', used'⟩ := right
  refine ⟨?_, ?_, fun k => ?_, ?_⟩
  · rw [builders, builders', h.builders]
  · rw [tables, tables', h.tableCount]
  · unfold table
    rw [tables, tables']
    exact h.tables k
  · rw [used, used', h.used]

theorem keepAlike_of_maintains {x : Exec Workspace α} {y : Exec Workspace β}
    (hx : ∀ bs ts r, x.Maintains (IsAt bs ts r)) (hy : ∀ bs ts r, y.Maintains (IsAt bs ts r)) :
    KeepAlike x y := by
  intro w w' alike a u b u' ex ey
  have left := hx w.builders w.tables w.used w ⟨rfl, rfl, rfl⟩
  have right := hy w'.builders w'.tables w'.used w' ⟨rfl, rfl, rfl⟩
  rw [ex] at left
  rw [ey] at right
  exact ⟨trivial, alike.elsewhere left right⟩

theorem grammarFor_isAt (connection : Option Nat) (bs : List BuilderSlot) (ts : List BindingTable)
    (r : Remains) : (grammarFor connection).Maintains (IsAt bs ts r) := by
  cases connection with
  | some n => exact .bind .of_get fun _ => .of_pure _
  | none => exact fun _ h => h

theorem grammarOf_keepAlike (slot slot' : BuilderSlot) :
    KeepAlike (grammarOf slot) (grammarOf slot') := by
  have kept (slot : BuilderSlot) (bs : List BuilderSlot) (ts : List BindingTable) (r : Remains) :
      (grammarOf slot).Maintains (IsAt bs ts r) :=
    .ite (fun _ => grammarFor_isAt _ bs ts r) fun _ => .of_pure _
  exact keepAlike_of_maintains (kept slot) (kept slot')

theorem addBuilderOn_keepAlike {table grammar grammar' : Nat} {q : Query}
    {connection connection' : Option Nat} :
    KeepAlike (addBuilderOn table grammar q connection)
      (addBuilderOn table grammar' q connection') :=
  .bind .of_get fun _ _ alike => .bind (.of_set (alike.addBuilder rfl)) fun _ _ _ => .of_pure trivial

theorem newBuilder_keepAlike (n : Nat) : KeepAlike (newBuilder n) (newBuilder n) := by
  refine .bind .of_get fun w w' alike => .bind (addTable_paired (.refl _)) ?_
  rintro table _ rfl
  rw [alike.slot_query]
  exact (grammarOf_keepAlike _ _).bind fun _ _ _ => addBuilderOn_keepAlike

theorem addBeside_keepAlike (n : Nat) (q : Query) : KeepAlike (addBeside n q) (addBeside n q) := by
  refine .bind .of_get fun w w' alike => ?_
  dsimp only
  rw [alike.slot_query, alike.slot_table]
  refine .ite (fun _ => .bind (addTable_paired (.refl _)) ?_) fun _ => .bind (.of_pure (Eq.refl _)) ?_
  all_goals
    rintro table _ rfl
    exact (grammarOf_keepAlike _ _).bind fun _ _ _ => addBuilderOn_keepAlike

theorem subBuilder_keepAlike (n : Nat) : KeepAlike (subBuilder n) (subBuilder n) := by
  refine .bind .of_get fun w w' alike => ?_
  rw [alike.slot_query]
  exact addBeside_keepAlike n _

theorem groupBuilder_keepAlike (n : Nat) : KeepAlike (groupBuilder n) (groupBuilder n) := by
  refine .bind .of_get fun w w' alike => ?_
  rw [alike.slot_query]
  refine .bind (.same_result _) ?_
  rintro q _ rfl
  exact addBeside_keepAlike n q

theorem cloneBuilder_keepAlike (n : Nat) : KeepAlike (cloneBuilder n) (cloneBuilder n) := by
  refine .bind .of_get fun w w' alike => ?_
  dsimp only
  rw [alike.slot_query, alike.slot_table]
  refine .bind (.same_result _) ?_
  rintro q _ rfl
  refine .bind (.same_result _) ?_
  rintro columns _ rfl
  refine .bind (addTable_paired (alike.tables _)) ?_
  rintro table _ rfl
  exact (grammarOf_keepAlike _ _).bind fun _ _ _ => addBuilderOn_keepAlike

/-- The builder that a workspace makes for a query, with a table of its own. -/
def opened (w : Workspace) (q : Query) (connection : Option Nat) (grammar : Nat) : BuilderSlot :=
  ⟨match w.grammarInstead? connection with
    | some v => q.withStandIn .grammar (some v)
    | none => q, w.tables.length, connection, grammar, []⟩

theorem addBuilder_outcome (w : Workspace) (q : Query) (connection : Option Nat) :
    ∃ grammar grammars, ((Workspace.addBuilder q connection).outcome w).2 = { w with
      tables := w.tables ++ [.empty]
      grammars
      builders := w.builders ++ [w.opened q connection grammar] } := by
  cases connection <;> exact ⟨_, _, rfl⟩

end steps

/-! ### Runs -/

/-- One step of each of two runs: the same step, up to values. -/
inductive Paired (w w' : Workspace) : {α : Type} → Exec Workspace α → {β : Type} →
    Exec Workspace β → Prop
  /-- a new builder, where the same thing stands for the grammar of the connection -/
  | opened (connection : Option Nat)
    (same : w.grammarInstead? connection = w'.grammarInstead? connection) :
    Paired w w' (Workspace.addBuilder .empty connection) (Workspace.addBuilder .empty connection)
  /-- a builder like another one, with a table of its own -/
  | fresh (n : Nat) : Paired w w' (newBuilder n) (newBuilder n)
  /-- a builder for a sub-query, on the same table -/
  | beside (n : Nat) : Paired w w' (subBuilder n) (subBuilder n)
  /-- a builder for a group of predicates, on the same table -/
  | grouped (n : Nat) : Paired w w' (groupBuilder n) (groupBuilder n)
  /-- a copy of a builder -/
  | cloned (n : Nat) : Paired w w' (cloneBuilder n) (cloneBuilder n)
  /-- calls that differ in values alone, and which are given builders as they are now -/
  | called (n : Nat) {c c' : Call}
    (twin : c.Twin (fun q q' => ∃ m, q = w.incoming m ∧ q' = w'.incoming m) c') :
    Paired w w' (c.run.within (builderPart n)) (c'.run.within (builderPart n))
  /-- the predicates of one builder become a group of another one -/
  | nested (n m : Nat) (joint : Value) :
    Paired w w' ((Build.nest (w.query m).wheres joint).within (builderPart n))
      ((Build.nest (w'.query m).wheres joint).within (builderPart n))
  /-- values are bound under the same name without a clause -/
  | bound (n : Nat) (base : String) (v v' : Value) (bucket : Bucket) :
    Paired w w' ((Build.bind base v bucket).within (builderPart n))
      ((Build.bind base v' bucket).within (builderPart n))
  /-- statements that differ in values alone -/
  | ran (n : Nat) {u u' : Use} (twin : u.Twin u') :
    Paired w w' (u.run.within (livePart n)) (u'.run.within (livePart n))

/-- Two workspaces after the same steps, up to values, which have all succeeded. -/
inductive Twin : Workspace → Workspace → Prop
  | start (w : Workspace) : Twin w w
  | step {w w' u u' : Workspace} {α β : Type} {x : Exec Workspace α} {y : Exec Workspace β} {a : α}
    {b : β} : Twin w w' → Paired w w' x y → x.outcome w = (.ok a, u) → y.outcome w' = (.ok b, u') →
      Twin u u'
  /-- anything that happens to other parts of the workspaces -/
  | elsewhere {w w' u u' : Workspace} : Twin w w' → IsAt w.builders w.tables w.used u →
    IsAt w'.builders w'.tables w'.used u' → Twin u u'

theorem Twin.after {w w' : Workspace} {α β : Type} {x : Exec Workspace α} {y : Exec Workspace β}
    (h : Twin w w') (paired : Paired w w' x y) (accepted : (x.outcome w).1.isOk)
    (accepted' : (y.outcome w').1.isOk) : Twin (x.outcome w).2 (y.outcome w').2 := by
  cases ex : x.outcome w with
  | mk r u =>
    cases ey : y.outcome w' with
    | mk r' u' =>
      rw [ex] at accepted
      rw [ey] at accepted'
      cases r with
      | error e => cases accepted
      | ok a =>
        cases r' with
        | error e => cases accepted'
        | ok b => exact h.step paired ex ey

/-- A step keeps workspaces alike, whichever values it is given. -/
theorem Paired.alike {w w' u u' : Workspace} {α β : Type} {x : Exec Workspace α}
    {y : Exec Workspace β} (h : Paired w w' x y) (start : w.Alike w') {a : α} {b : β}
    (ex : x.outcome w = (.ok a, u)) (ey : y.outcome w' = (.ok b, u')) : u.Alike u' := by
  have after (kept : KeepAlike x y) : u.Alike u' := (kept w w' start a u b u' ex ey).2
  cases h with
  | opened connection same =>
      obtain ⟨g, grammars, left⟩ := addBuilder_outcome w .empty connection
      obtain ⟨g', grammars', right⟩ := addBuilder_outcome w' .empty connection
      rw [ex] at left
      rw [ey] at right
      rw [show u = _ from left, show u' = _ from right]
      have tables := start.addTable (.refl .empty)
      have new : seen (w.opened .empty connection g) = seen (w'.opened .empty connection g') := by
        refine Prod.ext ?_ start.tableCount
        simp only [seen, Workspace.opened, same]
      exact (tables.addBuilder new).elsewhere ⟨rfl, rfl, rfl⟩ ⟨rfl, rfl, rfl⟩
  | fresh n => exact after (newBuilder_keepAlike n)
  | beside n => exact after (subBuilder_keepAlike n)
  | grouped n => exact after (groupBuilder_keepAlike n)
  | cloned n => exact after (cloneBuilder_keepAlike n)
  | called n twin =>
      refine after (within_builder (twin.run ?_) n)
      rintro _ _ ⟨m, rfl, rfl⟩
      exact start.incoming_alike m
  | nested n m joint =>
      refine after (within_builder ?_ n)
      rw [start.query_eq]
      exact Build.nest_paired _ joint
  | bound n base v v' bucket =>
      exact after ((within_builder (Build.bind_paired base v v' bucket) n).imp fun _ _ _ => trivial)
  | ran n twin => exact after (within_live twin.run n)

/-- Workspaces are alike after runs that differ in values alone. -/
theorem Twin.alike {w w' : Workspace} (h : Twin w w') : w.Alike w' := by
  induction h with
  | start w => exact .refl w
  | step _ paired ex ey ih => exact paired.alike ih ex ey
  | elsewhere _ left right ih => exact ih.elsewhere left right

end Workspace

/-! ### Statements -/

/-- Two live queries have the same statements, and the same names of bindings. -/
structure LiveQuery.SameTexts (l l' : LiveQuery) : Prop where
  select : l.statement = l'.statement
  delete : deleteText l.query = deleteText l'.query
  insert : ∀ v v' : Value, v.TwinRecords v' → SameStatement (l.insertStatement v) (l'.insertStatement v')
  create : ∀ v v' : Value, v.Keyed v' → SameStatement (l.createStatement v) (l'.createStatement v')
  update : ∀ v v' : Value, v.Keyed v' → SameStatement (l.updateStatement v) (l'.updateStatement v')
  createWith : ∀ v v' related related' : Value, v.Keyed v' → related.TwinRequests related' →
    SameStatement (l.createWithStatement v related) (l'.createWithStatement v' related')
  names : ∀ b, (l.builder.table.bucket b).map Prod.fst = (l'.builder.table.bucket b).map Prod.fst

theorem LiveQuery.Alike.sameTexts {l l' : LiveQuery} (h : l.Alike l') : l.SameTexts l' where
  select := h.statement_eq
  delete := congrArg deleteText h.query_eq
  insert _ _ := h.insertStatement_same
  create _ _ := h.createStatement_same
  update _ _ := h.updateStatement_same
  createWith _ _ _ _ := h.createWithStatement_same
  names := h.builder.table

/-- After two runs that differ only in values which are compared with or written, every builder has the
same statements, whichever values are written, and the same names of bindings in the same buckets. -/
theorem Workspace.Twin.same_texts {w w' : Workspace} (h : Twin w w') (n : Nat) :
    (w.live n).SameTexts (w'.live n) := (h.alike.live_alike n).sameTexts

/-- Two builders on one connection, one of which takes the other one in.  One run compares an age with
30, looks for two of them, and inserts a text; the other run compares with a text that could be a part
of a query, looks for none, and inserts nothing but null. -/
theorem Workspace.Twin.same_texts_adopted : ∃ w w' : Workspace, Twin w w' ∧
    ((w.builder 0).table.filters.map fun e => e.2.text?) = [none, none] ∧
    ((w'.builder 0).table.filters.map fun e => e.2.text?) = [some "0 RETURN 1 //", none] ∧
    (w.live 0).statement.toOption = some ("MATCH (user:User) WHERE user.age > $age AND " ++
      "EXISTS \x7b MATCH (post:Post) WHERE post.age IN $age_2 RETURN post \x7d RETURN user") ∧
    (w.live 0).SameTexts (w'.live 0) := by
  have opened := ((Twin.start { Workspace.empty with
    engines := [.ofConfig .standard], configs := [.standard],
    connections := [⟨.new .standard, 0, 0, 0⟩] }).after (.opened (some 0) rfl) rfl rfl).after
      (.opened (some 0) rfl) rfl rfl
  have labelled := (opened.after (.called 0 (.same (.target (.text "User")) rfl)) (by decide +kernel)
    (by decide +kernel)).after (.called 1 (.same (.target (.text "Post")) rfl)) (by decide +kernel)
      (by decide +kernel)
  have ages : Value.Varies (.int 30) (.text "0 RETURN 1 //") := ⟨rfl, rfl, rfl⟩
  have compared := labelled.after (.called 0 (.filter (.text "and") (.value (.text "age"))
    (.some (.value (.text ">"))) (.other ages))) (by decide +kernel) (by decide +kernel)
  have lists : Value.Varies (.list [.int 5, .int 7] none) (.list [] none) := ⟨rfl, rfl, rfl⟩
  have chosen := compared.after (.called 1 (.among (.text "and") (.bool false) (.value (.text "age"))
    (.other lists))) (by decide +kernel) (by decide +kernel)
  have adopted := chosen.after (.called 0 (.present (.text "and") (.bool false)
    (.query ⟨1, rfl, rfl⟩))) (by decide +kernel) (by decide +kernel)
  have records : Value.Keyed (.map [(.text "name", .text "Ann")] none)
    (.map [(.text "name", .null)] none) := ⟨_, _, rfl, rfl, rfl⟩
  have inserted := adopted.after (.ran 0 (.insert (.one records))) (by decide +kernel)
    (by decide +kernel)
  exact ⟨_, _, inserted, by decide +kernel, by decide +kernel, by decide +kernel, inserted.same_texts 0⟩

end GraphQuery
