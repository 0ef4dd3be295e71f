import GraphQuery.Proofs.Builder.NamingCalls

/-! # What refused calls leave behind

A call that adds a clause binds its value first and checks the clause afterwards, and nothing is taken
back when the check fails.

* `Builder.Refused` : what a call leaves that adds one clause: the query as it was, and one entry more
  in the table at most, and none if the error is a mistake in the arguments;
* `Build.BindsAtMost` : how many values a map of columns binds, whether it fails or not;
* `Call.refused_leaves` : the same for all calls with values as arguments, maps of columns included. -/

namespace GraphQuery

open GraphQuery.Binding GraphQuery.Schema Exec

/-- A mistake in the arguments of a builder call, or in a query that has no text. -/
def Error.isMistake : Error → Bool
  | .builder _ | .render _ => true
  | _ => false

/-- The builder with a value bound under the first free name from a base. -/
def Builder.binding (b : Builder) (base : String) (v : Value) (bucket : Bucket) : Builder :=
  { b with table := (b.table.bind base v bucket).2 }

/-- What a refused call leaves that adds one clause: the query as it was, and the table as it was or with
one entry more. -/
structure Builder.Refused (b : Builder) (bucket : Bucket) (e : Error) (b' : Builder) : Prop where
  query : b'.query = b.query
  number : b'.tableNumber = b.tableNumber
  table : b'.table = b.table ∨
    e.isMistake = false ∧ ∃ entry, b.table.Extends bucket [entry] b'.table

namespace Build

variable {α β : Type} {b : Builder}

/-- A step that leaves the builder alone when it fails, and fails without a mistake in the arguments. -/
def Checks (step : Build α) : Prop :=
  ∀ b, step.Fails b fun e b' => e.isMistake = false ∧ b' = b

namespace Checks

theorem noAttribute (v : Value) (name : String) : (Error.noAttribute v name).isMistake = false := by
  unfold Error.noAttribute
  split <;> rfl

theorem ask (part : QueryPart) (name : String) : Checks (Build.ask part name) := by
  intro b e b' failed
  have same : (b.query.ask part name, b) = (.error e, b') := failed
  obtain ⟨asked, rfl⟩ := Prod.mk.inj same
  unfold QueryOver.ask at asked
  split at asked
  · cases asked
  · obtain rfl := Except.error.inj asked
    exact ⟨noAttribute _ _, rfl⟩

theorem ofChecked (x : Checked α) : Checks (Exec.ofResult (Result.ofChecked x)) := by
  refine fun b => .ofResult fun e failed => ⟨?_, rfl⟩
  unfold Result.ofChecked at failed
  split at failed
  · cases failed
  · split at failed <;> cases failed <;> rfl

theorem normalizeOperator (operator : Value) :
    Checks (Exec.ofResult (GraphQuery.normalizeOperator operator)) := by
  refine fun b => .ofResult fun e failed => ⟨?_, rfl⟩
  unfold GraphQuery.normalizeOperator at failed
  split at failed
  · dsimp only at failed
    split at failed
    · cases failed
    · split at failed <;> cases failed
      rfl
  · -- what is no text has no letters, or no way to look at them
    cases letters : hasSmallLetters operator with
    | ok u =>
      rw [letters] at failed
      obtain rfl := Except.error.inj failed
      exact noAttribute _ _
    | error f =>
      rw [letters] at failed
      obtain rfl : f = e := Except.error.inj failed
      unfold hasSmallLetters at letters
      split at letters <;> cases letters
      · rfl
      · exact noAttribute _ _

theorem change (f : Query → Query) : Checks (Build.change f) := fun _ _ _ failed => by cases failed

/-- What only looks at the builder can come before what checks. -/
theorem after_ask {part : QueryPart} {name : String} {next : Unit → Build α}
    (h : ∀ a, Checks (next a)) : Checks (Build.ask part name >>= next) := fun b =>
  .bind (ask part name b) (ask_ends (h () b) trivial)

theorem after_result {r : Result β} (first : Checks (Exec.ofResult r)) {next : β → Build α}
    (h : ∀ a, Checks (next a)) : Checks (Exec.ofResult r >>= next) := fun b =>
  .bind (first b) (.ofResult (fun a _ => h a b) trivial)

theorem addChecked (p : Checked Predicate) : Checks (Build.addChecked p) := by
  unfold Build.addChecked addPredicate needList
  exact after_ask fun _ => after_result (ofChecked p) fun _ => after_ask fun _ => change _

theorem addPattern (p : Checked Pattern) : Checks (Build.addPattern p) := by
  unfold Build.addPattern needList
  exact after_ask fun _ => after_result (ofChecked p) fun _ => change _

end Checks

/-! ### Calls that add one clause -/

variable {bucket : Bucket} {e : Error}

theorem refused_start (b : Builder) (bucket : Bucket) (e : Error) (used : Remains) :
    b.Refused bucket e { b with used } := ⟨rfl, rfl, Or.inl rfl⟩

theorem refused_binding (mistaken : e.isMistake = false) (base : String) (v : Value) (used : Remains) :
    b.Refused bucket e (Builder.binding { b with used } base v bucket) :=
  ⟨rfl, rfl, Or.inr ⟨mistaken, _, .bind b.table base v bucket⟩⟩

theorem Checks.refused {step : Build α} (h : Checks step) (base : String) (v : Value) (used : Remains) :
    step.Fails (Builder.binding { b with used } base v bucket) (b.Refused bucket) :=
  (h _).imp fun _ _ checked => checked.2 ▸ refused_binding checked.1 base v used

theorem Checks.refused_unbound {step : Build α} (h : Checks step) (used : Remains) :
    step.Fails { b with used } (b.Refused bucket) :=
  (h _).imp fun e _ checked => checked.2 ▸ refused_start b bucket e used

theorem bind_enters {base : String} {v : Value} {good : String → Builder → Prop} {bad : Builder → Prop}
    (ok : good (b.table.uniqueName base []) (b.binding base v bucket)) (error : bad b) :
    (Build.bind base v bucket).Ends b good bad := by
  unfold Build.bind
  refine .bind (ask_ends ?_ error)
  exact .of_outcome (outcome_ofOutcome _ b) (fun n same => Except.ok.inj same ▸ ok) nofun

theorem bindValue_enters {c : ColumnRef} {v : Value} {good : String → Builder → Prop}
    {bad : Builder → Prop}
    (ok : good (b.table.uniqueName (bindingBase c) []) (b.binding (bindingBase c) v bucket))
    (error : bad b) : (bindValue c v bucket).Ends b good bad := by
  unfold bindValue
  refine .bind (ask_ends ?_ error)
  split
  · exact .bind (ask_ends (bind_enters ok error) error)
  · exact bind_enters ok error

theorem bindColumn_enters {c : ColumnRef} {v : Value} {good : String → Builder → Prop}
    {bad : Builder → Prop}
    (ok : ∀ x, good (b.table.uniqueName (bindingBase c) []) (b.binding (bindingBase c) x bucket))
    (error : bad b) : (bindColumn c v bucket).Ends b good bad := by
  unfold bindColumn
  exact .bind (.ofResult (fun x _ => bindValue_enters (ok x) error) error)

theorem isNull_refused (column : Operand) (joined negated : Value) :
    (isNull column joined negated).Fails b (b.Refused bucket) := by
  have start (e : Error) : b.Refused bucket e b := refused_start b bucket e b.used
  unfold isNull
  refine .after (needList_ends (.after (resolveOperand_ends (fun c => ?_) start)) start)
  exact (Checks.addChecked _).refused_unbound b.used

theorem compare_refused (column operator : Operand) (v joined : Value) :
    (compare column operator v joined).Fails b (b.Refused .filter) := by
  have start (e : Error) : b.Refused .filter e b := refused_start b .filter e b.used
  unfold compare needList
  refine .after (resolveOperand_ends (fun c => .after (bindColumn_enters (fun x => ?_) start)) start)
  exact Checks.refused (.after_ask fun _ => .after_result (.normalizeOperator _) fun _ => .addChecked _)
    _ x b.used

theorem compareOperand_refused (column operator : Operand) (v joined : Value) :
    (compareOperand column operator (.value v) joined).Fails b (b.Refused .filter) := by
  cases v with
  | null => exact isNull_refused column joined _
  | _ => exact compare_refused column operator _ joined

theorem among_refused (column : Operand) (values joined negated : Value) :
    (among column (.value values) joined negated).Fails b (b.Refused .filter) := by
  have start (used : Remains) (e : Error) : b.Refused .filter e { b with used } :=
    refused_start b .filter e used
  unfold among
  refine .after (.discard (.ofResult (fun _ _ => ?_) (start b.used)))
  refine .after (resolveOperand_ends (fun c => .after (useUp_ends ?_)) (start b.used))
  refine .after (.ofResult (fun given _ => ?_) (start _))
  refine .after (.ofResult (fun values _ => .after (bindValue_enters ?_ (start _))) (start _))
  exact (Checks.addChecked _).refused _ _ _

theorem between_refused (column : Operand) (values joined negated : Value) :
    (between column values joined negated).Fails b (b.Refused .filter) := by
  have start (used : Remains) (e : Error) : b.Refused .filter e { b with used } :=
    refused_start b .filter e used
  unfold between
  refine .after (useUp_ends (.after (.ofResult (fun given _ => ?_) (start _))))
  have rest : (do
      let c ← resolveOperand column
      let values ← Exec.ofResult (valuesFor c given)
      let binding ← bindValue c (.ofList values) .filter
      addChecked (((joint joined).and (negation negated)).map fun p : Connective × Bool =>
        .between p.1 c binding p.2)).Fails
        { b with used := (b.used.useUp values).2 } (b.Refused .filter) := by
    refine .after (resolveOperand_ends (fun c => ?_) (start _))
    refine .after (.ofResult (fun values _ => .after (bindValue_enters ?_ (start _))) (start _))
    exact (Checks.addChecked _).refused _ _ _
  split
  · exact .after (.fail (start _))
  · exact rest

theorem addHaving_refused (column operator v joined : Value) :
    (addHaving column operator v joined).Fails b (b.Refused .having) := by
  have start (e : Error) : b.Refused .having e b := refused_start b .having e b.used
  unfold addHaving needList
  refine .after (ask_ends (.after (.ofResult (fun name _ => ?_) start)) start)
  refine .after (bind_enters ?_ start)
  exact Checks.refused (.after_ask fun _ => .after_result (.normalizeOperator _) fun _ =>
    .after_result (.ofChecked _) fun _ => .change _) _ v b.used

/-- A parent is constrained by one value at most. -/
theorem constrain_enters {parent : String} {property value : Value} {good : Option String → Builder → Prop}
    {bad : Builder → Prop} (none : good none b)
    (bound : ∀ base x, good (some (b.table.uniqueName base [])) (b.binding base x .pattern))
    (error : bad b) : (constrain parent property value).Ends b good bad := by
  unfold constrain
  split
  · exact .of_pure none
  · exact .of_pure none
  · split
    · refine .bind (ask_ends (.bind (ask_ends (.bind (.ofResult (fun n _ => ?_) error)) error)) error)
      rw [← bind_pure_comp]
      exact .bind (bind_enters (.of_pure (bound _ _)) error)
    · rw [← bind_pure_comp]
      exact .bind (bind_enters (.of_pure (bound _ _)) error)
  · exact .bind (ask_ends (.fail error) error)

theorem addConstrained_refused {parent : String} {property value : Value}
    {pattern : Option String → Checked Pattern} (used : Remains) :
    ((constrain parent property value) >>= fun binding => addPattern (pattern binding)).Fails
      { b with used } (b.Refused .pattern) :=
  .after (constrain_enters ((Checks.addPattern _).refused_unbound used)
    (fun base x => (Checks.addPattern _).refused base x used) fun e => refused_start b .pattern e used)

theorem relation_refused (parent related placeholder relationship property value direction
    boolean : Value) : (relation parent related placeholder relationship property value direction
      boolean).Fails b (b.Refused .pattern) := by
  have start (used : Remains) (e : Error) : b.Refused .pattern e { b with used } :=
    refused_start b .pattern e used
  unfold relation
  refine .after (parentNode_ends (fun node used => ?_) start)
  refine .after (needList_ends (.after (readLabels_ends (fun labels used => ?_) start)) (start used))
  refine .after (.ofResult (fun far _ => .after (.ofResult (fun isOptional _ => ?_) (start used)))
    (start used))
  dsimp only
  exact addConstrained_refused used

theorem anyRelation_refused (parent placeholder property value direction boolean relationship : Value) :
    (anyRelation parent placeholder property value direction boolean relationship).Fails b
      (b.Refused .pattern) := by
  have start (used : Remains) (e : Error) : b.Refused .pattern e { b with used } :=
    refused_start b .pattern e used
  unfold anyRelation
  refine .after (parentNode_ends (fun node used => ?_) start)
  refine .after (needList_ends (.after (.ofResult (fun isOptional _ => ?_) (start used))) (start used))
  dsimp only
  exact addConstrained_refused used

/-! ### Maps of columns -/

end Build

/-- The table of the builder with a number of entries more at most, all for predicates. -/
structure Builder.Holds (b : Builder) (most : Nat) (b' : Builder) : Prop where
  number : b'.tableNumber = b.tableNumber
  table : ∃ es, es.length ≤ most ∧ b.table.Extends .filter es b'.table

namespace Builder.Holds

variable {b c d : Builder} {m n : Nat}

theorem refl (b : Builder) : b.Holds 0 b := ⟨rfl, [], Nat.le_refl 0, .refl _ _⟩

theorem trans (h : b.Holds m c) (h' : c.Holds n d) : b.Holds (m + n) d := by
  obtain ⟨es, few, wide⟩ := h.table
  obtain ⟨fs, few', wide'⟩ := h'.table
  refine ⟨h'.number.trans h.number, es ++ fs, ?_, wide.trans wide'⟩
  rw [List.length_append]
  exact Nat.add_le_add few few'

theorem mono (h : b.Holds m c) (more : m ≤ n) : b.Holds n c :=
  ⟨h.number, h.table.imp fun _ held => ⟨Nat.le_trans held.1 more, held.2⟩⟩

end Builder.Holds

namespace Build

/-- A step that binds a number of values at most, for predicates, whether it fails or not. -/
def BindsAtMost (most : Nat) (step : Build Unit) : Prop :=
  ∀ b, step.Ends b (fun _ b' => b.Holds most b') (b.Holds most)

theorem addChecked_holds {b : Builder} {m : Nat} (p : Checked Predicate) :
    (addChecked p).Maintains (b.Holds m) := by
  have asks (part : QueryPart) (name : String) : (ask part name).Maintains (b.Holds m) := fun _ => id
  unfold addChecked addPredicate needList
  exact .bind (asks _ _) fun _ => .bind (.ofResult _) fun _ => .bind (asks _ _) fun _ =>
    .of_modify fun _ held => ⟨held.number, held.table⟩

theorem isNull_bindsAtMost (column : Operand) (joined negated : Value) :
    BindsAtMost 0 (isNull column joined negated) := by
  intro b
  unfold isNull
  refine .bind (needList_ends (.bind (resolveOperand_ends (fun c => ?_) (.refl b))) (.refl b))
  exact (addChecked_holds _).ends (.refl b)

theorem compare_bindsAtMost (column operator : Operand) (v joined : Value) :
    BindsAtMost 1 (compare column operator v joined) := by
  intro b
  have start : b.Holds 1 b := (Builder.Holds.refl b).mono (Nat.zero_le 1)
  unfold compare
  refine .bind (resolveOperand_ends (fun c => .bind (bindColumn_enters (fun x => ?_) start)) start)
  have bound : b.Holds 1 (b.binding (bindingBase c) x .filter) :=
    ⟨rfl, [_], Nat.le_refl 1, .bind b.table (bindingBase c) x .filter⟩
  refine .bind (needList_ends (.bind (.ofResult (fun name _ => ?_) bound)) bound)
  exact (addChecked_holds _).ends bound

theorem BindsAtMost.mono {m n : Nat} {step : Build Unit} (h : BindsAtMost m step) (more : m ≤ n) :
    BindsAtMost n step := fun b =>
  (h b).imp (fun _ _ held => held.mono more) fun _ held => held.mono more

theorem BindsAtMost.then {m n : Nat} {first second : Build Unit} (h : BindsAtMost m first)
    (h' : BindsAtMost n second) : BindsAtMost (m + n) (first >>= fun _ => second) := fun b =>
  .bind ((h b).imp (fun _ c held => (h' c).imp (fun _ _ => held.trans) fun _ => held.trans)
    fun _ held => held.mono (Nat.le_add_right m n))

/-- An entry of a map binds one value at most, none if it is null. -/
theorem compareOperand_bindsAtMost (column operator : Operand) (v joined : Value) :
    BindsAtMost 1 (compareOperand column operator (.value v) joined) := by
  cases v with
  | null => exact (isNull_bindsAtMost column joined _).mono (Nat.zero_le 1)
  | _ => exact compare_bindsAtMost column operator _ joined

theorem compareColumns_bindsAtMost :
    ∀ entries : List (Value × Value), BindsAtMost entries.length (compareColumns entries)
  | [] => fun b => .of_pure (.refl b)
  | (key, v) :: rest => by
    have both := (compareOperand_bindsAtMost (.value key) equality v (.text "and")).then
      (compareColumns_bindsAtMost rest)
    rw [List.length_cons, Nat.add_comm]
    exact both

/-- A callback on another query leaves the query as it is, and the table with what it has bound, unless
it has a table of its own. -/
theorem onQuery_leaves {start : Query} {body : Build Unit} {m : Nat} (h : BindsAtMost m body)
    (b : Builder) : (onQuery start body).Ends b (fun _ b' => b'.query = b.query ∧ b.Holds m b')
      fun b' => b'.query = b.query ∧ b.Holds m b' := by
  let isApart := (b.query.standIn? .bindings).any (·.isNull)
  let inner : Builder :=
    { b with query := start, table := if isApart then BindingTable.empty else b.table }
  have ran : inner.Holds m (body.outcome inner).2 := (h inner).after
  have held : b.Holds m { b with
      table := if isApart then b.table else (body.outcome inner).2.table
      used := (body.outcome inner).2.used } := by
    cases apart : isApart with
    | true => exact ⟨rfl, [], Nat.zero_le m, .refl _ _⟩
    | false =>
      have shared : inner.table = b.table := by
        show (if isApart then BindingTable.empty else b.table) = b.table
        rw [apart]
        rfl
      obtain ⟨es, few, wide⟩ := ran.table
      exact ⟨rfl, es, few, shared ▸ wide⟩
  exact .of_outcome (outcome_ofOutcome _ b) (fun _ _ => ⟨rfl, held⟩) fun _ _ => ⟨rfl, held⟩

theorem nest_holds {b : Builder} {m : Nat} (wheres : List Predicate) (joined : Value) :
    (nest wheres joined).Maintains (b.Holds m) := by
  unfold nest
  exact .ite (fun _ => .of_pure _) fun _ => addChecked_holds _

theorem BindsAtMost.group {m : Nat} {body : Build Unit} (h : BindsAtMost m body) (joined : Value) :
    BindsAtMost m (group body joined) := by
  intro b
  have start : b.Holds m b := (Builder.Holds.refl b).mono (Nat.zero_le m)
  unfold Build.group
  refine .bind (withQuery_ends (fun start _ => .bind ?_) start)
  refine (onQuery_leaves h b).imp (fun inner b' left => ?_) fun _ left => left.2
  exact (nest_holds _ joined).ends left.2

/-- The query is only changed when a whole group has been built. -/
theorem group_refused {m : Nat} {body : Build Unit} (h : BindsAtMost m body) (joined : Value)
    (b : Builder) : (Build.group body joined).Fails b fun _ b' => b'.query = b.query ∧ b.Holds m b' := by
  unfold Build.group
  have start : b.query = b.query ∧ b.Holds m b := ⟨rfl, (Builder.Holds.refl b).mono (Nat.zero_le m)⟩
  refine .after (withQuery_ends (fun first _ => ?_) fun _ => start)
  refine .after ((onQuery_leaves h b).imp (fun inner b' left => ?_) fun _ left _ => left)
  unfold nest
  split
  · exact fun _ _ failed => by cases failed
  · exact (Checks.addChecked _ b').imp fun _ _ checked => checked.2 ▸ left

/-- How many values the entries of a map can bind: one each, or one for each entry of a key that stands
for several columns. -/
def mostBound : List (Value × Value) → Nat
  | [] => 0
  | e :: rest => (e.1.entries?.map List.length).getD 1 + mostBound rest

theorem compareEntries_bindsAtMost :
    ∀ entries : List (Value × Value), BindsAtMost (mostBound entries) (compareEntries entries)
  | [] => fun b => .of_pure (.refl b)
  | (key, v) :: rest => by
    have others := compareEntries_bindsAtMost rest
    show BindsAtMost ((key.entries?.map List.length).getD 1 + mostBound rest) _
    unfold compareEntries
    cases key.entries? with
    | some columns => exact ((compareColumns_bindsAtMost columns).group _).then others
    | none => exact (compareOperand_bindsAtMost _ _ _ _).then others

end Build

/-! ### Calls -/

namespace Build

theorem comparison_values {operator value : Option Operand} (compared : ∀ o ∈ operator, ∃ v, o = .value v)
    (given : ∀ o ∈ value, ∃ v, o = .value v) {p : Operand × Operand}
    (read : comparison operator value = .ok p) : (∃ v, p.1 = .value v) ∧ ∃ v, p.2 = .value v := by
  unfold comparison at read
  split at read
  · cases read
  · obtain rfl := Except.ok.inj read
    exact ⟨⟨_, rfl⟩, compared _ rfl⟩
  · dsimp only at read
    split at read
    · cases read
    · obtain rfl := Except.ok.inj read
      refine ⟨?_, given _ rfl⟩
      cases operator with
      | none => exact ⟨_, rfl⟩
      | some o => exact compared o rfl

theorem filter_refused {column : Value} {operator value : Option Operand} (joined : Value)
    (compared : ∀ o ∈ operator, ∃ v, o = .value v) (given : ∀ o ∈ value, ∃ v, o = .value v)
    (single : (Operand.isMembership operator && value.isSome) = true ∨ column.entries? = none)
    (b : Builder) : (filter (.value column) operator value joined).Fails b (b.Refused .filter) := by
  cases member : Operand.isMembership operator && value.isSome with
  | true =>
    obtain ⟨isWord, isGiven⟩ := Bool.and_eq_true_iff.mp member
    obtain ⟨values, rfl⟩ := Option.isSome_iff_exists.mp isGiven
    obtain ⟨v, rfl⟩ := given values rfl
    rw [filter_member _ _ isWord]
    exact among_refused _ v joined _
  | false =>
    have column : Operand.entries? (.value column) = none := single.resolve_left (by rw [member]; decide)
    rw [filter_column joined member column nofun]
    refine .after (.ofResult (fun p read => ?_) fun e => refused_start b .filter e b.used)
    obtain ⟨⟨o, sign⟩, v, operand⟩ := comparison_values compared given read
    rw [sign, operand]
    split
    · exact compareOperand_refused _ _ v joined
    · exact compareOperand_refused _ _ o joined

end Build

namespace Call

/-- Whether a call adds predicates, a condition on groups or a pattern, from values alone. -/
def AddsFromValues : Call → Prop
  | .filter column operator value _ =>
    column.IsValue ∧ (∀ a ∈ operator, a.IsValue) ∧ ∀ a ∈ value, a.IsValue
  | .among column values _ _ => column.IsValue ∧ values.IsValue
  | .between column _ _ _ => column.IsValue
  | .having _ operator value _ => (∀ a ∈ operator, a.IsValue) ∧ ∀ a ∈ value, a.IsValue
  | .relation .. | .anyRelation .. => True
  | _ => False

/-- The bucket that the values of a call are bound in. -/
def bucket : Call → Bucket
  | .having .. => .having
  | .relation .. | .anyRelation .. => .pattern
  | _ => .filter

/-- The map of columns that a call adds equalities for. -/
def columnMap? : Call → Option (List (Value × Value))
  | .filter column operator value _ =>
    if (Operand.isMembership (operand? operator) && (operand? value).isSome) = true then none
    else column.operand.entries?
  | _ => none

/-- What is left when a call is refused that adds clauses from values: the query as it was, and the table
with entries at the end of the bucket of the call, under names that were free.  There is one at most for
each entry of a map of columns, and one at most for a single clause; there is none then if the error is a
mistake in the arguments. -/
theorem refused_leaves {c : Call} (fromValues : c.AddsFromValues) {b b' : Builder} {e : Error}
    (failed : c.run.outcome b = (.error e, b')) :
    b'.query = b.query ∧ b'.tableNumber = b.tableNumber ∧
      ∃ es, b.table.Extends c.bucket es b'.table ∧ match c.columnMap? with
        | some entries => es.length ≤ Build.mostBound entries
        | none => es.length ≤ 1 ∧ (e.isMistake = true → es = []) := by
  have single {bucket : Bucket} (h : b.Refused bucket e b') : b'.query = b.query ∧
      b'.tableNumber = b.tableNumber ∧ ∃ es, b.table.Extends bucket es b'.table ∧
        es.length ≤ 1 ∧ (e.isMistake = true → es = []) := by
    refine ⟨h.query, h.number, ?_⟩
    rcases h.table with same | ⟨mistaken, entry, wide⟩
    · exact ⟨[], same ▸ .refl _ _, Nat.zero_le 1, fun _ => rfl⟩
    · exact ⟨[entry], wide, Nat.le_refl 1, fun mistake => by rw [mistaken] at mistake; cases mistake⟩
  cases c with
  | filter column operator value joint =>
    obtain ⟨⟨column, rfl⟩, compared, given⟩ := fromValues
    have compared := Build.values_operand compared
    have given := Build.values_operand given
    cases map : (Call.filter (.value column) operator value joint).columnMap? with
    | none =>
      unfold columnMap? at map
      dsimp only at map
      split at map
      · exact single (Build.filter_refused joint compared given (Or.inl ‹_›) b e b' failed)
      · exact single (Build.filter_refused joint compared given (Or.inr map) b e b' failed)
    | some entries =>
      unfold columnMap? at map
      dsimp only at map
      split at map
      · cases map
      · have grouped : Build.filter (.value column) (operand? operator) (operand? value) joint =
            Build.group (Build.compareEntries entries) joint :=
          Build.filter_entries joint (Bool.eq_false_iff.mpr ‹_›) map
        have left := Build.group_refused (Build.compareEntries_bindsAtMost entries) joint b e b'
          (grouped ▸ failed)
        exact ⟨left.1, left.2.number, left.2.table.imp fun es held => ⟨held.2, held.1⟩⟩
  | among column values joint negated =>
    obtain ⟨-, values, rfl⟩ := fromValues
    exact single (Build.among_refused _ values joint negated e b' failed)
  | between column values joint negated =>
    exact single (Build.between_refused _ values joint negated e b' failed)
  | having column operator value joint =>
    refine single (Fails.after (.ofResult (fun p _ => ?_) fun e => ?_) e b' failed)
    · exact Build.addHaving_refused column p.1.toValue p.2.toValue joint
    · exact Build.refused_start b .having e b.used
  | relation parent related placeholder relationship property value direction boolean =>
    exact single (Build.relation_refused _ _ _ _ _ _ _ _ e b' failed)
  | anyRelation parent placeholder property value direction boolean relationship =>
    exact single (Build.anyRelation_refused _ _ _ _ _ _ _ e b' failed)
  | _ => exact fromValues.elim

/-- A map whose second entry is refused: its first entry stays bound, although the error is a mistake in
the arguments. -/
theorem refused_leaves_map :
    let b := ((runAll [.target (.text "User")]).outcome ⟨.empty, .empty, 1, []⟩).2
    let c := Call.filter (.value (.ofPairs [(.text "name", .text "Ann"), (.text "id", .text "x")]))
      none none andName
    c.AddsFromValues ∧ ∃ e b', c.run.outcome b = (.error e, b') ∧ e.isMistake = true ∧
      (b'.query = b.query ∧ b'.tableNumber = b.tableNumber ∧
        ∃ es, b.table.Extends c.bucket es b'.table ∧ match c.columnMap? with
          | some entries => es.length ≤ Build.mostBound entries
          | none => es.length ≤ 1 ∧ (e.isMistake = true → es = [])) ∧
      b'.table.filters.map (·.2.text?) = [some "Ann"] := by
  intro b c
  have values : c.AddsFromValues := ⟨⟨_, rfl⟩, nofun, nofun⟩
  have mistaken : (c.run.outcome b).1.mapError Error.isMistake = .error true := by decide +kernel
  cases result : (c.run.outcome b).1 with
  | ok u =>
    rw [result] at mistaken
    cases mistaken
  | error e =>
    rw [result] at mistaken
    have failed : c.run.outcome b = (.error e, (c.run.outcome b).2) := Prod.ext result rfl
    exact ⟨values, e, _, failed, Except.error.inj mistaken, refused_leaves values failed,
      by decide +kernel⟩

/-- A comparison with a connective that there is none of: its value stays bound. -/
theorem refused_bound :
    let b := ((runAll [.target (.text "User")]).outcome ⟨.empty, .empty, 1, []⟩).2
    let c := Call.filter (.value (.text "age")) (some (.value (.text "="))) (some (.value (.int 5)))
      (.text "xor")
    c.AddsFromValues ∧ ∃ e b', c.run.outcome b = (.error e, b') ∧ e.kindName = "ValidationError" ∧
      b.table.filters = [] ∧ b'.table.filters = [(.text "age", .int 5)] ∧ b'.table ≠ b.table := by
  intro b c
  refine ⟨⟨⟨_, rfl⟩, fun _ found => ?_, fun _ found => ?_⟩, _, _, rfl, rfl, rfl, rfl, fun same => ?_⟩
  · exact ⟨_, (Option.some.inj found).symm⟩
  · exact ⟨_, (Option.some.inj found).symm⟩
  · cases congrArg BindingTable.filters same

end Call

end GraphQuery
