import GraphQuery.Builder.Call
import GraphQuery.Proofs.Builder.Nesting

/-! # The ledger of a call

`Call.ledger` says what a call compares with: for each clause that the call adds, or that a callback
among its arguments adds, the name that the clause holds and the value behind it. The name is read
off the clause, the value off the arguments of the call; for an identity it is the integer.

`Call.run_adds` proves that every value of the ledger is bound under its name, and that the ledger
has every parameter of the new clauses. -/

namespace GraphQuery

open GraphQuery.Binding BindingTable Builder

/-! ### Ledgers -/

/-- What a step adds, and then what follows it adds. -/
def noteStep (step : Build Unit) (note : Query → Ledger) (rest : Builder → Ledger) (b : Builder) :
    Ledger :=
  match step.outcome b with
  | (.ok _, after) => note after.query ++ rest after
  | (.error _, _) => []

/-- The entry of a comparison with a value. -/
def noteCompared (after : Query) (v : Value) : Ledger :=
  noteWhere (fun c => Build.valueFor c v) after

/-- What a map of columns adds: one comparison for each entry. -/
def ledgerOfColumns : List (Value × Value) → Builder → Ledger
  | [], _ => []
  | (key, v) :: rest, b =>
    noteStep (Build.compareOperand (.value key) Build.equality (.value v) (.text "and"))
      (fun after => noteCompared after v) (ledgerOfColumns rest) b

/-- What a map adds whose keys may be maps of columns themselves. -/
def ledgerOfEntries : List (Value × Value) → Builder → Ledger
  | [], _ => []
  | (key, v) :: rest, b =>
    match key.entries? with
    | some columns =>
      noteStep (Build.group (Build.compareColumns columns) (.text "and"))
        (fun _ => ledgerOfColumns columns (Build.groupBuilder b)) (ledgerOfEntries rest) b
    | none =>
      noteStep (Build.compareOperand (.value key) Build.equality (.value v) (.text "and"))
        (fun after => noteCompared after v) (ledgerOfEntries rest) b

/-- The part of an operator and a value that a column is compared with. A value without an operator
is compared with what stands for the operator. -/
def chosenOf {α : Type} (operator value : Option Argument) (ofOperator ofValue ofMissing : α)
    (none : α) : α :=
  match operator, value with
  | some o, some _ => if o.operand.isOperator then ofValue else ofOperator
  | some _, .none => ofOperator
  | .none, some _ => ofMissing
  | .none, .none => none

/-- Whether an argument is a callback. -/
def Argument.isBody : Argument → Bool
  | .body _ => true
  | _ => false

/-- The builder that a sub-query in the making starts from. -/
def subBuilder (b : Builder) : Builder := { b with query := Build.subStart b.query }

mutual
/-- What a call adds to a builder, given the query afterwards. Of the queries that were built on
their own it is known which values their names have. -/
def Call.ledger (known : Incoming → Ledger) (b : Builder) (after : Query) : Call → Ledger
  | .filter column operator value _ =>
    if Operand.isMembership (operand? operator) && value.isSome then
      ledger? known (subBuilder b)
        (fun v => noteWhere (Build.valuesOf membershipValues b v) after) (lastRows after) value
    else
      match column.operand.entries? with
      | some entries => ledgerOfEntries entries (Build.groupBuilder b)
      | none =>
        if column.isBody then column.ledger known (Build.groupBuilder b) (fun _ => []) none
        else chosenOf operator value
          (ledger? known (subBuilder b) (noteCompared after) (lastRows after) operator)
          (ledger? known (subBuilder b) (noteCompared after) (lastRows after) value)
          (noteCompared after Operand.missing.toValue) []
  | .group body _ => body.ledger known (Build.groupBuilder b) (fun _ => []) none
  | .compareRow _ _ query _ | .amongRows _ query _ _ | .present query _ _ =>
    query.ledger known (subBuilder b) (fun _ => []) (lastRows after)
  | .among _ values _ _ => values.ledger known (subBuilder b)
      (fun v => noteWhere (Build.valuesOf membershipValues b v) after) (lastRows after)
  | .between _ values _ _ => noteWhere (Build.valuesOf Build.boundsOf b values) after
  | .relation _ _ _ _ property value _ _ | .anyRelation _ _ property value _ _ _ =>
    notePattern property value after
  | .having _ operator value _ =>
    match Build.comparison (operand? operator) (operand? value) with
    | .ok (_, v) => noteHaving v.toValue after
    | .error _ => []
  | .union query _ => query.ledger known (subBuilder b) (fun _ => []) (Build.lastBranch after)
  | _ => []
/-- What an argument adds: a value as the call uses it, a query as the rows that were made of it,
and a callback what it adds to the builder that it starts from. -/
def Argument.ledger (known : Incoming → Ledger) (start : Builder) (single : Value → Ledger)
    (rows : Option SubQuery) : Argument → Ledger
  | .value v => single v
  | .callback number => single (callbackValue number)
  | .query q => rows.elim [] (noteRows (known q) q.query)
  | .body calls => ledgerOfAll known calls start
/-- What an argument adds that may be left out. -/
def ledger? (known : Incoming → Ledger) (start : Builder) (single : Value → Ledger)
    (rows : Option SubQuery) : Option Argument → Ledger
  | none => []
  | some a => a.ledger known start single rows
/-- What calls add one after another. -/
def ledgerOfAll (known : Incoming → Ledger) : List Call → Builder → Ledger
  | [], _ => []
  | c :: rest, b =>
    noteStep c.run (fun after => c.ledger known b after) (ledgerOfAll known rest) b
end

/-- The ledger of a call that stands alone. -/
theorem ledgerOfAll_single (known : Incoming → Ledger) (c : Call) (b : Builder) :
    ledgerOfAll known [c] b = match c.run.outcome b with
      | (.ok _, after) => c.ledger known b after.query
      | (.error _, _) => [] := by
  show noteStep c.run (fun after => c.ledger known b after) (fun _ => []) b = _
  unfold noteStep
  cases c.run.outcome b with
  | mk result after => cases result <;> simp only [List.append_nil]

/-! ### Calls that add clauses -/

mutual
/-- Whether a call adds its clauses by itself. A call that is handed clauses or bindings which were
made elsewhere, or an aggregate, does not. -/
def Call.isClause : Call → Bool
  | .filter column operator value _ =>
    column.isClause && areClauses? operator && areClauses? value
  | .group body _ => body.isClause
  | .compareRow _ _ query _ | .amongRows _ query _ _ | .present query _ _ | .union query _ =>
    query.isClause
  | .among _ values _ _ => values.isClause
  | .addBindings _ _ | .setAggregate _ | .addPredicate _ | .addPattern _ | .nest _ _ => false
  | _ => true
/-- Whether the calls of a callback do so. -/
def Argument.isClause : Argument → Bool
  | .body calls => areClauses calls
  | _ => true
/-- The same of an argument that may be left out. -/
def areClauses? : Option Argument → Bool
  | none => true
  | some a => a.isClause
/-- The same of every one of some calls. -/
def areClauses : List Call → Bool
  | [] => true
  | c :: rest => c.isClause && areClauses rest
end

mutual
/-- The queries that were built on their own, among the arguments of a call and of its callbacks. -/
def Call.queries : Call → List Incoming
  | .filter column operator value _ => column.queries ++ queries? operator ++ queries? value
  | .group body _ => body.queries
  | .compareRow _ _ query _ | .amongRows _ query _ _ | .present query _ _ | .union query _ =>
    query.queries
  | .among _ values _ _ => values.queries
  | _ => []
/-- The queries of an argument. -/
def Argument.queries : Argument → List Incoming
  | .query q => [q]
  | .body calls => queriesOfAll calls
  | _ => []
/-- The queries of an argument that may be left out. -/
def queries? : Option Argument → List Incoming
  | none => []
  | some a => a.queries
/-- The queries of calls. -/
def queriesOfAll : List Call → List Incoming
  | [] => []
  | c :: rest => c.queries ++ queriesOfAll rest
end

namespace Build

open Exec

variable {test : LinkTest} {known : Incoming → Ledger} {b : Builder}

/-- Something is known of each of some queries. -/
def AllKnown (test : LinkTest) (known : Incoming → Ledger) (b : Builder) (queries : List Incoming) : Prop :=
  ∀ q ∈ queries, Known test (known q) b q

theorem AllKnown.later {b b' : Builder} {queries : List Incoming} (h : AllKnown test known b queries)
    (r : b.Ready) (keeps : b.Keeps b') : AllKnown test known b' queries := fun q hq =>
  (h q hq).later r keeps.number keeps.grows

theorem noteStep_adds (r : b.Ready) {step next : Build Unit} {note : Query → Ledger}
    {rest : Builder → Ledger}
    (h : step.Ends b (fun _ b' => b.Adds test (note b'.query) b') (b.Adds test []))
    (h' : ∀ b', b.Keeps b' → next.Ends b' (fun _ => b'.Adds test (rest b')) b'.Keeps) :
    (step >>= fun _ => next).Ends b (fun _ => b.Adds test (noteStep step note rest b)) b.Keeps := by
  refine .bind ⟨fun u b' e => ?_, fun f b' e => (h.2 f b' e).keeps⟩
  have first := h.1 u b' e
  have entries : noteStep step note rest b = note b'.query ++ rest b' := by
    unfold noteStep
    rw [e]
  rw [entries]
  exact (h' b' first.keeps).imp (fun _ _ l => first.trans r l) fun _ k => first.keeps.trans k

/-! ### Maps of columns -/

theorem compareOperand_value_adds (column operator : Operand) (v joined : Value) :
    (compareOperand column operator (.value v) joined).Ends b
      (fun _ b' => b.Adds test (noteCompared b'.query v) b') (b.Adds test []) := by
  unfold compareOperand
  split
  · next e =>
    obtain rfl := Operand.value.inj e
    exact isNull_adds column joined _ fun _ _ _ => noteWhere_withWhere _ _ _
  · next e =>
    obtain rfl := Operand.value.inj e
    exact compare_adds column operator v joined
  · next other => exact absurd rfl (other v)

theorem compareColumns_adds : ∀ (columns : List (Value × Value)) {b : Builder}, b.Ready →
    (compareColumns columns).Ends b (fun _ => b.Adds test (ledgerOfColumns columns b)) b.Keeps
  | [], b, _ => .of_pure (.refl b)
  | _ :: rest, _, r =>
    noteStep_adds r (compareOperand_value_adds _ _ _ _) fun _ keeps =>
      compareColumns_adds rest (keeps.ready r)

theorem compareEntries_adds : ∀ (entries : List (Value × Value)) {b : Builder}, b.Ready →
    (compareEntries entries).Ends b (fun _ => b.Adds test (ledgerOfEntries entries b)) b.Keeps
  | [], b, _ => .of_pure (.refl b)
  | (key, v) :: rest, b, r => by
    unfold compareEntries ledgerOfEntries
    cases key.entries? with
    | some columns =>
        refine noteStep_adds r (group_adds r ?_ _) fun _ keeps =>
          compareEntries_adds rest (keeps.ready r)
        exact compareColumns_adds columns (groupBuilder_ready r)
    | none =>
        exact noteStep_adds r (compareOperand_value_adds _ _ _ _) fun _ keeps =>
          compareEntries_adds rest (keeps.ready r)

/-! ### Arguments -/

/-- What a callback among the arguments adds is in its ledger. -/
def Noted (test : LinkTest) (known : Incoming → Ledger) (a : Argument) : Prop :=
  ∀ start : Builder, start.Ready → AllKnown test known start a.queries → (callback a.operand).Ends start
    (fun _ => start.Adds test (a.ledger known start (fun _ => []) none)) start.Keeps

/-- What is no callback cannot be called, the class of texts apart, which changes nothing. -/
theorem callback_value_ends (v : Value) :
    (callback (.value v)).Ends b (fun _ => b.Adds test []) b.Keeps := by
  unfold callback
  split
  · next e => cases e
  · exact withQuery_ends (fun _ _ => .refl b) (.refl b)
  · exact .fail (.refl b)

theorem noted_value (v : Value) : Noted test known (.value v) := fun _ _ _ => callback_value_ends v

theorem noted_callback (number : Nat) : Noted test known (.callback number) := fun _ _ _ =>
  callback_value_ends _

theorem noted_query (q : Incoming) : Noted test known (.query q) := fun start _ _ => .fail (.refl start)

/-- What comes out of an argument as a sub-query is in its ledger. -/
theorem Noted.rows {a : Argument} (h : Noted test known a) (r : b.Ready)
    (all : AllKnown test known b a.queries) (single : Value → Ledger) (deferred : a.operand.isDeferred) :
    Rows test a.operand b fun s => a.ledger known (subBuilder b) single s := by
  cases a with
  | query q => exact adopt_tells r (all q (List.mem_singleton_self q))
  | body calls =>
      refine subQuery_tells r (fun q e => by cases e) (h (subBuilder b) (subStart_ready r) ?_)
      exact fun q hq => (all q hq).later r rfl (.refl _)
  | value v => cases deferred
  | callback number => cases deferred

/-- What comes out of an argument where a sub-query has to stand is in its ledger. -/
theorem Noted.all_rows {a : Argument} (h : Noted test known a) (r : b.Ready)
    (all : AllKnown test known b a.queries) :
    Rows test a.operand b fun s => a.ledger known (subBuilder b) (fun _ => []) s := by
  cases a with
  | query q => exact h.rows r all _ rfl
  | body calls => exact h.rows r all _ rfl
  | value v => exact subQuery_tells r (fun q e => by cases e) (callback_value_ends v)
  | callback number => exact subQuery_tells r (fun q e => by cases e) (callback_value_ends _)

theorem Noted.compareOperand {a : Argument} (h : Noted test known a) (r : b.Ready)
    (all : AllKnown test known b a.queries) (column operator : Operand) (joined : Value) :
    (compareOperand column operator a.operand joined).Ends b
      (fun _ b' => b.Adds test (a.ledger known (subBuilder b) (noteCompared b'.query)
        (lastRows b'.query)) b') (b.Adds test []) := by
  cases a with
  | value v => exact compareOperand_value_adds column operator v joined
  | callback number => exact compareOperand_value_adds column operator _ joined
  | query q => exact compareRow_adds (h.rows r all (fun _ => []) rfl) column _ joined
  | body calls => exact compareRow_adds (h.rows r all (fun _ => []) rfl) column _ joined

theorem Noted.among {a : Argument} (h : Noted test known a) (r : b.Ready)
    (all : AllKnown test known b a.queries) (column : Operand) (joined negated : Value) :
    (among column a.operand joined negated).Ends b
      (fun _ b' => b.Adds test (a.ledger known (subBuilder b)
        (fun v => noteWhere (valuesOf membershipValues b v) b'.query) (lastRows b'.query)) b')
      (b.Adds test []) := by
  cases a with
  | value v => exact among_adds column v joined negated
  | callback number => exact among_adds column _ joined negated
  | query q => exact amongRows_adds (h.rows r all (fun _ => []) rfl) column joined negated
  | body calls => exact amongRows_adds (h.rows r all (fun _ => []) rfl) column joined negated

/-! ### Calls without parameters -/

theorem ask_quiet (part : QueryPart) (name : String) : Quiet (ask part name) := by
  unfold ask
  exact .withQuery _

theorem needList_quiet (part : QueryPart) : Quiet (needList part) := ask_quiet part "append"

theorem target_quiet (v : Value) : Quiet (target v) := by
  have labelled : Quiet (readLabels v >>= fun labels =>
      change fun q => { q with labels := .tuple labels }) := by
    refine .bind (.bind (ask_quiet _ _) fun _ => .bind (.useUp v) fun _ => .ofResult _)
      fun labels => ?_
    exact .change (fun _ => rfl) (fun _ => rfl) fun _ => ⟨rfl, rfl⟩
  unfold target
  split
  · exact .bind (.change (fun _ => rfl) (fun _ => rfl) fun _ => ⟨rfl, rfl⟩) fun _ => labelled
  · exact labelled

theorem select_quiet (columns : List Value) : Quiet (select columns) := by
  unfold select
  exact .change (fun _ => rfl) (fun _ => rfl) fun _ => ⟨rfl, rfl⟩

theorem addSelect_quiet (columns : List Value) : Quiet (addSelect columns) :=
  .bind (.withQuery _) fun _ => .change (fun _ => rfl) (fun _ => rfl) fun _ => ⟨rfl, rfl⟩

theorem makeDistinct_quiet : Quiet makeDistinct :=
  .change (fun _ => rfl) (fun _ => rfl) fun _ => ⟨rfl, rfl⟩

theorem stage_quiet (parts : List Value) (named : List (String × Value)) :
    Quiet (stage parts named) := by
  unfold stage
  refine .bind .get fun b => ?_
  split
  · exact .change (fun _ => rfl) (fun _ => rfl) fun _ => ⟨rfl, rfl⟩
  · next standIn _ =>
    have each : ∀ all : List Value, Quiet (all.forM fun part => do
        if !(← Exec.ofResult (Result.ofFailure (standIn.holds part))) then needList .stages) := by
      intro all
      induction all with
      | nil => exact .of_pure _
      | cons part rest ih =>
          refine .bind (.bind (.ofResult _) fun found => ?_) fun _ => ih
          split
          · exact needList_quiet _
          · exact .of_pure _
    exact each _

theorem groupBy_quiet (columns : List Value) : Quiet (groupBy columns) :=
  .bind (.withQuery _) fun _ => .change (fun _ => rfl) (fun _ => rfl) fun _ => ⟨rfl, rfl⟩

theorem orderBy_quiet (column direction : Value) : Quiet (orderBy column direction) :=
  .bind (.ofResult _) fun _ => .bind (needList_quiet _) fun _ =>
    .change (fun _ => rfl) (fun _ => rfl) fun _ => ⟨rfl, rfl⟩

theorem limit_quiet (v : Value) : Quiet (limit v) :=
  .bind (.ofResult _) fun _ => .change (fun _ => rfl) (fun _ => rfl) fun _ => ⟨rfl, rfl⟩

theorem offset_quiet (v : Value) : Quiet (offset v) :=
  .bind (.ofResult _) fun _ => .change (fun _ => rfl) (fun _ => rfl) fun _ => ⟨rfl, rfl⟩

theorem page_quiet (number size : Value) : Quiet (page number size) :=
  .bind (.ofResult _) fun _ => .bind (offset_quiet _) fun _ => limit_quiet _

/-! ### Calls -/

/-- A comparison without a map or a group for a column, and without the word for membership. -/
theorem comparison_adds {operator value : Option Argument} (column : Operand) (joint : Value)
    (r : b.Ready) (ho : ∀ a ∈ operator, Noted test known a) (hv : ∀ a ∈ value, Noted test known a)
    (allOperator : AllKnown test known b (queries? operator))
    (allValue : AllKnown test known b (queries? value)) :
    (Exec.ofResult (comparison (operand? operator) (operand? value)) >>= fun p =>
      if p.1.isOperator then compareOperand column p.1 p.2 joint
      else compareOperand column equality p.1 joint).Ends b
      (fun _ b' => b.Adds test (chosenOf operator value
        (ledger? known (subBuilder b) (noteCompared b'.query) (lastRows b'.query) operator)
        (ledger? known (subBuilder b) (noteCompared b'.query) (lastRows b'.query) value)
        (noteCompared b'.query Operand.missing.toValue) []) b') (b.Adds test []) := by
  refine .bind (.ofResult (fun p e => ?_) (.refl b))
  cases operator with
  | none =>
      cases value with
      | none => cases e
      | some v =>
          have missing : comparison none (some v.operand) = .ok (Operand.missing, v.operand) := by
            unfold comparison
            exact if_neg (by simp [isIllegalPair, Operand.missing, Operand.isOperator, isOperator])
          obtain rfl := Except.ok.inj (missing.symm.trans e)
          rw [if_neg (show ¬Operand.missing.isOperator = true from Bool.false_ne_true)]
          exact compareOperand_value_adds column equality _ joint
  | some o =>
      have byOperator := (ho o rfl).compareOperand r allOperator column equality joint
      cases value with
      | none =>
          obtain rfl := Except.ok.inj e
          rw [if_pos (show equality.isOperator = true by decide)]
          exact byOperator
      | some v =>
          have byValue := (hv v rfl).compareOperand r allValue column o.operand joint
          have legal : p = (o.operand, v.operand) := by
            unfold comparison operand? at e
            dsimp only at e
            split at e
            · cases e
            · exact (Except.ok.inj e).symm
          subst legal
          unfold chosenOf
          dsimp only
          split
          · exact byValue
          · exact byOperator

section filter

variable {column : Operand} {operator value : Option Operand}

/-- The word for membership, with values. -/
theorem filter_member (values : Operand) (joint : Value)
    (h : Operand.isMembership operator = true) :
    filter column operator (some values) joint = Build.among column values joint (.bool false) := by
  unfold Build.filter
  rw [h]

/-- Without that word, or without values for it, the column says what kind of condition it is. -/
theorem filter_other (joint : Value) (h : (Operand.isMembership operator && value.isSome) = false) :
    filter column operator value joint = match column.entries?, column with
      | some entries, _ => group (compareEntries entries) joint
      | none, .body body => group body joint
      | none, column => Exec.ofResult (comparison operator value) >>= fun p =>
        if p.1.isOperator then compareOperand column p.1 p.2 joint
        else compareOperand column equality p.1 joint := by
  unfold Build.filter
  cases word : Operand.isMembership operator with
  | false => cases value <;> rfl
  | true =>
      cases value with
      | none => rfl
      | some values =>
          rw [word] at h
          cases h

theorem filter_entries {entries : List (Value × Value)} (joint : Value)
    (h : (Operand.isMembership operator && value.isSome) = false)
    (e : column.entries? = some entries) :
    filter column operator value joint = group (compareEntries entries) joint := by
  rw [filter_other joint h, e]

theorem filter_body (body : Build Unit) (joint : Value)
    (h : (Operand.isMembership operator && value.isSome) = false) :
    filter (.body body) operator value joint = group body joint := filter_other joint h

theorem filter_column (joint : Value) (h : (Operand.isMembership operator && value.isSome) = false)
    (e : column.entries? = none) (single : ∀ body, column ≠ .body body) :
    filter column operator value joint = (Exec.ofResult (comparison operator value) >>= fun p =>
      if p.1.isOperator then compareOperand column p.1 p.2 joint
      else compareOperand column equality p.1 joint) := by
  rw [filter_other joint h, e]
  cases column with
  | body f => exact absurd rfl (single f)
  | _ => rfl

end filter

theorem filter_adds {column : Argument} {operator value : Option Argument} (joint : Value)
    (r : b.Ready) (hc : Noted test known column) (ho : ∀ a ∈ operator, Noted test known a)
    (hv : ∀ a ∈ value, Noted test known a)
    (all : AllKnown test known b (column.queries ++ queries? operator ++ queries? value)) :
    (filter column.operand (operand? operator) (operand? value) joint).Ends b
      (fun _ b' => b.Adds test ((Call.filter column operator value joint).ledger known b b'.query) b')
      (b.Adds test []) := by
  have allColumn : AllKnown test known b column.queries := fun q hq =>
    all q (List.mem_append_left _ (List.mem_append_left _ hq))
  have allOperator : AllKnown test known b (queries? operator) := fun q hq =>
    all q (List.mem_append_left _ (List.mem_append_right _ hq))
  have allValue : AllKnown test known b (queries? value) := fun q hq =>
    all q (List.mem_append_right _ hq)
  have isSome : (operand? value).isSome = value.isSome := by cases value <;> rfl
  cases member : Operand.isMembership (operand? operator) && value.isSome with
  | true =>
      obtain ⟨word, e⟩ := Bool.and_eq_true_iff.mp member
      obtain ⟨values, rfl⟩ := Option.isSome_iff_exists.mp e
      refine (filter_member values.operand joint word ▸
        (hv values rfl).among r allValue column.operand joint (.bool false)).imp
        (fun _ b' l => ?_) fun _ l => l
      rw [Call.ledger, member, if_pos rfl]
      exact l
  | false =>
      have other := member
      rw [← isSome] at other
      have grouped : ∀ {body : Build Unit} {l : Ledger},
          filter column.operand (operand? operator) (operand? value) joint = group body joint →
          body.Ends (groupBuilder b) (fun _ => (groupBuilder b).Adds test l) (groupBuilder b).Keeps →
          (∀ after, (Call.filter column operator value joint).ledger known b after = l) → _ :=
        fun same h entries => same ▸ (group_adds r h joint).imp
          (fun _ b' added => (entries b'.query).symm ▸ added) fun _ l => l
      cases e : column.operand.entries? with
      | some entries =>
          refine grouped (filter_entries joint other e)
            (compareEntries_adds entries (groupBuilder_ready r)) fun after => ?_
          rw [Call.ledger, member, if_neg Bool.false_ne_true, e]
      | none =>
          cases body : column.isBody with
          | true =>
              cases column with
              | body calls =>
                  refine grouped (filter_body (runAll calls) joint other)
                    (hc (groupBuilder b) (groupBuilder_ready r) fun q hq =>
                      (allColumn q hq).later r rfl (.refl _)) fun after => ?_
                  rw [Call.ledger, member, if_neg Bool.false_ne_true, e]
                  rfl
              | _ => cases body
          | false =>
              have single : ∀ f, column.operand ≠ .body f := by
                intro f c
                cases column <;> cases c
                cases body
              rw [filter_column joint other e single]
              refine (comparison_adds column.operand joint r ho hv allOperator allValue).imp
                (fun _ b' l => ?_) fun _ l => l
              rw [Call.ledger, member, if_neg Bool.false_ne_true, e, body]
              exact l

mutual
/-- Every value of the ledger is bound under its name, and the ledger has every parameter of the new
clauses. -/
theorem call_adds : ∀ c : Call, c.isClause = true → ∀ b : Builder, b.Ready →
    AllKnown test known b c.queries →
      c.run.Ends b (fun _ b' => b.Adds test (c.ledger known b b'.query) b') (b.Adds test [])
  | .target v, _, b, _, _ => target_quiet v _ b
  | .filter column operator value joint, clause, b, r, all => by
    rw [Call.isClause, Bool.and_eq_true, Bool.and_eq_true] at clause
    exact filter_adds joint r (argument_noted column clause.1.1)
      (arguments_noted operator clause.1.2) (arguments_noted value clause.2) all
  | .group body joint, clause, b, r, all =>
    group_adds r (argument_noted body clause (groupBuilder b) (groupBuilder_ready r) fun q hq =>
      (all q hq).later r rfl (.refl _)) joint
  | .compareRow _ _ query _, clause, b, r, all =>
    compareRow_adds ((argument_noted query clause).all_rows r all) _ _ _
  | .among _ values _ _, clause, b, r, all => (argument_noted values clause).among r all _ _ _
  | .amongRows _ query _ _, clause, b, r, all =>
    amongRows_adds ((argument_noted query clause).all_rows r all) _ _ _
  | .between _ values _ _, _, b, _, _ => between_adds _ values _ _
  | .isNull column joint negated, _, _, _, _ =>
    isNull_adds (l := fun _ => []) column.operand joint negated fun _ _ _ => rfl
  | .carried _ _ _ _, _, b, _, _ => carried_adds _ _ _ _
  | .present query _ _, clause, b, r, all =>
    present_adds ((argument_noted query clause).all_rows r all) _ _
  | .relation .., _, b, _, _ => relation_adds _ _ _ _ _ _ _ _
  | .anyRelation .., _, b, _, _ => anyRelation_adds _ _ _ _ _ _ _
  | .select columns, _, b, _, _ => select_quiet columns _ b
  | .addSelect columns, _, b, _, _ => addSelect_quiet columns _ b
  | .distinct, _, b, _, _ => makeDistinct_quiet _ b
  | .stage parts named, _, b, _, _ => stage_quiet parts named _ b
  | .groupBy columns, _, b, _, _ => groupBy_quiet columns _ b
  | .having column operator value joint, _, b, _, _ => by
    refine .bind (.ofResult (fun p e => ?_) (.refl b))
    refine (addHaving_adds column p.1.toValue p.2.toValue joint).imp (fun _ b' l => ?_) fun _ l => l
    rw [Call.ledger, e]
    exact l
  | .orderBy column direction, _, b, _, _ => orderBy_quiet column direction _ b
  | .limit count, _, b, _, _ => limit_quiet count _ b
  | .offset count, _, b, _, _ => offset_quiet count _ b
  | .page number size, _, b, _, _ => page_quiet number size _ b
  | .union query _, clause, b, r, all =>
    union_adds ((argument_noted query clause).all_rows r all) _
  | .refused reason, _, b, _, _ => Quiet.fail reason _ b
  | .addBindings .., clause, _, _, _ | .setAggregate .., clause, _, _, _
  | .addPredicate .., clause, _, _, _ | .addPattern .., clause, _, _, _
  | .nest .., clause, _, _, _ => by cases clause
termination_by structural c => c
theorem argument_noted : ∀ a : Argument, a.isClause = true → Noted test known a
  | .value v, _ => noted_value v
  | .callback number, _ => noted_callback number
  | .query q, _ => noted_query q
  | .body calls, clauses => fun start r all => calls_add calls clauses start r all
termination_by structural a => a
theorem arguments_noted : ∀ o : Option Argument, areClauses? o = true → ∀ a ∈ o, Noted test known a
  | some a, clause, _, rfl => argument_noted a clause
termination_by structural o => o
/-- The same of calls one after another, up to a failure. -/
theorem calls_add : ∀ calls : List Call, areClauses calls = true → ∀ b : Builder, b.Ready →
    AllKnown test known b (queriesOfAll calls) →
      (runAll calls).Ends b (fun _ => b.Adds test (ledgerOfAll known calls b)) b.Keeps
  | [], _, b, _, _ => .of_pure (.refl b)
  | c :: rest, clauses, b, r, all => by
    rw [areClauses, Bool.and_eq_true] at clauses
    have first := call_adds c clauses.1 b r fun q hq => all q (List.mem_append_left _ hq)
    refine noteStep_adds r first fun b' keeps => ?_
    exact calls_add rest clauses.2 b' (keeps.ready r)
      (AllKnown.later (fun q hq => all q (List.mem_append_right _ hq)) r keeps)
termination_by structural calls => calls
end

end Build

end GraphQuery
