import GraphQuery.Proofs.Builder.Ledger

/-! # Calls that take in a query of another table

`Call.Adopts q` holds of the calls that are given a query `q` for a sub-query or a branch.

* `Call.Adopts.ends` : such a call moves the bindings of the query into the table of the builder,
  and the copy that its clause holds is the query under the new names.
* `Call.Adopts.result` : whether it succeeds depends on its other arguments alone, which `Call.fits`
  looks at, unless the query contains itself. -/

namespace GraphQuery

open BindingTable Build Builder Exec

/-- A call that is given a query for a sub-query or a branch. -/
inductive Call.Adopts (q : Incoming) : Call → Prop
  | present (joint negated : Value) : Adopts q (.present (.query q) joint negated)
  | among (column joint negated : Value) :
    Adopts q (.among (.value column) (.query q) joint negated)
  /-- a column that is no map, with an operator -/
  | filter (column operator joint : Value) (known : isOperator operator = true)
    (single : column.entries? = none) :
    Adopts q (.filter (.value column) (some (.value operator)) (some (.query q)) joint)
  | union (keepsAll : Value) : Adopts q (.union (.query q) keepsAll)

/-- The sub-query or the branch that a call has added. -/
def Call.taken (after : Query) : Call → Option SubQuery
  | .union _ _ => lastBranch after
  | _ => lastRows after

/-- Whether the words beside a condition can be read. -/
def wordsFit (joint negated : Value) : Result Unit := do
  let _ ← Result.ofChecked ((Build.joint joint).and (negation negated))
  return ()

/-- Whether a column, its operator, and the words beside the condition can be read. -/
def columnFits (q : Query) (column : Operand) (operator joint negated : Value) : Result Unit := do
  let _ ← q.resolve column.toValue
  let _ ← normalizeOperator operator
  wordsFit joint negated

/-- Whether the arguments of a call fit, apart from the query that it is given. -/
def Call.fits (q : Query) : Call → Result Unit
  | .present _ joint negated => wordsFit joint negated
  | .among column _ joint negated => columnFits q column.operand (.text "in") joint negated
  | .filter column operator _ joint =>
    columnFits q column.operand ((operand? operator).getD Operand.missing).toValue joint (.bool false)
  | .union _ keepsAll => do
    let _ ← Result.ofChecked (Checked.inside "all" (Schema.readTruth keepsAll))
    return ()
  | _ => .ok ()

namespace Build

variable {b : Builder} {q : Incoming}

/-- A query of another table has been taken in: its bindings have moved, and the sub-query is a copy
under their new names. -/
structure TakenIn (b : Builder) (q : Incoming) (s : SubQuery) (b' : Builder) : Prop where
  table : b'.table = (b.table.absorb q.table).1
  copied : (SubQuery.own q.query).rename (b.table.absorb q.table).2 = .ok s

theorem ask_outcome (plain : b.query.standIns = []) (part : QueryPart) (name : String) :
    (ask part name).outcome b = (.ok (), b) := by
  show (b.query.ask part name, b) = _
  unfold QueryOver.ask QueryOver.standIn?
  rw [plain]
  rfl

/-- Taking in a query of another table: its bindings move, and it is copied. -/
theorem adopt_outcome (r : b.Ready) (plain : q.query.standIns = [])
    (apart : q.tableNumber ≠ b.tableNumber) : (subQuery (.query q)).outcome b =
      ((SubQuery.own q.query).rename (b.table.absorb q.table).2,
        { b with table := (b.table.absorb q.table).1 }) := by
  show (adopt q).outcome b = _
  unfold adopt
  rw [outcome_bind]
  show (if isSameTable q b then _ else _ : Build SubQuery).outcome b = _
  rw [isSameTable_eq plain r, if_neg (by rw [decide_eq_true_iff]; exact apart)]
  rw [outcome_bind, ask_outcome r.plain]
  show (Exec.ofResult (q.query.ask .bindings "_buckets") >>= _ : Build SubQuery).outcome b = _
  have asked : q.query.ask .bindings "_buckets" = .ok () := by
    unfold QueryOver.ask QueryOver.standIn?
    rw [plain]
    rfl
  rw [asked]
  rfl

theorem adopt_takes (r : b.Ready) (plain : q.query.standIns = []) (named : q.table.WellNamed)
    (apart : q.tableNumber ≠ b.tableNumber) : (subQuery (.query q)).Ends b (TakenIn b q)
      (fun b' => b.table.Grows b'.table) :=
  .of_outcome (adopt_outcome r plain apart) (fun _ e => ⟨rfl, e⟩) fun _ _ =>
    (absorb_absorbed b.table named).kept

/-- A comparison of a column with a query, as callers write it. -/
theorem filter_query {column operator joint : Value} (known : isOperator operator = true)
    (single : column.entries? = none) :
    filter (.value column) (some (.value operator)) (some (.query q)) joint =
      if Operand.isMembership (some (.value operator)) then
        amongRows (.value column) (.query q) joint (.bool false)
      else compareRow (.value column) operator (.query q) joint := by
  cases member : Operand.isMembership (some (.value operator)) with
  | true => exact filter_member _ joint member
  | false =>
      have entries : (Operand.value column).entries? = none := single
      rw [filter_column joint (by rw [member]; rfl) entries fun _ => by nofun]
      have legal : comparison (some (.value operator)) (some (.query q)) =
          .ok (.value operator, .query q) := rfl
      rw [legal]
      show (if isOperator operator then _ else _) = _
      rw [if_pos known]
      rfl

end Build

theorem Call.Adopts.ends {b : Builder} {q : Incoming} {c : Call} (adopts : c.Adopts q)
    (r : b.Ready) (plain : q.query.standIns = []) (named : q.table.WellNamed)
    (apart : q.tableNumber ≠ b.tableNumber) :
    c.run.Ends b (fun _ b' => ∃ s b₁, TakenIn b q s b₁ ∧ c.taken b'.query = some s ∧
      b'.table = b₁.table) (fun b' => b.table.Grows b'.table) := by
  have takes := adopt_takes r plain named apart
  have failed : ∀ s b', TakenIn b q s b' → b.table.Grows b'.table := fun s b' taken => by
    rw [taken.table]
    exact (absorb_absorbed b.table named).kept
  have wrapped : ∀ {step : Build Unit}, step.Ends b (fun _ b' => ∃ s b₁ p, TakenIn b q s b₁ ∧
      Wraps s p ∧ b' = b₁.withWhere p) (fun b' => b.table.Grows b'.table) →
      step.Ends b (fun _ b' => ∃ s b₁, TakenIn b q s b₁ ∧ lastRows b'.query = some s ∧
        b'.table = b₁.table) (fun b' => b.table.Grows b'.table) := by
    intro step ends
    refine ends.imp (fun _ b' made => ?_) fun _ grows => grows
    obtain ⟨s, b₁, p, taken, wraps, rfl⟩ := made
    exact ⟨s, b₁, taken, (lastRows_withWhere b₁ p).trans wraps.rows, rfl⟩
  cases adopts with
  | present joint negated => exact wrapped (present_ends takes failed joint negated)
  | among column joint negated => exact wrapped (amongRows_ends takes failed _ joint negated)
  | filter column operator joint known single =>
      show (Build.filter (.value column) (some (.value operator)) (some (.query q)) joint).Ends b
        (fun _ b' => ∃ s b₁, TakenIn b q s b₁ ∧ lastRows b'.query = some s ∧ b'.table = b₁.table) _
      rw [filter_query known single]
      split
      · exact wrapped (amongRows_ends takes failed _ joint (.bool false))
      · exact wrapped (compareRow_ends takes failed _ operator joint)
  | union keepsAll =>
      refine (union_ends takes failed (.refl _) keepsAll).imp (fun _ b' made => ?_)
        fun _ grows => grows
      obtain ⟨s, b₁, all, taken, rfl⟩ := made
      exact ⟨s, b₁, taken, lastBranch_withBranch b₁ ⟨s, all⟩, rfl⟩

/-! ### Whether such a call succeeds -/

namespace Build

variable {b : Builder}

theorem needList_outcome (plain : b.query.standIns = []) (part : QueryPart) :
    (needList part).outcome b = (.ok (), b) := ask_outcome plain part "append"

theorem normalizeOperator_isOk {operator : Value} (known : isOperator operator = true) :
    ∃ word, normalizeOperator operator = .ok word := by
  cases operator with
  | text s =>
      unfold normalizeOperator
      dsimp only
      split
      · exact ⟨_, rfl⟩
      · cases letters : (Text.lowercase s).toList with
        | cons c rest => exact ⟨_, rfl⟩
        | nil =>
            have empty : Text.lowercase s = "" := String.toList_eq_nil_iff.mp letters
            have found : operators.contains (Text.lowercase s) = true := known
            rw [empty] at found
            exact absurd found (by decide)
  | _ => cases known

theorem ofChecked_map {α β : Type} (f : α → β) : ∀ x : Checked α,
    Result.ofChecked (x.map f) = (Result.ofChecked x).map f
  | .ok _ => rfl
  | .error issues => by
    show Result.ofChecked (.error issues) = _
    unfold Result.ofChecked
    dsimp only
    split <;> rfl

theorem addChecked_result (plain : b.query.standIns = []) (p : Checked Predicate) :
    ((addChecked p).outcome b).1 = (do let _ ← Result.ofChecked p; return ()) := by
  unfold addChecked addPredicate
  rw [result_bind (needList_outcome plain .wheres), result_bind (outcome_ofResult _ b)]
  show (Result.ofChecked p >>= _) = _
  congr 1
  funext q
  rw [result_bind (needList_outcome plain .wheres)]
  rfl

theorem addWords_result (plain : b.query.standIns = []) (joint negated : Value)
    (f : Connective × Bool → Predicate) :
    ((addChecked (((Build.joint joint).and (negation negated)).map f)).outcome b).1 =
      wordsFit joint negated := by
  rw [addChecked_result plain, ofChecked_map]
  unfold wordsFit
  cases Result.ofChecked ((Build.joint joint).and (negation negated)) <;> rfl

theorem resolved_bind {α : Type} (column : Value) (next : ColumnRef → Build α) :
    ((resolveOperand (.value column) >>= next).outcome b).1 =
      (b.query.resolve column >>= fun c => ((next c).outcome b).1) :=
  result_bind rfl

variable {query : Operand} {s : SubQuery} {b₁ : Builder}

theorem made_bind {α : Type} (made : (subQuery query).outcome b = (.ok s, b₁))
    (next : SubQuery → Build α) :
    ((subQuery query >>= next).outcome b).1 = ((next s).outcome b₁).1 := by
  rw [outcome_bind, made]

theorem present_result (made : (subQuery query).outcome b = (.ok s, b₁))
    (plain : b₁.query.standIns = []) (joint negated : Value) :
    ((present query joint negated).outcome b).1 = wordsFit joint negated := by
  unfold present
  rw [made_bind made]
  exact addWords_result plain joint negated _

theorem amongRows_result (made : (subQuery query).outcome b = (.ok s, b₁))
    (plain : b₁.query.standIns = []) (column joint negated : Value) :
    ((amongRows (.value column) query joint negated).outcome b).1 = (do
      let _ ← b₁.query.resolve column
      wordsFit joint negated) := by
  unfold amongRows
  rw [made_bind made, result_bind (needList_outcome plain .wheres)]
  refine (resolved_bind column _).trans ?_
  congr 1
  funext c
  exact addWords_result plain joint negated _

theorem compareRow_result (made : (subQuery query).outcome b = (.ok s, b₁))
    (plain : b₁.query.standIns = []) (column operator joint : Value) :
    ((compareRow (.value column) operator query joint).outcome b).1 =
      columnFits b₁.query (.value column) operator joint (.bool false) := by
  unfold compareRow columnFits
  rw [made_bind made, result_bind (needList_outcome plain .wheres)]
  refine (resolved_bind column _).trans ?_
  congr 1
  funext c
  rw [result_bind (outcome_ofResult _ b₁)]
  congr 1
  funext word
  rw [addChecked_result plain, ofChecked_map]
  unfold wordsFit
  have and_false : (Build.joint joint).and (negation (.bool false)) =
      (Build.joint joint).map fun j => (j, false) := by
    cases Build.joint joint <;> rfl
  rw [and_false, ofChecked_map]
  cases Result.ofChecked (Build.joint joint) <;> rfl

theorem union_result (plain : b.query.standIns = [])
    (made : (subQuery query).outcome b = (.ok s, b₁)) (keepsAll : Value) :
    ((union query keepsAll).outcome b).1 = (do
      let _ ← Result.ofChecked (Checked.inside "all" (Schema.readTruth keepsAll))
      return ()) := by
  unfold union
  rw [result_bind (needList_outcome plain .branches)]
  show (((subQuery query >>= _ : Build Unit).outcome b).1) = _
  rw [made_bind made, result_bind (outcome_ofResult _ b₁)]
  rfl

end Build

/-- Such a call succeeds if its other arguments fit, unless the query contains itself. -/
theorem Call.Adopts.result {b : Builder} {q : Incoming} {c : Call} (adopts : c.Adopts q)
    (r : b.Ready) (plain : q.query.IsPlain closedLink) (apart : q.tableNumber ≠ b.tableNumber) :
    (c.run.outcome b).1 = c.fits b.query := by
  obtain ⟨s, copied⟩ : ∃ s, (SubQuery.own q.query).rename (b.table.absorb q.table).2 = .ok s :=
    SubQuery.rename_isOk _ (SubQuery.isPlain_own.mpr plain)
  have made := adopt_outcome r plain.standIns apart
  rw [copied] at made
  have plain' := r.plain
  cases adopts with
  | present joint negated => exact present_result made plain' joint negated
  | among column joint negated =>
      refine (amongRows_result made plain' column joint negated).trans ?_
      show _ = columnFits b.query (.value column) (.text "in") joint negated
      unfold columnFits
      obtain ⟨word, e⟩ := normalizeOperator_isOk (show isOperator (.text "in") = true by decide)
      rw [e]
      rfl
  | filter column operator joint known single =>
      show ((Build.filter (.value column) (some (.value operator)) (some (.query q)) joint).outcome
        b).1 = columnFits b.query (.value column) operator joint (.bool false)
      rw [filter_query known single]
      split
      · rw [amongRows_result made plain']
        unfold columnFits
        obtain ⟨word, e⟩ := normalizeOperator_isOk known
        rw [e]
        rfl
      · rw [compareRow_result made plain']
  | union keepsAll => exact union_result r.plain made keepsAll

end GraphQuery
