import GraphQuery.Proofs.Builder.Alike
import GraphQuery.Proofs.Builder.Ledger

/-! # Comparing with other values

A comparison, a test of membership, a test whether a column lies between two values, and whatever a
predicate as callers write it turns out to be: all of these keep builders alike when another value
stands in the place of the one that is compared with.

* `Operand.Alike` : two arguments stand for the same, up to values that are bound in callbacks and in
  queries that were built on their own.
* `Operand.Varies` : either that, or they are two values that may stand in each other's place.
* `Build.subQuery_paired` : such arguments become the same sub-query.
* `Build.filter_paired` : such arguments become the same predicate. -/

namespace GraphQuery

open GraphQuery.Binding GraphQuery.Schema BindingTable

/-- Arguments that stand for the same, up to the values that their callbacks and queries have bound. -/
inductive Operand.Alike : Operand → Operand → Prop
  | value (v : Value) : Operand.Alike (.value v) (.value v)
  | body {x y : Build Unit} : Build.KeepAlike x y → Operand.Alike (.body x) (.body y)
  | query {q q' : Incoming} : q.Alike q' → Operand.Alike (.query q) (.query q')

/-- A value to compare with, or one that may stand in its place. -/
inductive Operand.Varies : Operand → Operand → Prop
  | alike {o o' : Operand} : o.Alike o' → Operand.Varies o o'
  | value {v v' : Value} : v.Varies v' → Operand.Varies (.value v) (.value v')

/-- Two arguments that may be left out: neither is there, or both are, and then they are related. -/
inductive Both {A : Type} (related : A → A → Prop) : Option A → Option A → Prop
  | none : Both related none none
  | some {a a' : A} : related a a' → Both related (some a) (some a')

namespace Operand

variable {o o' : Operand}

theorem Alike.toValue_eq (h : o.Alike o') : o.toValue = o'.toValue := by
  cases h with
  | value | body => rfl
  | query alike => exact alike.value_eq

theorem Alike.isNull_eq (h : o.Alike o') : o.isNull = o'.isNull := by cases h <;> rfl

theorem Alike.isOperator_eq (h : o.Alike o') : o.isOperator = o'.isOperator := by cases h <;> rfl

theorem Alike.entries_eq (h : o.Alike o') : o.entries? = o'.entries? := by cases h <;> rfl

theorem Varies.isNull_eq (h : o.Varies o') : o.isNull = o'.isNull := by
  cases h with
  | alike h => exact h.isNull_eq
  | value h => exact h.given.trans h.given'.symm

theorem isMembership_eq {o o' : Option Operand} (h : Both Operand.Alike o o') :
    isMembership o = isMembership o' := by
  cases h with
  | none => rfl
  | some h => cases h <;> rfl

end Operand

namespace Build

variable {o o' column column' : Operand}

/-! ### Sub-queries -/

theorem isSameTable_alike {q q' : Incoming} {b b' : Builder} (h : q.Alike q') (alike : b.Alike b') :
    isSameTable q b = isSameTable q' b' := by
  unfold isSameTable
  rw [h.query, h.tableNumber, alike.query, alike.number]

/-- Of queries that are taken in, the same names are changed. -/
theorem adopt_paired {q q' : Incoming} (h : q.Alike q') : Paired Eq (adopt q) (adopt q') := by
  refine .bind .of_get fun b b' alike => ?_
  dsimp only
  rw [isSameTable_alike h alike, h.query, h.number]
  refine .ite (fun _ => .of_pure rfl) fun _ => ?_
  obtain ⟨tables, renames⟩ := alike.table.absorb h.table
  refine (ask_blind _ _).bind fun _ => .bind (.same_result _) fun _ _ _ => ?_
  rw [renames]
  exact .bind (.of_set ⟨alike.query, tables, alike.number, alike.used⟩) fun _ _ _ => .same_result _

theorem callback_paired (h : o.Alike o') : KeepAlike (callback o) (callback o') := by
  cases h with
  | body h => exact h
  | query => exact .fail _
  | value v =>
      unfold callback
      split
      · next e => cases e
      · exact (withQuery_blind _).keepAlike
      · exact .fail _

theorem subQuery_paired (h : o.Alike o') : Paired Eq (subQuery o) (subQuery o') := by
  have built : Paired Eq
      (do let b ← get; return SubQuery.own (← onQuery (subStart b.query) (callback o)))
      (do let b ← get; return SubQuery.own (← onQuery (subStart b.query) (callback o'))) := by
    refine .bind .of_get fun b b' alike => ?_
    rw [alike.query]
    refine .bind (onQuery_paired _ (callback_paired h)) ?_
    rintro q _ rfl
    exact .of_pure rfl
  cases h with
  | query h => exact adopt_paired h
  | value | body => exact built

/-! ### Predicates -/

theorem resolveOperand_paired (columns : column.Alike column') :
    Paired Eq (resolveOperand column) (resolveOperand column') := by
  cases columns with
  | value v => exact resolve_blind v
  | body | query => exact .fail _

theorem isNull_paired (columns : column.Alike column') (joined negated : Value) :
    KeepAlike (isNull column joined negated) (isNull column' joined negated) := by
  refine (needList_blind _).bind fun _ => .bind (resolveOperand_paired columns) ?_
  rintro c _ rfl
  exact addChecked_paired _

theorem compareRow_paired (h : o.Alike o') (columns : column.Alike column')
    (operator joined : Value) :
    KeepAlike (compareRow column operator o joined) (compareRow column' operator o' joined) := by
  refine .bind (subQuery_paired h) ?_
  rintro s _ rfl
  refine (needList_blind _).bind fun _ => .bind (resolveOperand_paired columns) ?_
  rintro c _ rfl
  exact Blind.bind (.same_result _) fun _ => addChecked_paired _

theorem amongRows_paired (h : o.Alike o') (columns : column.Alike column')
    (joined negated : Value) :
    KeepAlike (amongRows column o joined negated) (amongRows column' o' joined negated) := by
  refine .bind (subQuery_paired h) ?_
  rintro s _ rfl
  refine (needList_blind _).bind fun _ => .bind (resolveOperand_paired columns) ?_
  rintro c _ rfl
  exact addChecked_paired _

theorem present_paired (h : o.Alike o') (joined negated : Value) :
    KeepAlike (present o joined negated) (present o' joined negated) := by
  refine .bind (subQuery_paired h) ?_
  rintro s _ rfl
  exact addChecked_paired _

theorem among_values_paired (columns : column.Alike column') {v v' : Value}
    (h : v.drains? = v'.drains?) (joined negated : Value) :
    KeepAlike (among column (.value v) joined negated) (among column' (.value v') joined negated) := by
  refine .bind (KeepAlike.ofResult _ _).discard fun _ _ _ => .bind (resolveOperand_paired columns) ?_
  rintro c _ rfl
  refine (useUp_paired h).bind fun v v' _ => (KeepAlike.ofResult _ _).bind fun given given' _ => ?_
  refine (KeepAlike.ofResult _ _).bind fun values values' _ => .bind (bindValue_paired c _ _ _) ?_
  rintro binding _ rfl
  exact addChecked_paired _

theorem among_paired (h : o.Varies o') (columns : column.Alike column') (joined negated : Value) :
    KeepAlike (among column o joined negated) (among column' o' joined negated) := by
  cases h with
  | value h => exact among_values_paired columns h.drains joined negated
  | alike h =>
      have rows := amongRows_paired h columns joined negated
      cases h with
      | value v => exact among_values_paired columns rfl joined negated
      | body | query => exact rows

theorem between_paired (columns : column.Alike column') {v v' : Value}
    (h : v.drains? = v'.drains?) (joined negated : Value) :
    KeepAlike (between column v joined negated) (between column' v' joined negated) := by
  refine .bind (useUp_paired h) fun v v' _ => (KeepAlike.ofResult _ _).bind fun given given' _ => ?_
  refine .guarded (.bind (resolveOperand_paired columns) ?_)
  rintro c _ rfl
  refine (KeepAlike.ofResult _ _).bind fun values values' _ => .bind (bindValue_paired c _ _ _) ?_
  rintro binding _ rfl
  exact addChecked_paired _

/-- The predicates of a callback, in parentheses. -/
theorem nest_paired (wheres : List Predicate) (joined : Value) :
    KeepAlike (nest wheres joined) (nest wheres joined) :=
  .ite (fun _ => .of_pure trivial) fun _ => addChecked_paired _

theorem group_paired {x y : Build Unit} (h : KeepAlike x y) (joined : Value) :
    KeepAlike (group x joined) (group y joined) := by
  refine (withQuery_blind _).bind fun start => .bind (onQuery_paired start h) ?_
  rintro inner _ rfl
  exact nest_paired _ joined

/-! ### Comparisons -/

section compare

variable {operator operator' : Operand}

theorem compare_paired (columns : column.Alike column') (same : operator.Alike operator')
    (v v' joined : Value) :
    KeepAlike (compare column operator v joined) (compare column' operator' v' joined) := by
  unfold compare
  rw [same.toValue_eq]
  refine .bind (resolveOperand_paired columns) ?_
  rintro c _ rfl
  refine .bind (bindColumn_paired c v v' .filter) ?_
  rintro binding _ rfl
  refine (needList_blind _).bind fun _ => Blind.bind (.same_result _) fun operator => ?_
  exact addChecked_paired _

theorem compareOperand_paired (columns : column.Alike column') (same : operator.Alike operator')
    (h : o.Varies o') (joined : Value) : KeepAlike (compareOperand column operator o joined)
      (compareOperand column' operator' o' joined) := by
  cases h with
  | value h =>
      rw [compareOperand_given h.given, compareOperand_given h.given']
      exact compare_paired columns same _ _ joined
  | alike h =>
      have rows := compareRow_paired h columns operator'.toValue joined
      cases h with
      | body | query =>
          unfold compareOperand
          rw [same.toValue_eq]
          exact rows
      | value v =>
          cases missing : v.isNull with
          | false =>
              rw [compareOperand_given missing, compareOperand_given missing]
              exact compare_paired columns same v v joined
          | true =>
              obtain rfl := isNull_iff.mp missing
              unfold compareOperand
              rw [same.toValue_eq]
              exact isNull_paired columns joined _

end compare

theorem equality_paired (key v : Value) :
    KeepAlike (compareOperand (.value key) equality (.value v) (.text "and"))
      (compareOperand (.value key) equality (.value v) (.text "and")) :=
  compareOperand_paired (.value key) (.value _) (.alike (.value v)) _

theorem compareColumns_paired : ∀ columns : List (Value × Value),
    KeepAlike (compareColumns columns) (compareColumns columns)
  | [] => .of_pure trivial
  | (key, v) :: rest => (equality_paired key v).bind fun _ _ _ => compareColumns_paired rest

theorem compareEntries_paired : ∀ entries : List (Value × Value),
    KeepAlike (compareEntries entries) (compareEntries entries)
  | [] => .of_pure trivial
  | (key, v) :: rest => by
    unfold compareEntries
    split
    · exact (group_paired (compareColumns_paired _) _).bind fun _ _ _ => compareEntries_paired rest
    · exact (equality_paired key v).bind fun _ _ _ => compareEntries_paired rest

/-- A comparison whose arguments go together is with the value that is given. -/
theorem comparison_given {operator : Option Operand} {value : Operand} {p : Operand × Operand}
    (h : comparison operator (some value) = .ok p) : p = (operator.getD Operand.missing, value) := by
  have unfolded : comparison operator (some value) =
      if isIllegalPair (operator.getD Operand.missing) value then
        .error (.builder .illegalComparison) else .ok (operator.getD Operand.missing, value) := by
    cases operator <;> rfl
  rw [unfolded] at h
  split at h
  · cases h
  · exact (Except.ok.inj h).symm

section filter

variable {operator operator' value value' : Option Operand}

/-- The operators of two comparisons stand for the same, and their values may stand in each other's
place. -/
theorem comparison_paired (same : Both Operand.Alike operator operator')
    (h : Both Operand.Varies value value') {p p' : Operand × Operand}
    (e : comparison operator value = .ok p) (e' : comparison operator' value' = .ok p') :
    p.1.Alike p'.1 ∧ p.2.Varies p'.2 := by
  cases h with
  | some h =>
      rw [comparison_given e, comparison_given e']
      cases same with
      | none => exact ⟨.value _, h⟩
      | some same => exact ⟨same, h⟩
  | none =>
      cases same with
      | none => cases e
      | some same =>
          obtain rfl := Except.ok.inj e
          obtain rfl := Except.ok.inj e'
          exact ⟨.value _, .alike same⟩

theorem compared_paired (columns : column.Alike column') (same : Both Operand.Alike operator operator')
    (h : Both Operand.Varies value value') (joined : Value) :
    KeepAlike
      (Exec.ofResult (comparison operator value) >>= fun p =>
        if p.1.isOperator then compareOperand column p.1 p.2 joined
        else compareOperand column equality p.1 joined)
      (Exec.ofResult (comparison operator' value') >>= fun p =>
        if p.1.isOperator then compareOperand column' p.1 p.2 joined
        else compareOperand column' equality p.1 joined) := by
  refine .bind (.ofResult fun _ _ e e' => comparison_paired same h e e') fun p p' both => ?_
  rw [both.1.isOperator_eq]
  refine .ite (fun _ => compareOperand_paired columns both.1 both.2 joined) fun _ => ?_
  exact compareOperand_paired columns (.value _) (.alike both.1) joined

/-- Predicates as callers write them mean the same, whichever value stands in the third place. -/
theorem filter_paired (columns : column.Alike column')
    (same : Both Operand.Alike operator operator') (h : Both Operand.Varies value value')
    (joined : Value) :
    KeepAlike (filter column operator value joined) (filter column' operator' value' joined) := by
  have given : value.isSome = value'.isSome := by cases h <;> rfl
  have word := Operand.isMembership_eq same
  cases member : Operand.isMembership operator && value.isSome with
  | true =>
      obtain ⟨isWord, isGiven⟩ := Bool.and_eq_true_iff.mp member
      cases h with
      | none => cases isGiven
      | some h =>
          rw [filter_member _ _ isWord, filter_member _ _ (word ▸ isWord)]
          exact among_paired h columns joined _
  | false =>
      have member' : (Operand.isMembership operator' && value'.isSome) = false := by
        rw [← word, ← given, member]
      cases e : column.entries? with
      | some entries =>
          rw [filter_entries _ member e, filter_entries _ member' (columns.entries_eq ▸ e)]
          exact group_paired (compareEntries_paired entries) joined
      | none =>
          have e' := columns.entries_eq ▸ e
          have compared := compared_paired columns same h joined
          cases columns with
          | body inner =>
              rw [filter_body _ _ member, filter_body _ _ member']
              exact group_paired inner joined
          | value v =>
              rw [filter_column _ member e nofun, filter_column _ member' e' nofun]
              exact compared
          | query q =>
              rw [filter_column _ member e nofun, filter_column _ member' e' nofun]
              exact compared

end filter

end Build

end GraphQuery
