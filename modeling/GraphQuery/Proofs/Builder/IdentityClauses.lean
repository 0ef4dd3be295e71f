import GraphQuery.Proofs.Builder.IdentityPlans

/-! # Clauses that take identities

An `IdentityClause` is a call but for the argument that stands for an identity, or for a list of them.

* `IdentityClause.OnIdentity` : its column is the identity of a node;
* `IdentityClause.takes` : what it binds follows a plan in which only the reading depends on what is
  given;
* `IdentityClause.null_keepsTable` : null stands for no identity. -/

namespace GraphQuery

open GraphQuery.Text GraphQuery.Binding Exec

/-- A clause that takes identities, but for the argument that stands for them. A map of columns is not
among them: it adds an equality for each of its entries, on a query of its own with the same table. -/
inductive IdentityClause where
  /-- equality with what is given; where that is no operator, another argument may follow it and is
  ignored -/
  | equal (column : Value) (ignored : Option Argument) (joint : Value)
  | compared (column operator joint : Value)
  /-- a comparison by the word for membership -/
  | member (column word joint : Value)
  | among (column joint negated : Value)
  | between (column joint negated : Value)
  | relation (parent related placeholder relationship direction boolean : Value)
  | anyRelation (parent placeholder direction boolean relationship : Value)

namespace IdentityClause

/-- The call with the argument in its place. -/
def call : IdentityClause → Value → Call
  | equal column ignored joint, v => .filter (.value column) (some (.value v)) ignored joint
  | compared column operator joint, v =>
    .filter (.value column) (some (.value operator)) (some (.value v)) joint
  | member column word joint, v =>
    .filter (.value column) (some (.value word)) (some (.value v)) joint
  | among column joint negated, v => .among (.value column) (.value v) joint negated
  | between column joint negated, v => .between (.value column) v joint negated
  | relation parent related placeholder relationship direction boolean, v =>
    .relation parent related placeholder relationship (.text "id") v direction boolean
  | anyRelation parent placeholder direction boolean relationship, v =>
    .anyRelation parent placeholder (.text "id") v direction boolean relationship

/-- Whether the argument is an identity itself; otherwise it is a list of them. -/
def isSingle : IdentityClause → Bool
  | member .. | among .. | between .. => false
  | _ => true

/-- The identities in the argument. -/
def given (used : Remains) : IdentityClause → Value → Result Given
  | member .., v | among .., v => Given.ofList used v
  | between .., v => Given.ofBounds used v
  | _, v => Given.ofValue v

/-- The bucket that they are bound in. -/
def bucket : IdentityClause → Bucket
  | relation .. | anyRelation .. => .pattern
  | _ => .filter

/-- An argument that is an integer, or consists of it. -/
def integers (n : Int) (c : IdentityClause) : Value :=
  if c.isSingle then .int n else .ofList [.int n, .int n]

/-- The clause is about the identity of a node: its column is one, and its operator compares. -/
def OnIdentity : IdentityClause → Prop
  | equal column _ _ | among column _ _ | between column _ _ => IsIdentityColumn column
  | compared column operator _ => IsIdentityColumn column ∧ isOperator operator = true ∧
    Operand.isMembership (some (.value operator)) = false
  | member column word _ => IsIdentityColumn column ∧ Operand.isMembership (some (.value word)) = true
  | relation .. | anyRelation .. => True

/-- The argument stands for identities: where another one follows, it is no operator. -/
def Accepts : IdentityClause → Value → Prop
  | equal _ ignored _, v => ignored = none ∨ isOperator v = false
  | _, _ => True

/-- The argument asks for a node: a single one is not null. -/
def Fits (c : IdentityClause) (v : Value) : Prop :=
  c.Accepts v ∧ (c.isSingle = true → v.isNull = false)

variable {column : Value} {b : Builder}

/-- The word for membership is an operator. -/
theorem isMembership_of_not_isOperator {v : Value} (h : isOperator v = false) :
    Operand.isMembership (some (.value v)) = false := by
  cases v with
  | text s =>
    refine beq_eq_false_iff_ne.mpr fun word => ?_
    have listed : isOperator (.text s) = operators.contains (lowercase s) := rfl
    rw [listed, word] at h
    cases h
  | _ => rfl

theorem filter_equal (h : IsIdentityColumn column) {ignored : Option Argument} {v : Value}
    (accepted : ignored = none ∨ isOperator v = false) (joint : Value) :
    Build.filter (.value column) (some (.value v)) (operand? ignored) joint =
      Build.compareOperand (.value column) Build.equality (.value v) joint := by
  have plain : Operand.entries? (.value column) = none := h.entries?
  cases ignored with
  | none =>
    rw [Build.filter_column joint (Bool.and_false _) plain fun _ => nofun]
    rfl
  | some a =>
    have word : isOperator v = false := accepted.resolve_left nofun
    have legal : isIllegalPair (.value v) a.operand = false := by
      unfold isIllegalPair
      rw [show (Operand.value v).isOperator = false from word, Bool.and_false, Bool.false_and]
    have read : Build.comparison (some (.value v)) (operand? (some a)) = .ok (.value v, a.operand) := by
      show (if isIllegalPair (.value v) a.operand = true then _ else _) = _
      rw [legal]
      rfl
    have single : (Operand.isMembership (some (.value v)) && (operand? (some a)).isSome) = false := by
      rw [isMembership_of_not_isOperator word]
      rfl
    rw [Build.filter_column joint single plain fun _ => nofun, read]
    exact if_neg (Bool.eq_false_iff.mp word)

theorem filter_compared (h : IsIdentityColumn column) {operator : Value}
    (sign : isOperator operator = true) (single : Operand.isMembership (some (.value operator)) = false)
    (v joint : Value) :
    Build.filter (.value column) (some (.value operator)) (some (.value v)) joint =
      if isIllegalPair (.value operator) (.value v) then Build.fault .illegalComparison
      else Build.compareOperand (.value column) (.value operator) (.value v) joint := by
  have plain : Operand.entries? (.value column) = none := h.entries?
  rw [Build.filter_column joint (by rw [single]; rfl) plain fun _ => nofun]
  show (Exec.ofResult (if isIllegalPair (.value operator) (.value v) = true then _ else _) >>= _) = _
  split
  · rfl
  · exact if_pos sign

theorem takes {c : IdentityClause} (on : c.OnIdentity) (b : Builder) :
    Build.Takes (fun v => (c.call v).run) (c.given b.used) c.Fits b c.bucket := by
  cases c with
  | equal column ignored joint =>
    refine (Build.compare_takes on Build.equality joint).congr fun v fit => ?_
    exact (filter_equal on fit.1 joint).trans (Build.compareOperand_given (fit.2 rfl) ..)
  | compared column operator joint =>
    refine (Build.compare_takes on.1 (.value operator) joint).congr fun v fit => ?_
    have legal := Build.isIllegalPair_given (fit.2 rfl) (.value operator)
    refine (filter_compared on.1 on.2.1 on.2.2 v joint).trans ?_
    rw [if_neg (Bool.eq_false_iff.mp legal)]
    exact Build.compareOperand_given (fit.2 rfl) ..
  | member column word joint =>
    refine (Build.among_takes on.1 joint (.bool false)).congr fun v _ => ?_
    exact Build.filter_member (.value v) joint on.2
  | among column joint negated => exact Build.among_takes (b := b) on joint negated
  | between column joint negated => exact Build.between_takes (b := b) on joint negated
  | relation parent related placeholder relationship direction boolean =>
    refine Build.relation_takes ?_ ..
    exact fun v fit => fit.2 rfl
  | anyRelation parent placeholder direction boolean relationship =>
    refine Build.anyRelation_takes ?_ ..
    exact fun v fit => fit.2 rfl

theorem fits_integers (c : IdentityClause) (n : Int) : c.Fits (c.integers n) := by
  cases c with
  | equal => exact ⟨Or.inr rfl, fun _ => rfl⟩
  | _ => exact ⟨trivial, fun _ => rfl⟩

theorem given_integers (c : IdentityClause) (n : Int) (used : Remains) :
    ∃ g x, c.given used (c.integers n) = .ok g ∧ g.read = .ok x := by
  cases c with
  | member | among | between => exact ⟨.several [.int n, .int n], _, rfl, rfl⟩
  | _ => exact ⟨.one (.int n), .int n, rfl, rfl⟩

theorem membershipValues_refused {v : Value} {e : Error} (h : membershipValues v = .error e) :
    ∃ fault, e = .builder fault := by
  unfold membershipValues at h
  dsimp only at h
  split at h
  case h_6 =>
    obtain members | ⟨xs, members⟩ := Option.eq_none_or_eq_some (Value.members? _)
    · rw [members] at h
      exact ⟨_, (Except.error.inj h).symm⟩
    · rw [members] at h
      cases h
  all_goals exact ⟨_, (Except.error.inj h).symm⟩

/-- What is no list of identities is a mistake, or cannot be gone through at all. -/
theorem given_refused {c : IdentityClause} {used : Remains} {v : Value} {e : Error}
    (h : c.given used v = .error e) :
    (∃ fault, e = .builder fault) ∨ (used.useUp v).1.members? = none := by
  have membership (h : Given.ofList used v = .error e) : ∃ fault, e = .builder fault := by
    unfold Given.ofList at h
    cases read : membershipValues (used.useUp v).1 with
    | ok vs =>
      rw [read] at h
      cases h
    | error f =>
      rw [read] at h
      obtain rfl := Except.error.inj h
      exact membershipValues_refused read
  cases c with
  | member | among => exact Or.inl (membership h)
  | between =>
    have h : Given.ofBounds used v = .error e := h
    unfold Given.ofBounds Value.members at h
    split at h
    · rename_i xs _
      have two : (if xs.length ≠ 2 then .error (.builder .notTwoBounds) else .ok (.several xs) :
        Result Given) = .error e := h
      split at two
      · exact Or.inl ⟨_, (Except.error.inj two).symm⟩
      · cases two
    · exact Or.inr ‹_›
  | _ => cases h

/-- Null asks for no node: with it a clause is a test for null, or has no condition. -/
theorem null_keepsTable {c : IdentityClause} (on : c.OnIdentity) (single : c.isSingle = true) :
    Build.KeepsTable (c.call .null).run := by
  have tested (column : Value) (joint negated : Value) :
      Build.KeepsTable (Build.isNull (.value column) joint negated) :=
    (Build.Light.needList .wheres).keepsTable.bind fun _ =>
      (Build.Light.resolveOperand _).keepsTable.bind fun _ => Build.addChecked_keepsTable _
  cases c with
  | equal column ignored joint =>
    show Build.KeepsTable
      (Build.filter (.value column) (some (.value .null)) (operand? ignored) joint)
    rw [filter_equal on (Or.inr rfl)]
    exact tested _ _ _
  | compared column operator joint =>
    show Build.KeepsTable
      (Build.filter (.value column) (some (.value operator)) (some (.value .null)) joint)
    rw [filter_compared on.1 on.2.1 on.2.2]
    split
    · exact fun table number => .fail _
    · exact tested _ _ _
  | relation parent related placeholder relationship direction boolean =>
    exact (Build.Light.parentNode _).keepsTable.bind fun _ =>
      (Build.Light.needList _).keepsTable.bind fun _ => (Build.Light.readLabels _).keepsTable.bind fun _ =>
        (Build.Light.ofResult _).keepsTable.bind fun _ => (Build.Light.ofResult _).keepsTable.bind fun _ =>
          Build.addPattern_keepsTable _
  | anyRelation parent placeholder direction boolean relationship =>
    exact (Build.Light.parentNode _).keepsTable.bind fun _ =>
      (Build.Light.needList _).keepsTable.bind fun _ => (Build.Light.ofResult _).keepsTable.bind fun _ =>
        Build.addPattern_keepsTable _
  | _ => cases single

end IdentityClause

end GraphQuery
