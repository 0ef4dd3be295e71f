import GraphQuery.Proofs.Builder.Identities

/-! # Planning to bind identities

What a step binds for the identities that it is given is planned: the base of a name, and the integers
that are read.

* `Given.read` : what is bound for the identities, and `Given.Holds` what that has to do with them;
* `bindingPlan_ends` : without a plan one of them is refused, or every other one would be too;
* `Build.Follows` : a step binds what is planned and nothing else;
* `Build.Takes` : it does so by one plan, whatever it is given. -/

namespace GraphQuery

open GraphQuery.Binding Exec

/-! ### What is given -/

/-- Identities as a clause is given them: a single one, or the members of a list. -/
inductive Given where
  | one (v : Value)
  | several (vs : List Value)

namespace Given

/-- The values that are given. -/
def values : Given → List Value
  | one v => [v]
  | several vs => vs

/-- What is bound for them. -/
def read : Given → Result Value
  | one v => (Build.identity v).map .int
  | several vs => (vs.mapM fun v => (Build.identity v).map .int).map .ofList

/-- An integer, or a list of them: each one is named by the value in its place, or that value is mistaken
for it. -/
inductive Holds : Given → Value → Prop
  | one {v : Value} {n : Int} (taken : v.Names n ∨ v.MistakenFor n) : Holds (one v) (.int n)
  | several {vs : List Value} {ns : List Int}
    (taken : List.Forall₂ (fun v n => v.Names n ∨ v.MistakenFor n) vs ns) :
    Holds (several vs) (.ofList (ns.map .int))

theorem mapM_identity : ∀ vs : List Value,
    (∃ ns : List Int, (vs.mapM fun v => (Build.identity v).map .int) = .ok (ns.map Value.int) ∧
      List.Forall₂ (fun v n => v.Names n ∨ v.MistakenFor n) vs ns) ∨
    ∃ e, (vs.mapM fun v => ((Build.identity v).map .int : Result Value)) = .error e ∧
      ∃ v ∈ vs, v.RefusedFor e
  | [] => Or.inl ⟨[], rfl, .nil⟩
  | v :: vs => by
    rw [List.mapM_cons]
    cases first : Build.identity v with
    | error e => exact Or.inr ⟨e, rfl, v, List.mem_cons_self, Build.identity_refused first⟩
    | ok n =>
      obtain ⟨ns, all, each⟩ | ⟨e, failed, w, member, refused⟩ := mapM_identity vs
      · rw [all]
        exact Or.inl ⟨n :: ns, rfl, .cons (Build.identity_eq_ok.mp first) each⟩
      · rw [failed]
        exact Or.inr ⟨e, rfl, w, List.mem_cons_of_mem v member, refused⟩

theorem read_ends : ∀ g : Given, (∃ x, g.read = .ok x ∧ g.Holds x) ∨
    ∃ e, g.read = .error e ∧ ∃ v ∈ g.values, v.RefusedFor e
  | one v => by
    have value : (one v).read = (Build.identity v).map .int := rfl
    rw [value]
    cases read : Build.identity v with
    | ok n => exact Or.inl ⟨.int n, rfl, .one (Build.identity_eq_ok.mp read)⟩
    | error e => exact Or.inr ⟨e, rfl, v, List.mem_cons_self, Build.identity_refused read⟩
  | several vs => by
    have value : (several vs).read =
      (vs.mapM fun v => (Build.identity v).map .int).map .ofList := rfl
    rw [value]
    obtain ⟨ns, all, each⟩ | ⟨e, failed, refused⟩ := mapM_identity vs
    · rw [all]
      exact Or.inl ⟨_, rfl, .several each⟩
    · rw [failed]
      exact Or.inr ⟨e, rfl, refused⟩

/-- An argument that is an identity itself. -/
def ofValue (v : Value) : Result Given := .ok (one v)

/-- The identities in a list that membership is tested in. -/
def ofList (used : Remains) (v : Value) : Result Given :=
  (membershipValues (used.useUp v).1).map several

/-- The identities in a pair of bounds. -/
def ofBounds (used : Remains) (v : Value) : Result Given := do
  let vs ← Result.ofFailure (used.useUp v).1.members
  if vs.length ≠ 2 then .error (.builder .notTwoBounds) else .ok (several vs)

end Given

/-! ### Plans -/

/-- What a call binds for the identities that it is given, or why it binds nothing. Only the reading
depends on what is given. -/
def bindingPlan (before : Result String) (ready : Result Unit) (g : Given) :
    Result (String × Value) := do
  let base ← before
  let x ← g.read
  ready
  return (base, x)

/-- Without a plan a value is refused, or whatever is read would be. -/
theorem bindingPlan_ends (before : Result String) (ready : Result Unit) (g : Given) :
    (∃ base x, bindingPlan before ready g = .ok (base, x) ∧ g.Holds x) ∨
    ∃ e, bindingPlan before ready g = .error e ∧ ((∃ v ∈ g.values, v.RefusedFor e) ∨
      ∀ other x, other.read = .ok x → bindingPlan before ready other = .error e) := by
  unfold bindingPlan
  cases before with
  | error e => exact Or.inr ⟨e, rfl, Or.inr fun _ _ _ => rfl⟩
  | ok base =>
    obtain ⟨x, read, holds⟩ | ⟨e, failed, refused⟩ := g.read_ends
    · rw [read]
      cases ready with
      | ok u => exact Or.inl ⟨base, x, rfl, holds⟩
      | error e =>
        refine Or.inr ⟨e, rfl, Or.inr fun other y known => ?_⟩
        rw [known]
        rfl
    · rw [failed]
      exact Or.inr ⟨e, rfl, Or.inl refused⟩

/-- What is asked of a query before an identity is bound. -/
def Query.bindsIdentity (q : Query) : Result Unit := do
  q.ask .bindings "bind"
  q.ask .grammar "get_id_replacement"

namespace Build

variable {α β : Type} {b : Builder} {bucket : Bucket}

/-- A step that binds what is planned and nothing else, and leaves the builder as it is without a
plan. -/
def Follows (step : Build α) (b : Builder) (bucket : Bucket) : Result (String × Value) → Prop
  | .ok (base, x) => (step.outcome b).2.table = (b.table.bind base x bucket).2 ∧
      (step.outcome b).2.tableNumber = b.tableNumber
  | .error e => ∃ used, step.outcome b = (.error e, { b with used })

namespace Follows

variable {first : Build β} {next : β → Build α} {plan : Result (String × Value)} {used : Remains}

/-- What comes before a step that follows a plan may go through streams. -/
theorem bind_ok {a : β} (h : first.outcome b = (.ok a, { b with used }))
    (follows : (next a).Follows { b with used } bucket plan) : (first >>= next).Follows b bucket plan := by
  unfold Follows at follows ⊢
  rw [outcome_bind_ok h]
  exact follows

theorem bind_error {e : Error} (h : first.outcome b = (.error e, { b with used })) :
    (first >>= next).Follows b bucket (.error e) := ⟨used, by rw [outcome_bind, h]⟩

end Follows

/-- A step on an argument that stands for identities, if it fits: it binds for them, always by a plan of
the same kind. -/
def Takes (step : Value → Build α) (given : Value → Result Given) (fits : Value → Prop) (b : Builder)
    (bucket : Bucket) : Prop :=
  ∃ before ready, ∀ v, fits v → (step v).Follows b bucket (given v >>= bindingPlan before ready)

/-- A step that changes nothing but what is left of streams. -/
def Light (step : Build α) : Prop :=
  ∀ b, step.Ends b (fun _ b' => ∃ used, b' = { b with used }) fun b' => ∃ used, b' = { b with used }

theorem Light.ofResult (r : Result α) : Light (Exec.ofResult r) := fun b =>
  .ofResult (fun _ _ => ⟨b.used, rfl⟩) ⟨b.used, rfl⟩

theorem Light.needList (part : QueryPart) : Light (needList part) := fun b =>
  needList_ends ⟨b.used, rfl⟩ ⟨b.used, rfl⟩

theorem Light.readLabels (v : Value) : Light (readLabels v) := fun _ =>
  readLabels_ends (fun _ used => ⟨used, rfl⟩) fun used => ⟨used, rfl⟩

theorem Light.parentNode (v : Value) : Light (parentNode v) := fun _ =>
  parentNode_ends (fun _ used => ⟨used, rfl⟩) fun used => ⟨used, rfl⟩

theorem Light.resolveOperand (column : Operand) : Light (resolveOperand column) := fun b =>
  resolveOperand_ends (fun _ => ⟨b.used, rfl⟩) ⟨b.used, rfl⟩

theorem Takes.after {first : Build β} (light : Light first) {next : β → Value → Build α}
    {fits : Value → Prop}
    (h : ∀ a b', first.outcome b = (.ok a, b') → Takes (next a) Given.ofValue fits b' bucket) :
    Takes (fun v => first >>= fun a => next a v) Given.ofValue fits b bucket := by
  cases o : first.outcome b with
  | mk r b' =>
    cases r with
    | error e =>
      obtain ⟨used, rfl⟩ := (light b).2 e b' o
      exact ⟨.error e, .ok (), fun v _ => .bind_error o⟩
    | ok a =>
      obtain ⟨used, rfl⟩ := (light b).1 a b' o
      obtain ⟨before, ready, follows⟩ := h a _ o
      exact ⟨before, ready, fun v fit => .bind_ok o (follows v fit)⟩

theorem Takes.congr {step other : Value → Build α} {given : Value → Result Given}
    {fits : Value → Prop} (h : Takes step given fits b bucket)
    (same : ∀ v, fits v → other v = step v) : Takes other given fits b bucket := by
  obtain ⟨before, ready, follows⟩ := h
  refine ⟨before, ready, fun v fit => ?_⟩
  rw [same v fit]
  exact follows v fit

/-! ### Steps that bind -/

/-- The table is this one. -/
structure HasTable (table : BindingTable) (number : Nat) (b : Builder) : Prop where
  table : b.table = table
  number : b.tableNumber = number

/-- A step that leaves the table alone. -/
def KeepsTable (step : Build α) : Prop := ∀ table number, step.Maintains (HasTable table number)

theorem KeepsTable.bind {first : Build β} {next : β → Build α} (h : KeepsTable first)
    (h' : ∀ a, KeepsTable (next a)) : KeepsTable (first >>= next) := fun table number =>
  (h table number).bind fun a => h' a table number

theorem Light.keepsTable {step : Build α} (light : Light step) : KeepsTable step :=
  fun table number => .of_ends fun b held => by
    have same {b' : Builder} (left : ∃ used, b' = { b with used }) : HasTable table number b' := by
      obtain ⟨used, rfl⟩ := left
      exact ⟨held.table, held.number⟩
    exact (light b).imp (fun _ _ => same) fun _ => same

theorem addChecked_keepsTable (p : Checked Predicate) : KeepsTable (addChecked p) := by
  intro table number
  have asks (part : QueryPart) (name : String) : (ask part name).Maintains (HasTable table number) :=
    fun _ => id
  unfold addChecked addPredicate needList
  exact .bind (asks _ _) fun _ => .bind (.ofResult _) fun _ => .bind (asks _ _) fun _ =>
    .of_modify fun _ held => ⟨held.table, held.number⟩

theorem addPattern_keepsTable (p : Checked Pattern) : KeepsTable (addPattern p) := by
  intro table number
  have asks (part : QueryPart) (name : String) : (ask part name).Maintains (HasTable table number) :=
    fun _ => id
  unfold addPattern needList
  exact .bind (asks _ _) fun _ => .bind (.ofResult _) fun _ =>
    .of_modify fun _ held => ⟨held.table, held.number⟩

variable {rest : String → Build α} {fits : Value → Prop}

theorem bind_follows (keeps : ∀ n, KeepsTable (rest n)) (base : String) (x : Value) :
    (bind base x bucket >>= rest).Follows b bucket
      ((b.query.ask .bindings "bind").map fun _ => (base, x)) := by
  have asked : (ask .bindings "bind").outcome b = (b.query.ask .bindings "bind", b) := rfl
  unfold bind
  rw [bind_assoc]
  cases answer : b.query.ask .bindings "bind" with
  | error e =>
    rw [answer] at asked
    exact .bind_error asked
  | ok u =>
    rw [answer] at asked
    have bound := keeps (b.table.uniqueName base []) _ _ (b.binding base x bucket) ⟨rfl, rfl⟩
    exact .bind_ok asked ⟨bound.table, bound.number⟩

theorem bindValue_follows (keeps : ∀ n, KeepsTable (rest n)) {c : ColumnRef}
    (isIdentity : c.identity = true) (x : Value) : (bindValue c x bucket >>= rest).Follows b bucket
      (b.query.bindsIdentity.map fun _ => (bindingBase c, x)) := by
  have table : (ask .bindings "bind").outcome b = (b.query.ask .bindings "bind", b) := rfl
  have grammar : (ask .grammar "get_id_replacement").outcome b =
    (b.query.ask .grammar "get_id_replacement", b) := rfl
  have bound : (bind (bindingBase c) x bucket >>= rest).Follows b bucket _ :=
    bind_follows keeps (bindingBase c) x
  unfold bindValue Query.bindsIdentity
  rw [if_pos isIdentity, bind_assoc]
  cases first : b.query.ask .bindings "bind" with
  | error e =>
    rw [first] at table
    exact .bind_error table
  | ok u =>
    rw [first] at table bound
    refine .bind_ok table ?_
    rw [bind_assoc]
    cases second : b.query.ask .grammar "get_id_replacement" with
    | error e =>
      rw [second] at grammar
      exact .bind_error grammar
    | ok u =>
      rw [second] at grammar
      exact .bind_ok grammar bound

/-- What is read is bound for an identity. -/
theorem read_follows (keeps : ∀ n, KeepsTable (rest n)) {c : ColumnRef}
    (isIdentity : c.identity = true) {read : Result β} (hold : β → Value) {g : Given}
    (given : g.read = read.map hold) :
    Follows (Exec.ofResult read >>= fun y => bindValue c (hold y) bucket >>= rest) b bucket
      (bindingPlan (.ok (bindingBase c)) b.query.bindsIdentity g) := by
  unfold bindingPlan
  rw [given]
  cases read with
  | error e => exact .bind_error rfl
  | ok y =>
    have bound : (bindValue c (hold y) bucket >>= rest).Follows b bucket _ :=
      bindValue_follows keeps isIdentity (hold y)
    refine .bind_ok rfl ?_
    cases ready : b.query.bindsIdentity with
    | error e =>
      rw [ready] at bound
      exact bound
    | ok u =>
      rw [ready] at bound
      exact bound

/-! ### Comparisons and lists -/

variable {column : Value} {c : ColumnRef}

theorem read_one (isIdentity : c.identity = true) (v : Value) :
    (Given.one v).read = (valueFor c v).map id := by
  unfold valueFor
  rw [if_pos isIdentity]
  show (identity v).map Value.int = ((identity v).map Value.int).map id
  cases identity v <;> rfl

theorem read_several (isIdentity : c.identity = true) (vs : List Value) :
    (Given.several vs).read = (valuesFor c vs).map .ofList := by
  unfold valuesFor valueFor
  simp only [isIdentity, if_true]
  rfl

theorem bindColumn_follows (keeps : ∀ n, KeepsTable (rest n)) (isIdentity : c.identity = true)
    (v : Value) : (bindColumn c v bucket >>= rest).Follows b bucket
      (bindingPlan (.ok (bindingBase c)) b.query.bindsIdentity (.one v)) := by
  unfold bindColumn
  rw [bind_assoc]
  exact read_follows keeps isIdentity id (read_one isIdentity v)

theorem compare_takes (h : IsIdentityColumn column) (operator : Operand) (joined : Value) :
    Takes (fun v => compare (.value column) operator v joined) Given.ofValue fits b .filter := by
  unfold compare
  refine .after (.resolveOperand _) fun c b' found => ?_
  have isIdentity : c.identity = true := h.resolve (Prod.mk.inj found).1
  refine ⟨.ok (bindingBase c), b'.query.bindsIdentity, fun v _ => bindColumn_follows ?_ isIdentity v⟩
  exact fun _ table number => .bind (fun _ => id) fun _ => .bind (.ofResult _) fun _ =>
    addChecked_keepsTable _ table number

/-- A list is still one when it has been gone through. -/
theorem membershipValues_useUp (used : Remains) (v : Value) :
    (∃ e, membershipValues v = .error e ∧ membershipValues (used.useUp v).1 = .error e) ∨
      ∃ xs vs, membershipValues v = .ok xs ∧ membershipValues (used.useUp v).1 = .ok vs := by
  cases read : membershipValues v with
  | error e =>
    cases v with
    | stream xs mark => cases read
    | _ => exact Or.inl ⟨e, rfl, read⟩
  | ok xs =>
    cases v with
    | stream ys mark => exact Or.inr ⟨xs, used.of ys mark, rfl, rfl⟩
    | _ => exact Or.inr ⟨xs, xs, rfl, read⟩

theorem valuesFor_follows (keeps : ∀ n, KeepsTable (rest n)) (isIdentity : c.identity = true)
    (vs : List Value) :
    Follows (do
        let values ← Exec.ofResult (valuesFor c vs)
        let binding ← bindValue c (.ofList values) bucket
        rest binding) b bucket
      (bindingPlan (.ok (bindingBase c)) b.query.bindsIdentity (.several vs)) :=
  read_follows keeps isIdentity .ofList (read_several isIdentity vs)

theorem among_takes (h : IsIdentityColumn column) (joined negated : Value) :
    Takes (fun v => among (.value column) (.value v) joined negated) (Given.ofList b.used) fits b
      .filter := by
  refine ⟨(b.query.resolve column).map bindingBase, b.query.bindsIdentity, fun v _ => ?_⟩
  have resolved : (resolveOperand (.value column)).outcome b = (b.query.resolve column, b) := rfl
  have usedUp : (useUp v).outcome b =
    (.ok (b.used.useUp v).1, { b with used := (b.used.useUp v).2 }) := rfl
  unfold among Given.ofList
  dsimp only
  obtain ⟨e, unlisted, same⟩ | ⟨xs, vs, isList, same⟩ := membershipValues_useUp b.used v
  · rw [unlisted, same]
    exact .bind_error rfl
  · rw [isList, same]
    refine .bind_ok (a := ⟨⟩) rfl ?_
    cases found : b.query.resolve column with
    | error e =>
      rw [found] at resolved
      exact .bind_error resolved
    | ok c =>
      rw [found] at resolved
      refine .bind_ok resolved (.bind_ok usedUp ?_)
      rw [same]
      exact .bind_ok rfl (valuesFor_follows (fun _ => addChecked_keepsTable _) (h.resolve found) vs)

theorem between_takes (h : IsIdentityColumn column) (joined negated : Value) :
    Takes (fun v => between (.value column) v joined negated) (Given.ofBounds b.used) fits b .filter := by
  refine ⟨(b.query.resolve column).map bindingBase, b.query.bindsIdentity, fun v _ => ?_⟩
  let b' : Builder := { b with used := (b.used.useUp v).2 }
  have resolved : (resolveOperand (.value column)).outcome b' = (b.query.resolve column, b') := rfl
  have usedUp : (useUp v).outcome b = (.ok (b.used.useUp v).1, b') := rfl
  unfold between Given.ofBounds
  refine .bind_ok usedUp ?_
  cases read : Result.ofFailure (b.used.useUp v).1.members with
  | error e => exact .bind_error rfl
  | ok vs =>
    refine .bind_ok rfl ?_
    show Follows _ _ _ ((if vs.length ≠ 2 then .error (.builder .notTwoBounds)
      else .ok (.several vs) : Result Given) >>= _)
    dsimp only
    split
    · exact .bind_error rfl
    · cases found : b.query.resolve column with
      | error e =>
        rw [found] at resolved
        exact .bind_error resolved
      | ok c =>
        rw [found] at resolved
        exact .bind_ok resolved
          (valuesFor_follows (fun _ => addChecked_keepsTable _) (h.resolve found) vs)

/-! ### Relations -/

variable {pattern : Option String → Checked Pattern}

theorem constrain_identity (parent : String) {v : Value} (some : v.isNull = false) :
    constrain parent (.text "id") v = (do
      ask .grammar "get_id_replacement"
      ask .bindings "bind"
      let n ← Exec.ofResult (identity v)
      .some <$> bind (identityName ("id(" ++ parent ++ ")")) (.int n) .pattern) := by
  cases v with
  | null => cases some
  | _ => rfl

theorem constrain_takes (parent : String) (fit : ∀ v, fits v → v.isNull = false) :
    Takes (fun v => constrain parent (.text "id") v >>= fun binding => addPattern (pattern binding))
      Given.ofValue fits b .pattern := by
  refine ⟨do
    b.query.ask .grammar "get_id_replacement"
    b.query.ask .bindings "bind"
    return identityName ("id(" ++ parent ++ ")"), .ok (), fun v h => ?_⟩
  have table : (ask .bindings "bind").outcome b = (b.query.ask .bindings "bind", b) := rfl
  have grammar : (ask .grammar "get_id_replacement").outcome b =
    (b.query.ask .grammar "get_id_replacement", b) := rfl
  dsimp only
  rw [constrain_identity parent (fit v h), bind_assoc]
  cases first : b.query.ask .grammar "get_id_replacement" with
  | error e =>
    rw [first] at grammar
    exact .bind_error grammar
  | ok u =>
    rw [first] at grammar
    refine .bind_ok grammar ?_
    rw [bind_assoc]
    cases second : b.query.ask .bindings "bind" with
    | error e =>
      rw [second] at table
      exact .bind_error table
    | ok u =>
      rw [second] at table
      refine .bind_ok table ?_
      rw [bind_assoc]
      show Follows _ _ _ (do
        let x ← (identity v).map Value.int
        return (identityName ("id(" ++ parent ++ ")"), x) : Result (String × Value))
      cases read : identity v with
      | error e => exact .bind_error rfl
      | ok n =>
        refine .bind_ok rfl ?_
        have bound : Follows (bind (identityName ("id(" ++ parent ++ ")")) (.int n) .pattern >>=
            fun name => addPattern (pattern (.some name))) b .pattern _ :=
          bind_follows (fun _ => addPattern_keepsTable _) _ _
        rw [second] at bound
        rw [map_eq_pure_bind, bind_assoc]
        simp only [pure_bind]
        exact bound

theorem relation_takes (fit : ∀ v, fits v → v.isNull = false)
    (parent related placeholder relationship direction boolean : Value) :
    Takes (fun v => relation parent related placeholder relationship (.text "id") v direction boolean)
      Given.ofValue fits b .pattern :=
  .after (.parentNode parent) fun node _ _ => .after (.needList .patterns) fun _ _ _ =>
    .after (.readLabels related) fun _ _ _ => .after (.ofResult _) fun _ _ _ =>
      .after (.ofResult _) fun _ _ _ => constrain_takes node.placeholder fit

theorem anyRelation_takes (fit : ∀ v, fits v → v.isNull = false)
    (parent placeholder direction boolean relationship : Value) :
    Takes (fun v => anyRelation parent placeholder (.text "id") v direction boolean relationship)
      Given.ofValue fits b .pattern :=
  .after (.parentNode parent) fun node _ _ => .after (.needList .patterns) fun _ _ _ =>
    .after (.ofResult _) fun _ _ _ => constrain_takes node.placeholder fit

end Build

end GraphQuery
