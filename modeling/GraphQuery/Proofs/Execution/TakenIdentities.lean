import GraphQuery.Proofs.Builder.IdentityClauses
import GraphQuery.Proofs.Execution.Readings

/-! # Identities that are taken

A node is asked for by its identity in a clause, in finding one and in deleting one.  The last two add a
clause first, so the clause decides what is bound.

* `IdentityPlace.run` : the three ways;
* `IdentityPlace.Taken` : how they end: with integers bound for the identities, or refused;
* `IdentityPlace.taken` : they always end like that. -/

namespace GraphQuery

open GraphQuery.Number GraphQuery.Text GraphQuery.Binding GraphQuery.Cypher Exec

namespace LiveQuery

variable {α β : Type}

/-- A step that leaves the table of the builder alone. -/
def KeepsTable (step : Exec LiveQuery α) : Prop :=
  ∀ table number, step.Maintains fun l => Build.HasTable table number l.builder

theorem KeepsTable.bind {first : Exec LiveQuery β} {next : β → Exec LiveQuery α} (h : KeepsTable first)
    (h' : ∀ a, KeepsTable (next a)) : KeepsTable (first >>= next) := fun table number =>
  (h table number).bind fun a => h' a table number

theorem KeepsTable.discard {step : Exec LiveQuery α} (h : KeepsTable step) :
    KeepsTable (Functor.discard step) := fun table number => (h table number).discard

theorem KeepsTable.of_pure (a : α) : KeepsTable (pure a) := fun _ _ => .of_pure a

theorem build_keepsTable {step : Build α} (h : step.KeepsTable) : KeepsTable (build step) :=
  fun table number => .within fun _ held => h table number _ held

theorem KeepsTable.of_stays {step : Exec LiveQuery α} (h : ∀ l, step.Maintains (Stays l)) :
    KeepsTable step := by
  intro table number l held
  obtain ⟨channel, same⟩ := h l l (.refl l)
  rw [same]
  exact held

theorem fetch_keepsTable (columns : Value) : KeepsTable (fetch columns) := by
  have selected : KeepsTable select := .of_stays fun _ => select_stays
  intro table number
  refine .of_ends fun l held => fetch_ends (fun _ => id) fun used _ => ⟨⟨held.table, held.number⟩, ?_⟩
  intro v _
  refine ((selected table number).ends ?_).imp (fun _ _ left => ?_) fun _ left => ?_
  · exact ⟨held.table, held.number⟩
  · exact ⟨left.table, left.number⟩
  · exact ⟨left.table, left.number⟩

theorem fetchFirst_keepsTable (columns : Value) : KeepsTable (fetchFirst columns) := by
  have limited : Build.KeepsTable (Build.limit (.int 1)) := fun _ _ => .bind (.ofResult _) fun _ =>
    .of_modify fun _ held => ⟨held.table, held.number⟩
  unfold fetchFirst
  exact (build_keepsTable limited).bind fun _ => (fetch_keepsTable columns).bind fun _ => .of_pure _

theorem send_keepsTable {run : (statement bindings : Value) → Exec Channel α} (text : String)
    (written : Properties) : KeepsTable (send run text written) := by
  unfold send
  exact .of_stays fun _ => needChannel_stays.bind fun _ => .bind .of_get fun _ =>
    .bind (.ofResult _) fun _ => onChannel_stays

theorem delete_null_keepsTable : KeepsTable (delete (.value .null)) := by
  have asked : Build.KeepsTable (Build.ask .grammar writerName) := fun _ _ _ => id
  refine KeepsTable.bind (build_keepsTable asked) fun _ => ?_
  refine KeepsTable.bind (fun _ _ => .of_get) fun _ => ?_
  exact KeepsTable.bind (fun _ _ => .ofResult _) fun _ => send_keepsTable _ _

end LiveQuery

/-! ### Places -/

/-- Where the identity of a node is asked for, but for what stands for the identity. -/
inductive IdentityPlace where
  | clause (c : IdentityClause)
  | find (columns : Value)
  | delete

namespace IdentityPlace

/-- The clause that is added. -/
def asks : IdentityPlace → IdentityClause
  | clause c => c
  | find _ | delete => .compared (.text "id") (.text "=") Call.andName

/-- Asks for what stands for the identity. -/
def run : IdentityPlace → Value → Exec LiveQuery Unit
  | clause c, v => LiveQuery.build (c.call v).run
  | find columns, v => discard (LiveQuery.fetchById (.value v) columns)
  | delete, v => discard (LiveQuery.delete (.value v))

/-- What is done when the clause has been added. -/
def rest : IdentityPlace → Exec LiveQuery Unit
  | clause _ => pure ()
  | find columns => discard (LiveQuery.fetchFirst columns)
  | delete => discard (LiveQuery.delete (.value .null))

theorem rest_keepsTable : ∀ p : IdentityPlace, LiveQuery.KeepsTable p.rest
  | clause _ => .of_pure ()
  | find columns => (LiveQuery.fetchFirst_keepsTable columns).discard
  | delete => LiveQuery.delete_null_keepsTable.discard

theorem discard_bind {α β : Type} (first : Exec LiveQuery β) (next : β → Exec LiveQuery α) :
    discard (first >>= next) = first >>= fun a => discard (next a) := by
  have same (step : Exec LiveQuery α) : discard step = step >>= fun _ => pure ⟨⟩ :=
    (bind_pure_comp _ step).symm
  rw [same, bind_assoc]
  exact congrArg _ (funext fun a => (same (next a)).symm)

/-- The clause comes first, unless nothing is to be deleted in particular. -/
theorem run_eq (p : IdentityPlace) {v : Value} (some : v.isNull = false ∨ p ≠ delete) :
    p.run v = LiveQuery.build (p.asks.call v).run >>= fun _ => p.rest := by
  cases p with
  | clause c =>
    have alone (step : Exec LiveQuery Unit) : step >>= (fun _ => pure ()) = step := bind_pure_unit
    exact (alone _).symm
  | find columns => exact discard_bind (LiveQuery.requireIdentity (.value v)) _
  | delete =>
    have given : (!(Operand.value v).isNull) = true := by
      rw [show (Operand.value v).isNull = false from some.resolve_right fun h => h rfl]
      rfl
    show discard (LiveQuery.delete (.value v)) = _
    unfold LiveQuery.delete
    rw [if_pos given]
    exact discard_bind (LiveQuery.requireIdentity (.value v)) _

variable {p : IdentityPlace} {v : Value} {l : LiveQuery}

theorem run_refused (some : v.isNull = false ∨ p ≠ delete) {e : Error} {used : Remains}
    (failed : (p.asks.call v).run.outcome l.builder = (.error e, { l.builder with used })) :
    (p.run v).outcome l = (.error e, { l with builder := { l.builder with used } }) := by
  have built : (LiveQuery.build (p.asks.call v).run).outcome l =
      (.error e, { l with builder := { l.builder with used } }) := by
    unfold LiveQuery.build
    rw [outcome_within, show LiveQuery.builderPart.get l = l.builder from rfl, failed]
    rfl
  rw [run_eq p some, outcome_bind, built]

/-- What follows the clause leaves the table alone. -/
theorem run_hasTable (some : v.isNull = false ∨ p ≠ delete) {table : BindingTable} {number : Nat}
    (held : Build.HasTable table number ((p.asks.call v).run.outcome l.builder).2) :
    Build.HasTable table number ((p.run v).outcome l).2.builder := by
  have ends : (LiveQuery.build (p.asks.call v).run >>= fun _ => p.rest).Ends l
      (fun _ l' => Build.HasTable table number l'.builder)
      fun l' => Build.HasTable table number l'.builder := by
    refine .bind (.of_outcome (outcome_within ..) (fun _ _ => ?_) fun _ _ => held)
    exact (p.rest_keepsTable table number).ends held
  rw [run_eq p some]
  exact ends.after

/-- Why an argument is refused. -/
inductive Refuses (p : IdentityPlace) (l : LiveQuery) (v : Value) (e : Error) : Prop
  /-- it is no list of identities: a mistake, if it can be gone through at all -/
  | argument (h : p.asks.given l.builder.used v = .error e)
    (mistake : (∃ fault, e = .builder fault) ∨ (l.builder.used.useUp v).1.members? = none)
  /-- one of the identities is refused -/
  | value {g : Given} (h : p.asks.given l.builder.used v = .ok g) {w : Value} (member : w ∈ g.values)
    (refused : w.RefusedFor e)
  /-- an integer in its place is refused as well -/
  | anyway (h : ∀ n, ((p.run (p.asks.integers n)).outcome l).1 = .error e)

/-- How a place ends that was given something for an identity. -/
inductive Taken (p : IdentityPlace) (v : Value) (l : LiveQuery) : Result Unit → LiveQuery → Prop
  /-- integers are bound, and nothing else; what follows may fail -/
  | bound {g : Given} {base : String} {x : Value} {r : Result Unit} {l' : LiveQuery}
    (given : p.asks.given l.builder.used v = .ok g) (holds : g.Holds x)
    (table : Build.HasTable (l.builder.table.bind base x p.asks.bucket).2 l.builder.tableNumber
      l'.builder) : Taken p v l r l'
  /-- nothing has changed but what is left of streams -/
  | refused {e : Error} {used : Remains} (reason : p.Refuses l v e) :
    Taken p v l (.error e) { l with builder := { l.builder with used } }
  /-- null asks for no node -/
  | unasked {r : Result Unit} {l' : LiveQuery} (null : v.isNull = true)
    (single : p.asks.isSingle = true)
    (table : Build.HasTable l.builder.table l.builder.tableNumber l'.builder) : Taken p v l r l'

theorem taken_asked (on : p.asks.OnIdentity) (fit : p.asks.Fits v) (l : LiveQuery) :
    p.Taken v l ((p.run v).outcome l).1 ((p.run v).outcome l).2 := by
  have some {w : Value} (fit : p.asks.Fits w) : w.isNull = false ∨ p ≠ delete := by
    cases p with
    | delete => exact Or.inl (fit.2 rfl)
    | _ => exact Or.inr nofun
  obtain ⟨before, ready, follows⟩ := IdentityClause.takes on l.builder
  have planned {w : Value} {g : Given} (fit : p.asks.Fits w)
      (given : p.asks.given l.builder.used w = .ok g) :
      (p.asks.call w).run.Follows l.builder p.asks.bucket (bindingPlan before ready g) := by
    have followed := follows w fit
    rw [given] at followed
    exact followed
  cases given : p.asks.given l.builder.used v with
  | error e =>
    have followed := follows v fit
    rw [given] at followed
    obtain ⟨used, failed⟩ := followed
    rw [run_refused (some fit) failed]
    exact .refused (.argument given (IdentityClause.given_refused given))
  | ok g =>
    have followed := planned fit given
    obtain ⟨base, x, plan, holds⟩ | ⟨e, plan, reason⟩ := bindingPlan_ends before ready g
    · rw [plan] at followed
      exact .bound given holds (run_hasTable (some fit) ⟨followed.1, followed.2⟩)
    · rw [plan] at followed
      obtain ⟨used, failed⟩ := followed
      rw [run_refused (some fit) failed]
      refine .refused ?_
      obtain ⟨w, member, refused⟩ | alike := reason
      · exact .value given member refused
      · refine .anyway fun n => ?_
        obtain ⟨other, y, listed, read⟩ := p.asks.given_integers n l.builder.used
        have refused := planned (p.asks.fits_integers n) listed
        rw [alike other y read] at refused
        obtain ⟨left, failed⟩ := refused
        rw [run_refused (some (p.asks.fits_integers n)) failed]

/-- Wherever the identity of a node is asked for, integers are bound for what is given, or nothing is
changed. -/
theorem taken (on : p.asks.OnIdentity) (accepted : p.asks.Accepts v) (l : LiveQuery) :
    p.Taken v l ((p.run v).outcome l).1 ((p.run v).outcome l).2 := by
  by_cases unasked : p.asks.isSingle = true ∧ v.isNull = true
  · obtain ⟨single, null⟩ := unasked
    refine .unasked null single ?_
    rw [Build.isNull_iff.mp null]
    have kept := IdentityClause.null_keepsTable on single _ _ l.builder ⟨rfl, rfl⟩
    cases p with
    | delete => exact rest_keepsTable delete _ _ l ⟨rfl, rfl⟩
    | clause c => exact run_hasTable (p := clause c) (Or.inr nofun) kept
    | find columns => exact run_hasTable (p := find columns) (Or.inr nofun) kept
  · refine taken_asked on ⟨accepted, fun single => ?_⟩ l
    exact Bool.eq_false_iff.mpr fun null => unasked ⟨single, null⟩

/-- A live query for users. -/
def users : LiveQuery := .afterCalls [.target (.text "User")]

/-- Between a text and bytes, by the name of the label: both are read. -/
theorem taken_between :
    let p : IdentityPlace := .clause (.between (.text "User.id") Call.andName (.bool false))
    let v : Value := .ofList [.text "7", .bytes [57]]
    p.asks.OnIdentity ∧ p.asks.Accepts v ∧
      p.Taken v users ((p.run v).outcome users).1 ((p.run v).outcome users).2 ∧
      ((p.run v).outcome users).2.builder.table.filters =
        [(.text "iduser", .ofList [.int 7, .int 9])] := by
  intro p v
  have split : splitAtFirst '.' (trim "User.id").toList = some ("User".toList, "id".toList) := by decide
  have on : p.asks.OnIdentity := .labelled split
  exact ⟨on, trivial, taken on trivial users, by rfl⟩

/-- 1.9 is no integer, and the node with the identity 1 is deleted for it. -/
theorem delete_fraction :
    let x : Double := .ofIntRatio 19 10
    let ran := (LiveQuery.delete (.value (.double x))).outcome users
    (∀ n, ¬ (Value.double x).Names n) ∧ ran.1.toOption.isSome = true ∧
      ran.2.builder.table.filters = [(.text "iduser", .int 1)] ∧
      LiveQuery.sentTexts ran.2 = ["MATCH (user:User) WHERE id(user) = $iduser " ++
        "DETACH DELETE user RETURN count(user) AS affected"] := by
  intro x ran
  have broken : x.isIntegral = false := by decide +kernel
  have read : Build.identity (.double x) = .ok 1 := Build.identity_eq_ok.mpr
    (Or.inr (Or.inl ⟨x, rfl, by decide +kernel, broken, by decide +kernel⟩))
  have deleted := LiveQuery.delete_outcome (l := users) rfl rfl read
  have bound : ran.2.builder.table.filters = [(.text "iduser", .int 1)] := by
    show ((LiveQuery.delete (.value (.double x))).outcome users).2.builder.table.filters = _
    rw [deleted]
    rfl
  refine ⟨fun n named => ?_, by decide +kernel, bound, by decide +kernel⟩
  have whole := (Value.names_double.mp named).2.1
  rw [broken] at whole
  cases whole

end IdentityPlace

end GraphQuery
