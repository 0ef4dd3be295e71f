import GraphQuery.Proofs.Session.Statements
import GraphQuery.Session.Transaction

/-! # How transactions begin and end

Each lemma here says what one step makes of the count of transactions, of the transaction that is held,
and of what the server sees (`Channel.Becomes`): `begin`, `commit` and `rollback`, outside any
transaction and inside one, letting go of the session, and starting and ending to pretend. -/

namespace GraphQuery

namespace Channel

variable {c c' : Channel}

/-- What has become of a connection: its count, the transaction it holds, and what the server has
seen. -/
structure Becomes (c : Channel) (level : Int) (held : Option Client) (es : List Event) (count : Nat)
    (c' : Channel) : Prop where
  level : c'.connection.level = .int level
  held : c'.connection.transaction = held
  isPretending : c'.connection.isPretending = c.connection.isPretending
  onSession : c.OnSession → c'.OnSession
  server : c.server.Sees es count c'.server

/-! ### Counting -/

theorem isOutside_int {connection : Connection} {n : Int} (h : connection.level = .int n) :
    isOutside connection = decide (n = 0) := by
  unfold isOutside
  rw [h, Bool.eq_iff_iff]
  simp [Value.same, numberSame, Value.ratio?, sameRatio]

theorem isDeeper_int {connection : Connection} {n : Int} (h : connection.level = .int n)
    (depth : Int) : isDeeper depth connection = decide (depth < n) := by
  unfold isDeeper
  rw [h, Bool.eq_iff_iff]
  simp only [Value.numeral?, Value.Numeral.isAtMost, Option.any_some, Bool.and_eq_true,
    decide_eq_true_eq, Bool.not_eq_true', decide_eq_false_iff_not]
  omega

theorem count_ends {n : Int} (h : c.connection.level = .int n) (step : Int)
    {good : Unit → Channel → Prop} {bad : Channel → Prop}
    (ok : good () { c with connection := { c.connection with level := .int (n + step) } }) :
    (count step).Ends c good bad := by
  have counted : Result.ofFailure (c.connection.level.plus step) = .ok (.int (n + step)) := by
    rw [h]
    rfl
  unfold count
  refine .bind (.of_get ?_)
  rw [counted]
  exact .bind (.of_ok (change_ends ok))

theorem logStep_ends (message : String) {good : Unit → Channel → Prop} {bad : Channel → Prop}
    (ok : ∀ s, c.server.Sees [] 0 s → good () { c with server := s }) :
    (logStep message).Ends c good bad :=
  ask_ends (Server.note_sees _ ok)

/-! ### Beginning -/

theorem enter_ends {n : Int} (h : c.connection.level = .int n) {good : Bool → Channel → Prop}
    {bad : Channel → Prop} (ok : good (decide (n ≤ 0))
      { c with connection := { c.connection with level := .int (n + 1) } }) :
    enter.Ends c good bad := by
  unfold enter
  refine .bind (count_ends h 1 (.bind (.of_get (.of_pure ?_))))
  have outermost : (!isDeeper 1 { c.connection with level := .int (n + 1) }) = decide (n ≤ 0) := by
    rw [isDeeper_int rfl, Bool.eq_iff_iff]
    simp only [Bool.not_eq_true', decide_eq_false_iff_not, decide_eq_true_eq]
    omega
  rw [outermost]
  exact ok

/-- Inside a transaction, beginning another one only counts. -/
theorem begin_inside {n : Nat} (h : c.connection.level = .int (n + 1)) :
    begin.Ends c (fun _ => c.Becomes (n + 2) c.connection.transaction [] 0) fun _ => False := by
  unfold begin
  refine .bind (enter_ends h ?_)
  have inside : decide ((n : Int) + 1 ≤ 0) = false := by
    rw [decide_eq_false_iff_not]
    omega
  rw [inside]
  exact .of_pure ⟨by simp [Int.add_assoc], rfl, rfl, id, .refl _⟩

theorem openTransaction_reaches : openTransaction.Ends c
    (fun held c' => held = some (.on (.transaction c.server.transactions)) ∧
      ∃ s, c.Reaches [.transactionBegun s] 1 c')
    fun c' => c.Linked c' ∨ ∃ s, c.Reaches [.transactionBegun s] 0 c' := by
  unfold openTransaction
  refine .bind ((sessionFor_linked _).imp (fun s c' linked => ?_) fun _ => Or.inl)
  have number : c'.server.transactions = c.server.transactions := linked.server.transactions
  refine .bind (ask_ends ((Server.begin_sees s).imp (fun t u seen => ?_) fun u seen => ?_))
  · obtain ⟨rfl, seen⟩ := seen
    exact .of_pure ⟨by rw [number], s, linked.trans (.of_server seen)⟩
  · exact Or.inr ⟨s, linked.trans (.of_server seen)⟩

/-- Outside any transaction, one is begun on the server and held, unless the server refuses. -/
theorem begin_outside (h : c.connection.level = .int 0) (free : c.connection.transaction = none) :
    begin.Ends c
      (fun _ c' => ∃ s, c.Becomes 1 (some (.on (.transaction c.server.transactions)))
        [.transactionBegun s] 1 c')
      fun c' => c.Becomes 0 none [] 0 c' ∨ ∃ s, c.Becomes 0 none [.transactionBegun s] 0 c' := by
  unfold begin
  refine .bind (enter_ends h ?_)
  show (openTransaction.attempt >>= takeOver).Ends _ _ _
  -- the count is taken back if the transaction cannot be opened
  have undone {es : List Event} {c' : Channel} (e : Error) (reached : Reaches
      { c with connection := { c.connection with level := .int (0 + 1) } } es 0 c') :
      (takeOver (.error e)).Ends c' (fun _ c' => ∃ s, c.Becomes 1
        (some (.on (.transaction c.server.transactions))) [.transactionBegun s] 1 c')
        (c.Becomes 0 none es 0) := by
    have same := reached.connection
    unfold takeOver
    refine .bind (count_ends (n := 1) (by rw [same]; rfl) (-1) (.fail ?_))
    refine ⟨rfl, ?_, ?_, reached.onSession, reached.server⟩
    · show c'.connection.transaction = none
      rw [same]
      exact free
    · show c'.connection.isPretending = _
      rw [same]
  refine .bind (.attempt (openTransaction_reaches.imp (fun held c' opened => ?_) fun c' failed e => ?_))
  · obtain ⟨rfl, s, reached⟩ := opened
    have same := reached.connection
    refine .bind (change_ends (logStep_ends _ fun u seen => ⟨s, ?_⟩))
    refine ⟨?_, rfl, ?_, reached.onSession, reached.server.before seen⟩
    · show c'.connection.level = _
      rw [same]
      rfl
    · show c'.connection.isPretending = _
      rw [same]
  · rcases failed with linked | ⟨s, reached⟩
    · exact (undone e linked).imp (fun _ _ => id) fun _ => Or.inl
    · exact (undone e reached).imp (fun _ _ => id) fun _ b => Or.inr ⟨s, b⟩

/-! ### Committing -/

theorem commit_outside (h : c.connection.level = .int 0) :
    commit.Ends c (fun _ _ => False) fun c' => c' = c := by
  unfold commit
  refine .bind (.of_get ?_)
  rw [isOutside_int h]
  exact .bind (.fail rfl)

theorem commit_inside {n : Nat} (h : c.connection.level = .int (n + 2)) :
    commit.Ends c (fun _ => c.Becomes (n + 1) c.connection.transaction [] 0) fun _ => False := by
  have inside : decide ((n : Int) + 2 = 0) = false := by
    rw [decide_eq_false_iff_not]
    omega
  have level : (n : Int) + 2 + -1 = n + 1 := by omega
  unfold commit
  refine .bind (.of_get ?_)
  rw [isOutside_int h, inside]
  refine .bind (count_ends h (-1) (.bind (.of_get ?_)))
  rw [isDeeper_int rfl, level, if_pos (by rw [decide_eq_true_eq]; omega)]
  exact .of_pure ⟨rfl, rfl, rfl, id, .refl _⟩

theorem wrapStep_ends {α : Type} {name : String} {step : Exec Channel α} {good : α → Channel → Prop}
    {bad : Channel → Prop} (h : step.Ends c good bad) : (wrapStep name step).Ends c good bad := by
  unfold wrapStep
  exact .bind (.attempt (h.imp (fun _ _ => .of_pure) fun _ failed _ => .fail failed))

/-- The connection that holds no transaction any more. -/
def released (c : Channel) : Channel :=
  { c with connection := { c.connection with level := .int 0, transaction := none } }

/-- A transaction that is not held any more is ended on the server, which may refuse that. -/
theorem ended_ends {name message : String} {e : Event} {step : Exec Server Unit}
    (h : step.Ends c.server (fun _ => c.server.Sees [e] 0) (c.server.Sees [e] 0)) :
    (wrapStep name (ask step) >>= fun _ => logStep message).Ends c.released
      (fun _ => c.Becomes 0 none [e] 0) (c.Becomes 0 none [e] 0) := by
  have ended {u : Server} (seen : c.server.Sees [e] 0 u) :
      c.Becomes 0 none [e] 0 { c.released with server := u } := ⟨rfl, rfl, rfl, id, seen⟩
  refine .bind (wrapStep_ends (ask_ends (h.imp (fun _ u seen => ?_) fun _ => ended)))
  exact logStep_ends _ fun v logged => ended (seen.before logged)

/-- The outermost transaction is committed on the server, and not held any more even if that fails. -/
theorem commit_last {t : Nat} (h : c.connection.level = .int 1)
    (held : c.connection.transaction = some (.on (.transaction t))) :
    commit.Ends c (fun _ => c.Becomes 0 none [.committed t] 0) (c.Becomes 0 none [.committed t] 0) := by
  unfold commit
  refine .bind (.of_get ?_)
  rw [isOutside_int h]
  refine .bind (count_ends h (-1) (.bind (.of_get ?_)))
  rw [isDeeper_int rfl, if_neg (by decide)]
  unfold releaseTransaction
  refine .bind (.bind (.of_get (.bind (change_ends (.of_pure ?_)))))
  dsimp only
  rw [held]
  exact ended_ends (c := c) (Server.commit_sees t)

/-! ### Rolling back -/

theorem rollback_outside (h : c.connection.level = .int 0) :
    rollback.Ends c (fun _ c' => c' = c) fun _ => False := by
  unfold rollback
  refine .bind (.of_get ?_)
  rw [isOutside_int h]
  exact .of_pure rfl

/-- However deep transactions are nested, rolling back ends all of them. -/
theorem rollback_inside {n t : Nat} (h : c.connection.level = .int (n + 1))
    (held : c.connection.transaction = some (.on (.transaction t))) :
    rollback.Ends c (fun _ => c.Becomes 0 none [.rolledBack t] 0)
      (c.Becomes 0 none [.rolledBack t] 0) := by
  have inside : decide ((n : Int) + 1 = 0) = false := by
    rw [decide_eq_false_iff_not]
    omega
  unfold rollback
  refine .bind (.of_get ?_)
  rw [isOutside_int h, inside]
  unfold releaseTransaction
  refine .bind (.bind (.of_get (.bind (change_ends (.of_pure (.bind (change_ends ?_)))))))
  dsimp only
  rw [held]
  exact ended_ends (c := c) (Server.rollback_sees t)

/-! ### Letting go -/

theorem disconnect_becomes : disconnect.Ends c (fun _ => c.Becomes 0 none [] 0)
    (c.Becomes 0 none [] 0) := by
  have gone {u : Server} (seen : c.server.Sees [] 0 u) : c.Becomes 0 none [] 0
      { c with
        connection := { c.connection with client := none, transaction := none, level := .int 0 }
        server := u } := ⟨rfl, rfl, rfl, fun _ _ e => (Option.some_ne_none _ e.symm).elim, seen⟩
  unfold disconnect letGo
  refine .bind (.of_get (.bind (change_ends ?_)))
  split
  · exact ask_ends (((Server.closeDriver_links 0 c.server).ends (.refl _)).imp
      (fun _ _ => gone) fun _ => gone)
  · refine .bind (.ofResult (fun n _ => ?_) (gone (.refl _)))
    exact ask_ends (((Server.closeSession_links n c.server).ends (.refl _)).imp
      (fun _ _ => gone) fun _ => gone)
  · exact .of_pure (gone (.refl _))

end Channel

end GraphQuery
