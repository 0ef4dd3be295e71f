import GraphQuery.Proofs.Execution.Pretence
import GraphQuery.Proofs.Session.Replies

/-! # Transactions whose callback fails

A callback of `transaction` may do what it likes before it fails: run statements by itself or by builders,
begin and end transactions, or let go of the session (`Deed`).  Whatever is still held then is rolled
back, and nothing is committed.

The failure of the callback is what the transaction fails with, unless the server refuses to roll back.
Then it is the refusal, and the failure of the callback is lost (`transaction_fails`,
`transaction_fails_refused`). -/

namespace GraphQuery

open Exec

/-- What a callback of `transaction` may do, besides `transaction` and `pretend`: a call that has to do
with transactions, the use of a builder, or a change that leaves transactions and the session alone. -/
inductive Deed where
  | action (a : Action)
  | query (l : LiveQuery) (q : Use)
  | change (f : Connection → Connection)
      (aside : ∀ c, (f c).level = c.level ∧ (f c).transaction = c.transaction ∧ (f c).client = c.client)

namespace Deed

/-- What a deed is answered with. -/
abbrev Answer : Deed → Type
  | action a => a.Answer
  | query _ q => Result q.Answer × LiveQuery
  | change .. => Unit

/-- Does a deed. -/
def run : (d : Deed) → Exec Channel d.Answer
  | action a => a.run
  | query l q => l.onConnection q.run
  | change f _ => Channel.change f

end Deed

namespace Channel

variable {α : Type} {c : Channel}

/-- A step that does as transactions go leaves the connection settled. -/
theorem maintains_settled {step : Exec Channel α}
    (turned : ∀ {c : Channel}, c.Settled → step.Ends c (fun _ => c.Turned) c.Turned) :
    step.Maintains Settled := fun c settled => by
  obtain ⟨es, count, turn⟩ := (turned settled).after
  exact turn.settled

theorem statement_settled (s : Statement) : s.run.Maintains Settled := fun c settled => by
  obtain ⟨es, count, -, turn⟩ :=
    (Statement.sent settled.onSession settled.inTransaction s).after.turns settled
  exact turn.settled

end Channel

open Channel

theorem Deed.run_settled (d : Deed) : d.run.Maintains Settled := by
  cases d with
  | action a =>
    cases a with
    | statement s => exact statement_settled s
    | begin => exact maintains_settled begin_turned
    | commit => exact maintains_settled commit_turned
    | rollback => exact maintains_settled rollback_turned
    | disconnect => exact maintains_settled disconnect_turned
  | query l q =>
    intro c settled
    obtain ⟨c', found, settled'⟩ := q.maintains statement_settled l settled
    show ((q.run.outcome (l.on c)).2.channel.getD c).Settled
    rw [found]
    exact settled'
  | change f aside =>
    exact maintains_settled fun settled =>
      change_turned settled (aside _).1 (aside _).2.1 (aside _).2.2

/-- A callback that is run on a connection, whatever it does. -/
abbrev Activity.onSettled (body : Activity Deed.Answer) : Exec Channel Value :=
  body.run Deed.run fun _ => .whole

theorem Activity.run_settled (body : Activity Deed.Answer) : body.onSettled.Maintains Settled :=
  body.run_maintains_whole Deed.run_settled (maintains_settled begin_turned)
    (maintains_settled commit_turned) (maintains_settled rollback_turned)
    (maintains_settled startPretending_turned) fun logged => maintains_settled (stopPretending_turned logged)

namespace Channel

variable {α : Type} {c c' : Channel}

theorem wrapStep_yields {name : String} {step : Exec Channel α} {r : Result α} {good : Channel → Prop}
    (h : step.Yields c r good) :
    (wrapStep name step).Yields c (r.mapError (.execution (.text name) [])) good := by
  unfold wrapStep
  refine .bind_ok (h.attempt.imp fun c' g => ?_)
  cases r with
  | ok a => exact .of_pure g
  | error cause => exact .ofResult g

/-- What the server says to a rollback, under the name of that step. -/
def rollbackReply (c : Channel) : Result Unit :=
  ((c.server.reply .rollback).map fun _ => ()).mapError (.execution (.text "ROLLBACK") [])

theorem rollback_result {n t : Nat} (level : c.connection.level = .int (n + 1)) (held : c.Holds t) :
    (rollback.outcome c).1 = c.rollbackReply := by
  have inside : isOutside c.connection = false := by
    rw [isOutside_int level, decide_eq_false_iff_not]
    omega
  have held : c.connection.transaction = some (.on (.transaction t)) := held
  have asked : (wrapStep "ROLLBACK" (ask (Server.rollback t))).Yields c.released c.rollbackReply
      fun _ => True :=
    wrapStep_yields (.within (.within ((Server.request_yields ..).discard.imp fun _ _ => trivial)))
  -- the log entry behind it cannot fail
  have ended : (wrapStep "ROLLBACK" (ask (Server.rollback t)) >>= fun _ =>
      logStep "Transaction rolled back").Yields c.released (c.rollbackReply.map fun _ => ())
      fun _ => True :=
    asked.bind_map (fun _ _ _ => ⟨_, rfl, trivial⟩) fun _ => id
  have same : (c.rollbackReply.map fun _ => ()) = c.rollbackReply := by
    cases c.rollbackReply <;> rfl
  rw [same] at ended
  have yields : rollback.Yields c c.rollbackReply fun _ => True := by
    unfold rollback
    refine .bind_get ?_
    rw [inside]
    unfold releaseTransaction
    refine .bind_ok (.bind_get (.bind_ok (.of_modify (.of_pure (.bind_ok (.of_modify ?_))))))
    dsimp only
    rw [held]
    exact ended
  exact yields.result

/-- What rolling back makes of a settled connection: it is at rest, and what is held is rolled back. -/
inductive RolledBack (c : Channel) : Result Unit → Channel → Prop
  | nothing : c.AtRest → RolledBack c (.ok ()) c
  | held {t : Nat} {c' : Channel} : c.Holds t → c.server.Sees [.rolledBack t] 0 c'.server →
      RolledBack c c.rollbackReply c'

theorem Settled.rolledBack (settled : c.Settled) :
    c.RolledBack (rollback.outcome c).1 (rollback.outcome c).2 ∧ (rollback.outcome c).2.AtRest := by
  cases settled with
  | outside rest =>
    have quiet : rollback.Yields c (.ok ()) (· = c) := by
      unfold rollback
      refine .bind_get ?_
      rw [isOutside_int rest.level]
      exact .of_pure rfl
    obtain ⟨_, same, rfl⟩ := quiet
    rw [same]
    exact ⟨.nothing rest, rest⟩
  | inside level held onSession =>
    have becomes := (rollback_inside level held).after
    rw [rollback_result level held]
    exact ⟨.held held becomes.server, becomes.atRest onSession⟩

end Channel

/-- A transaction whose callback fails. -/
theorem transaction_outcome {α : Type} {c c₁ c₂ : Channel} {body : Exec Channel α} {e : Error}
    (begun : Channel.begin.outcome c = (.ok (), c₁)) (failed : body.outcome c₁ = (.error e, c₂)) :
    (transaction .whole body).outcome c = ((Channel.rollback.outcome c₂).1 >>= fun _ => .error e,
      (Channel.rollback.outcome c₂).2) := by
  have done : ((do
      let a ← body
      Channel.commit.within .whole
      return a : Exec Channel α).attempt).outcome c₁ = (.ok (.error e), c₂) := by
    rw [outcome_attempt, outcome_bind, failed]
  have undone : (Channel.rollback.within .whole).outcome c₂ = Channel.rollback.outcome c₂ := rfl
  unfold transaction transactionFrom
  rw [outcome_bind_ok (x := Channel.begin.within .whole) begun, outcome_bind_ok done, outcome_bind,
    undone]
  cases Channel.rollback.outcome c₂ with
  | mk r c₃ => cases r <;> rfl

/-- A transaction that is begun at rest and whose callback fails leaves the connection at rest.  If the
callback has left nothing to end, nothing more happens, and the transaction fails as the callback did.
Otherwise what is held is rolled back and not committed; and the transaction fails as the callback did if
the server agrees to that, and with the refusal if it does not. -/
theorem transaction_fails {c : Channel} (rest : c.AtRest) (body : Activity Deed.Answer) {e : Error} :
    let c₁ := (Channel.begin.outcome c).2
    let c₂ := (body.onSettled.outcome c₁).2
    let c₃ := ((transaction .whole body.onSettled).outcome c).2
    (Channel.begin.outcome c).1 = .ok () → (body.onSettled.outcome c₁).1 = .error e →
    c₃.AtRest ∧ ∃ rolledBack, c₂.RolledBack rolledBack c₃ ∧
      ((transaction .whole body.onSettled).outcome c).1 = rolledBack >>= fun _ => .error e := by
  intro c₁ c₂ c₃ begun failed
  have settled : c₂.Settled := body.run_settled _ (maintains_settled begin_turned c (.outside rest))
  have started : Channel.begin.outcome c = (.ok (), c₁) := Prod.ext begun rfl
  have stopped : body.onSettled.outcome c₁ = (.error e, c₂) := Prod.ext failed rfl
  have ended := transaction_outcome started stopped
  obtain ⟨rolledBack, rest'⟩ := settled.rolledBack
  have state : c₃ = (Channel.rollback.outcome c₂).2 := congrArg Prod.snd ended
  rw [state, ended]
  exact ⟨rest', _, rolledBack, rfl⟩

/-- A callback that fails in a transaction of its own inside: both are rolled back at once. -/
theorem transaction_fails_inside :
    let c := Channel.facing []
    let inner : Error := .failure ⟨.runtime, "inner"⟩
    let body : Activity Deed.Answer := .act (.action .begin) fun _ => .fail inner
    let c₁ := (Channel.begin.outcome c).2
    let c₂ := (body.onSettled.outcome c₁).2
    let c₃ := ((transaction .whole body.onSettled).outcome c).2
    c.AtRest ∧ (Channel.begin.outcome c).1 = .ok () ∧ (body.onSettled.outcome c₁).1 = .error inner ∧
    c₂.connection.level.plainText = "2" ∧
    c₃.AtRest ∧ ∃ rolledBack, c₂.RolledBack rolledBack c₃ ∧
      ((transaction .whole body.onSettled).outcome c).1 = rolledBack >>= fun _ => .error inner :=
  ⟨atRest_facing _, rfl, rfl, by decide +kernel, transaction_fails (atRest_facing _) _ rfl rfl⟩

/-- A callback that fails after a write, on a server that refuses to roll back: the transaction does not
fail with the failure of the callback. -/
theorem transaction_fails_refused :
    let c := Channel.facing [("rollback", [.failure ⟨.runtime, "lost"⟩])]
    let inner : Error := .failure ⟨.runtime, "inner"⟩
    let body : Activity Deed.Answer :=
      .act (.action (.statement (.change (.text "CREATE (n)") .null))) fun _ => .fail inner
    let raised (r : Result Value) : Except String Unit := (r.map fun _ => ()).mapError (·.text)
    c.AtRest ∧ raised (body.onSettled.outcome (Channel.begin.outcome c).2).1 = .error inner.text ∧
    raised ((transaction .whole body.onSettled).outcome c).1 =
      .error "RuntimeError: lost (Cypher: ROLLBACK, bindings: \x7b\x7d)" :=
  ⟨atRest_facing _, by decide +kernel, by decide +kernel⟩

end GraphQuery
