import GraphQuery.Proofs.Session.Requests

/-! # Where statements go

A `Statement` is a call that runs one statement.  `Channel.Routes` lists the ways it can go: in the
transaction that the connection holds, or else in the session if it reads, and in a transaction of its
own if it writes; or it is not sent at all, as when the connection pretends.

`Statement.sent` says that every statement goes one of these ways and changes nothing else about
transactions. -/

namespace GraphQuery

/-- A call that runs a statement. -/
inductive Statement where
  | select (text bindings : Value)
  | selectOne (text bindings : Value)
  | insert (text bindings : Value)
  | change (text bindings : Value)
  | affecting (text bindings : Value)
  | unprepared (text : Value)

namespace Statement

/-- What a statement is answered with. -/
abbrev Answer : Statement → Type
  | select .. | insert .. => List Row
  | selectOne .. => Value
  | affecting .. => Int
  | change .. | unprepared _ => Unit

/-- Runs a statement. -/
def run : (s : Statement) → Exec Channel s.Answer
  | select text bindings => Channel.select text bindings
  | selectOne text bindings => Channel.selectOne text bindings
  | insert text bindings => Channel.insert text bindings
  | change text bindings => Channel.statement text bindings
  | affecting text bindings => Channel.affecting text bindings
  | unprepared text => Channel.unprepared text

/-- The text of a statement. -/
def text : Statement → Value
  | select text _ | selectOne text _ | insert text _ | change text _ | affecting text _
  | unprepared text => text

/-- Whether a statement writes. -/
def writes : Statement → Bool
  | select .. | selectOne .. => false
  | _ => true

/-- The parameters that are sent with a statement. -/
def parameters (c : Channel) : Statement → Result Properties
  | select _ bindings | selectOne _ bindings | insert _ bindings | change _ bindings
  | affecting _ bindings => ((Channel.prepared bindings).outcome c).1
  | unprepared _ => .ok []

end Statement

namespace Channel

variable {c c' c'' : Channel}

/-- Whether what statements run on is a session, if there is anything yet. -/
def OnSession (c : Channel) : Prop :=
  ∀ client, c.connection.client = some client → ∃ n, client = .on (.session n)

/-- Whether what the connection holds for a transaction is one, if it holds anything. -/
def InTransaction (c : Channel) : Prop :=
  ∀ client, c.connection.transaction = some client → ∃ t, client = .on (.transaction t)

/-! ### Opening the session -/

/-- The server has seen some events. Apart from that only the link has changed: the engine, and the
session that has been opened. -/
structure Reaches (c : Channel) (es : List Event) (count : Nat) (c' : Channel) : Prop where
  connection : c'.connection = { c.connection with client := c'.connection.client }
  onSession : c.OnSession → c'.OnSession
  server : c.server.Sees es count c'.server

/-- Only the link has changed. -/
abbrev Linked (c c' : Channel) : Prop := c.Reaches [] 0 c'

theorem Linked.refl (c : Channel) : c.Linked c := ⟨rfl, id, .refl _⟩

theorem Linked.trans (h : c.Linked c') {es : List Event} {count : Nat} (h' : c'.Reaches es count c'') :
    c.Reaches es count c'' := by
  refine ⟨?_, fun s => h'.onSession (h.onSession s), h.server.after h'.server⟩
  rw [h'.connection, h.connection]

theorem Reaches.of_server {es : List Event} {count : Nat} {s : Server}
    (h : c.server.Sees es count s) : c.Reaches es count { c with server := s } := ⟨rfl, id, h⟩

theorem ask_ends {α : Type} {step : Exec Server α} {good : α → Channel → Prop} {bad : Channel → Prop}
    (h : step.Ends c.server (fun a s => good a { c with server := s })
      fun s => bad { c with server := s }) : (ask step).Ends c good bad :=
  .within (.within h)

theorem onStation_linked {α : Type} {step : Exec Station α} (h : Station.Links step) :
    (onStation step).Ends c (fun _ c' => c.Linked c' ∧ c'.connection = c.connection) c.Linked := by
  have seen := h c.server ⟨c.engine, c.server⟩ (.refl _)
  have linked : c.Linked ((onStation step).outcome c).2 := ⟨rfl, id, seen⟩
  exact .of_outcome rfl (fun _ _ => ⟨linked, rfl⟩) fun _ _ => linked

theorem change_ends {f : Connection → Connection} {good : Unit → Channel → Prop}
    {bad : Channel → Prop} (h : good () { c with connection := f c.connection }) :
    (change f).Ends c good bad := .of_modify h

/-- What statements run on is opened if need be. -/
theorem client_linked :
    client.Ends c (fun x c' => c.Linked c' ∧ c'.connection.client = some x) c.Linked := by
  unfold client
  refine .bind (.of_get ?_)
  dsimp only
  cases found : c.connection.client with
  | some x => exact .of_pure ⟨.refl c, found⟩
  | none =>
    refine .bind (.ofResult (fun _ _ => ?_) (.refl c))
    refine .bind ((onStation_linked Station.connect_links).imp (fun _ c₁ h₁ => ?_) fun _ => id)
    refine .bind (.ofResult (fun _ _ => ?_) h₁.1)
    refine .bind ((onStation_linked (Station.openSession_links _)).imp (fun s c₂ h₂ => ?_)
      fun _ h₂ => h₁.1.trans h₂)
    refine .bind (change_ends ?_)
    refine .of_pure ⟨h₁.1.trans (h₂.1.trans ⟨rfl, fun _ x e => ?_, .refl _⟩), rfl⟩
    obtain rfl := Option.some.inj e
    exact ⟨s, rfl⟩

theorem sessionFor_linked (action : String) : (sessionFor action).Ends c
    (fun _ => c.Linked) c.Linked := by
  unfold sessionFor
  exact .bind (client_linked.imp (fun x c' h => .ofResult (fun _ _ => h.1) h.1) fun _ => id)

/-! ### Sending a statement -/

/-- The ways a statement can go, with the events that the server sees and the number of transactions
that it hands out. -/
inductive Routes (c : Channel) (s : Statement) : List Event → Nat → Prop
  /-- it is not sent: the connection pretends, its parameters cannot be prepared, or there is no
  session to run it in -/
  | unsent : (c.connection.isPretending.isTruthy = true ∨ (∃ e, s.parameters c = .error e) ∨
      c.connection.transaction = none) → Routes c s [] 0
  /-- it runs in the transaction that the connection holds -/
  | inside {t : Nat} {ps : Properties} : c.connection.isPretending.isTruthy = false →
      c.connection.transaction = some (.on (.transaction t)) → s.parameters c = .ok ps →
      Routes c s [.statementRun (.transaction t) s.text ps] 0
  /-- it reads in the session -/
  | read {n : Nat} {ps : Properties} : c.connection.isPretending.isTruthy = false →
      c.connection.transaction = none → s.writes = false → s.parameters c = .ok ps →
      Routes c s [.statementRun (.session n) s.text ps] 0
  /-- it would write in a transaction of its own, which the server refuses -/
  | refused {n : Nat} : c.connection.isPretending.isTruthy = false →
      c.connection.transaction = none → s.writes = true → Routes c s [.writeExecuted n] 0
  /-- it writes in a transaction of its own -/
  | write {n : Nat} {ps : Properties} : c.connection.isPretending.isTruthy = false →
      c.connection.transaction = none → s.writes = true → s.parameters c = .ok ps →
      Routes c s [.writeExecuted n,
        .statementRun (.transaction c.server.transactions) s.text ps] 1

/-- What a statement leaves behind. -/
structure Sent (c : Channel) (s : Statement) (c' : Channel) : Prop where
  level : c'.connection.level = c.connection.level
  transaction : c'.connection.transaction = c.connection.transaction
  isPretending : c'.connection.isPretending = c.connection.isPretending
  onSession : c.OnSession → c'.OnSession
  events : ∃ es count, c.Routes s es count ∧ c.server.Sees es count c'.server

theorem Reaches.sent {s : Statement} {es : List Event} {count : Nat} (h : c.Reaches es count c')
    (route : c.Routes s es count) : c.Sent s c' := by
  have same := h.connection
  refine ⟨?_, ?_, ?_, h.onSession, es, count, route, h.server⟩ <;> rw [same]

theorem prepared_outcome (bindings : Value) (c : Channel) :
    (prepared bindings).outcome c = (((prepared bindings).outcome c).1, c) := by
  have same : ((prepared bindings).outcome c).2 = c := by
    have kept : (prepared bindings).Maintains (· = c) := by
      unfold prepared
      split
      · exact Exec.Maintains.of_get.bind fun _ => (Exec.Maintains.ofResult _).bind fun _ =>
          Exec.Maintains.of_get.bind fun _ => .ofResult _
      · exact Exec.Maintains.of_get.bind fun _ => .ofResult _
    exact kept c rfl
  rw [Prod.ext_iff]
  exact ⟨rfl, same⟩

theorem Sent.of_unsent {s : Statement} (h : c.connection.isPretending.isTruthy = true ∨
    (∃ e, s.parameters c = .error e) ∨ c.connection.transaction = none) (linked : c.Linked c') :
    c.Sent s c' := linked.sent (.unsent h)

theorem Sent.logged {s : Statement} (h : c.Sent s c') (log : Value) :
    c.Sent s { c' with connection := { c'.connection with queryLog := log } } :=
  ⟨h.level, h.transaction, h.isPretending, h.onSession, h.events⟩

theorem prepared_ends {bindings : Value} {good : Properties → Channel → Prop} {bad : Channel → Prop}
    (ok : ∀ ps, ((prepared bindings).outcome c).1 = .ok ps → good ps c)
    (error : ∀ e, ((prepared bindings).outcome c).1 = .error e → bad c) :
    (prepared bindings).Ends c good bad :=
  .of_outcome (prepared_outcome bindings c) ok error

theorem logQuery_sent {s : Statement} (text bindings elapsed : Value) (h : c.Sent s c') :
    (logQuery text bindings elapsed).Ends c' (fun _ => c.Sent s) (c.Sent s) := by
  unfold logQuery
  refine .bind (.of_get ?_)
  dsimp only
  split
  · split
    · exact change_ends (h.logged _)
    · exact .fail h
  · exact .of_pure h

/-- Running a statement is to pretend that, or to do the step. -/
theorem run_sent {α : Type} {s : Statement} {text bindings : Value} {pretended : α}
    {step : Exec Channel α} (h : c.connection.isPretending.isTruthy = false →
      step.Ends c (fun _ => c.Sent s) (c.Sent s)) :
    (run text bindings pretended step).Ends c (fun _ => c.Sent s) (c.Sent s) := by
  have tried : (do
      if (← get).connection.isPretending.isTruthy then return pretended
      step : Exec Channel α).Ends c (fun _ => c.Sent s) (c.Sent s) := by
    refine .bind (.of_get ?_)
    split
    · next pretends => exact .of_pure (.of_unsent (Or.inl pretends) (.refl c))
    · next sends => exact h (Bool.not_eq_true _ ▸ sends)
  unfold run wrapFailure
  refine .ensuring (.bind (.attempt (tried.imp (fun a c₁ sent => ?_) fun c₁ sent e => ?_)))
  · exact .of_pure (logQuery_sent _ _ _ sent)
  · have log := logQuery_sent text bindings noTime sent
    exact .bind (prepared_ends (fun _ _ => .fail log) fun _ _ => log)

theorem runOn_sees {r : Runner} (text : Value) (ps : Properties) {good : List Row → Channel → Prop}
    {bad : Channel → Prop} (h : ∀ rows s, c.server.Sees [.statementRun r text ps] 0 s →
      good rows { c with server := s } ∧ bad { c with server := s }) :
    (runOn (.on r) text ps).Ends c good bad := by
  unfold runOn
  refine .bind (.of_ok (ask_ends ((Server.run_sees ..).imp ?_ ?_)))
  · exact fun rows s seen => (h rows s seen).1
  · exact fun s seen => (h [] s seen).2

theorem runInside_sent {s : Statement} {ps : Properties} {x : Client} (inTransaction : c.InTransaction)
    (dry : c.connection.isPretending.isTruthy = false) (held : c.connection.transaction = some x)
    (given : s.parameters c = .ok ps) :
    (runOn x s.text ps).Ends c (fun _ => c.Sent s) (c.Sent s) := by
  obtain ⟨t, rfl⟩ := inTransaction x held
  have sent (u : Server) (seen : c.server.Sees [.statementRun (.transaction t) s.text ps] 0 u) :
      c.Sent s { c with server := u } := (Reaches.of_server seen).sent (.inside dry held given)
  exact runOn_sees _ _ fun _ u seen => ⟨sent u seen, sent u seen⟩

theorem read_sent (s : Statement) {ps : Properties} (onSession : c.OnSession)
    (inTransaction : c.InTransaction) (dry : c.connection.isPretending.isTruthy = false)
    (reads : s.writes = false) (given : s.parameters c = .ok ps) :
    (read s.text ps).Ends c (fun _ => c.Sent s) (c.Sent s) := by
  unfold read
  refine .bind (.of_get ?_)
  cases held : c.connection.transaction with
  | some x => exact runInside_sent inTransaction dry held given
  | none =>
    refine .bind (client_linked.imp (fun x c' h => ?_) fun c' h => .of_unsent (by simp [held]) h)
    obtain ⟨linked, opened⟩ := h
    obtain ⟨n, rfl⟩ := linked.onSession onSession x opened
    have sent (u : Server) (seen : c'.server.Sees [.statementRun (.session n) s.text ps] 0 u) :
        c.Sent s { c' with server := u } :=
      (linked.trans (.of_server seen)).sent (.read dry held reads given)
    exact runOn_sees _ _ fun _ u seen => ⟨sent u seen, sent u seen⟩

/-- A statement that writes goes into the transaction that is held, or into one of its own. -/
theorem write_sent (s : Statement) {ps : Properties}
    (inTransaction : c.InTransaction) (dry : c.connection.isPretending.isTruthy = false)
    (writes : s.writes = true) (given : s.parameters c = .ok ps) :
    (write s.text ps).Ends c (fun _ => c.Sent s) (c.Sent s) := by
  unfold write
  refine .bind (.of_get ?_)
  cases held : c.connection.transaction with
  | some x => exact runInside_sent inTransaction dry held given
  | none =>
    have unsent (c' : Channel) (h : c.Linked c') : c.Sent s c' := .of_unsent (by simp [held]) h
    refine .bind ((sessionFor_linked _).imp (fun n c' linked => ?_) unsent)
    have number : c'.server.transactions = c.server.transactions := linked.server.transactions
    have write := Routes.write (n := n) dry held writes given
    rw [← number] at write
    refine ask_ends ((Server.executeWrite_sees ..).imp (fun _ u seen => ?_) ?_)
    · exact (linked.trans (.of_server seen)).sent write
    · rintro u (seen | seen)
      · exact (linked.trans (.of_server seen)).sent (.refused dry held writes)
      · exact (linked.trans (.of_server seen)).sent write

theorem prepared_sent {α : Type} (s : Statement) {text bindings : Value} {pretended : α}
    {step : Properties → Exec Channel α}
    (given : s.parameters c = ((prepared bindings).outcome c).1)
    (h : c.connection.isPretending.isTruthy = false → ∀ ps, s.parameters c = .ok ps →
      (step ps).Ends c (fun _ => c.Sent s) (c.Sent s)) :
    (run text bindings pretended (prepared bindings >>= step)).Ends c
      (fun _ => c.Sent s) (c.Sent s) := by
  refine run_sent fun dry => .bind (prepared_ends (fun ps e => ?_) fun f e => ?_)
  · exact h dry ps (given.trans e)
  · exact .of_unsent (Or.inr (Or.inl ⟨f, given.trans e⟩)) (.refl c)

theorem select_sent (s : Statement) {text bindings : Value} (onSession : c.OnSession)
    (inTransaction : c.InTransaction) (same : s.text = text) (reads : s.writes = false)
    (given : s.parameters c = ((prepared bindings).outcome c).1) :
    (select text bindings).Ends c (fun _ => c.Sent s) (c.Sent s) := by
  subst same
  exact prepared_sent s given fun dry ps e => read_sent s onSession inTransaction dry reads e

end Channel

open Channel in
/-- Every statement goes one of the ways, and changes nothing else about transactions. -/
theorem Statement.sent {c : Channel} (onSession : c.OnSession) (inTransaction : c.InTransaction)
    (s : Statement) : s.run.Ends c (fun _ => c.Sent s) (c.Sent s) := by
  cases s with
  | select text bindings =>
    exact select_sent (.select text bindings) onSession inTransaction rfl rfl rfl
  | selectOne text bindings =>
    have rows := select_sent (.selectOne text bindings) onSession inTransaction rfl rfl rfl
    exact .bind (rows.imp (fun _ _ sent => .of_pure sent) fun _ => id)
  | insert text bindings =>
    exact prepared_sent (.insert text bindings) rfl fun dry ps given =>
      write_sent (.insert text bindings) inTransaction dry rfl given
  | change text bindings =>
    exact prepared_sent (.change text bindings) rfl fun dry ps given =>
      .discard (write_sent (.change text bindings) inTransaction dry rfl given)
  | affecting text bindings =>
    refine prepared_sent (.affecting text bindings) rfl fun dry ps given => ?_
    have rows := write_sent (.affecting text bindings) inTransaction dry rfl given
    exact .bind (rows.imp (fun rows c' sent => .ofResult (fun _ _ => sent) sent) fun _ => id)
  | unprepared text =>
    exact run_sent fun dry =>
      .discard (write_sent (.unprepared text) inTransaction dry rfl rfl)

/-! ### What every statement keeps -/

namespace Channel

variable {inv : Channel → Prop} {α : Type}

theorem prepared_maintains (bindings : Value) : (prepared bindings).Maintains inv := by
  intro c h
  rw [prepared_outcome]
  exact h

variable (log : ∀ c entries mark, inv c →
  inv { c with connection := { c.connection with queryLog := .list entries mark } })

include log

theorem logQuery_maintains (text bindings elapsed : Value) :
    (logQuery text bindings elapsed).Maintains inv := by
  refine Exec.Maintains.of_get.bind fun _ => .ite (fun _ => ?_) fun _ => .of_pure _
  split
  · exact .of_modify fun c h => log c _ _ h
  · exact .fail _

theorem run_maintains (text bindings : Value) {pretended : α} {step : Exec Channel α}
    (h : step.Maintains inv) : (run text bindings pretended step).Maintains inv := by
  refine Exec.Maintains.ensuring (Exec.Maintains.bind ?_ fun r => ?_)
    (logQuery_maintains log text bindings noTime)
  · exact (Exec.Maintains.of_get.bind fun _ => .ite (fun _ => .of_pure _) fun _ => h).attempt
  · cases r with
    | ok a => exact .of_pure a
    | error cause => exact (prepared_maintains bindings).bind fun _ => .fail _

variable (read : ∀ text ps, (read text ps).Maintains inv) (write : ∀ text ps, (write text ps).Maintains inv)

include read write

/-- What reading, writing and logging keep, every statement keeps. -/
theorem statement_maintains (s : Statement) : s.run.Maintains inv := by
  have reads (text bindings : Value) : (select text bindings).Maintains inv :=
    run_maintains log _ _ ((prepared_maintains _).bind fun _ => read _ _)
  cases s with
  | select text bindings => exact reads text bindings
  | selectOne text bindings => exact (reads text bindings).bind fun _ => .of_pure _
  | insert text bindings =>
    exact run_maintains log _ _ ((prepared_maintains _).bind fun _ => write _ _)
  | change text bindings =>
    exact run_maintains log _ _ ((prepared_maintains _).bind fun _ => (write _ _).discard)
  | affecting text bindings =>
    exact run_maintains log _ _ ((prepared_maintains _).bind fun _ => (write _ _).bind fun _ => .ofResult _)
  | unprepared text => exact run_maintains log _ _ (write _ _).discard

end Channel

end GraphQuery
