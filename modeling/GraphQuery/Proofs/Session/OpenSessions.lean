import GraphQuery.Proofs.Session.Bookkeeping

/-! # The books on sessions

A connection opens a session when it needs one, and closes it when it disconnects.  Whatever an activity
does on a connection that had none, with whatever the server refuses (`Channel.Vacant.sessions_balanced`):

* the sessions that were handed out are those that have been closed, and the one that the connection holds
  if it holds one;
* nothing is asked of a session after it has been closed, and it is not closed again;
* after a disconnection only sessions and transactions are used that are handed out later.

`Channel.Accounts c d` is what holds of the sessions in a later state `d` of a connection `c` without one.
It is kept by each part of a call, with one lemma for each of them; `Channel.Follows` adds what is known of
transactions. -/

namespace GraphQuery

open Exec

/-! ### Sessions in events -/

/-- The session that is closed. -/
def Event.closed? : Event → Option Nat
  | .sessionClosed n => some n
  | _ => none

/-- The session that something is asked of: to run a statement, to begin a transaction, or to close. -/
def Event.used? : Event → Option Nat
  | .statementRun (.session n) _ _ | .writeExecuted n | .transactionBegun n | .sessionClosed n => some n
  | _ => none

theorem Event.used_of_closed {e : Event} {n : Nat} (h : e.closed? = some n) : e.used? = some n := by
  cases e <;> simp_all [closed?, used?]

/-- How often sessions are closed. -/
def closings (es : List Event) : Nat := es.countP fun e => e.closed?.isSome

/-- Nothing is asked of a session after it has been closed. -/
def FinallyClosed (es : List Event) : Prop :=
  es.Pairwise fun e later => ∀ n, e.closed? = some n → later.used? ≠ some n

/-- What the server has seen since an earlier state of a connection. -/
def Channel.since (c d : Channel) : List Event := d.server.events.drop c.server.events.length

namespace Server

/-- No session has been handed out or closed meanwhile, and only this one has been used. -/
def Uses (held : Option Nat) (s s' : Server) : Prop :=
  s'.sessions = s.sessions ∧ ∃ news, s'.events = s.events ++ news ∧
    ∀ e ∈ news, e.closed? = none ∧ ∀ n, e.used? = some n → held = some n

variable {held : Option Nat} {s s' s'' : Server}

theorem Uses.refl (s : Server) : s.Uses held s := ⟨rfl, [], (List.append_nil _).symm, by simp⟩

theorem Uses.trans (h : s.Uses held s') (h' : s'.Uses held s'') : s.Uses held s'' := by
  obtain ⟨same, news, e, used⟩ := h
  obtain ⟨same', news', e', used'⟩ := h'
  refine ⟨same'.trans same, news ++ news', ?_, fun x hx => ?_⟩
  · rw [e', e, List.append_assoc]
  · rcases List.mem_append.mp hx with hx | hx
    · exact used x hx
    · exact used' x hx

/-- An event that asks nothing of a session, or something of the one that is held, but does not close
it. -/
def Spares (held : Option Nat) (e : Event) : Prop :=
  e.closed? = none ∧ ∀ n, e.used? = some n → held = some n

theorem Spares.of_unused {e : Event} (h : e.used? = none) : Spares held e := by
  refine ⟨Option.eq_none_iff_forall_ne_some.mpr fun n closed => ?_, fun n used => ?_⟩
  · cases h.symm.trans (Event.used_of_closed closed)
  · cases h.symm.trans used

theorem Spares.of_held {e : Event} {n : Nat} (open' : e.closed? = none) (h : e.used? = some n) :
    Spares (some n) e := ⟨open', fun _ used => h.symm.trans used⟩

/-- Exactly this has happened, and no session has been handed out. -/
structure Adds (s : Server) (es : List Event) (s' : Server) : Prop where
  events : s'.events = s.events ++ es
  sessions : s'.sessions = s.sessions

theorem Adds.of_same (events : s'.events = s.events) (sessions : s'.sessions = s.sessions) :
    s.Adds [] s' := ⟨by rw [events, List.append_nil], sessions⟩

theorem Adds.uses {es : List Event} (h : s.Adds es s') (spared : ∀ e ∈ es, Spares held e) :
    s.Uses held s' := ⟨h.sessions, es, h.events, spared⟩

theorem request_adds (kind : Request) (e : Event) :
    (request kind e).Ends s (fun _ => s.Adds [e]) (s.Adds [e]) := by
  have answered (s' : Server) : ((answer kind).outcome s').2.events = s'.events ∧
      ((answer kind).outcome s').2.sessions = s'.sessions := by
    unfold answer
    rw [outcome_ofOutcome]
    split
    · split <;> exact ⟨rfl, rfl⟩
    · exact ⟨rfl, rfl⟩
  refine .bind (.of_modify ?_)
  have same := answered { s with events := s.events ++ [e] }
  exact .of_outcome rfl (fun _ _ => ⟨same.1, same.2⟩) fun _ _ => ⟨same.1, same.2⟩

theorem note_uses {e : Event} (h : Spares held e) : (note e).Maintains (s.Uses held) :=
  .of_modify fun s' uses => by
    have added : s'.Adds [e] { s' with events := s'.events ++ [e] } := ⟨rfl, rfl⟩
    exact uses.trans (added.uses (by simpa using h))

theorem request_uses (kind : Request) {e : Event} (h : Spares held e) :
    (request kind e).Maintains (s.Uses held) := by
  have spared : ∀ x ∈ [e], Spares held x := by simpa using h
  exact .of_ends fun _ uses => (request_adds kind e).imp (fun _ _ added => uses.trans (added.uses spared))
    fun _ added => uses.trans (added.uses spared)

theorem newTransaction_uses : newTransaction.Maintains (s.Uses held) :=
  Maintains.of_get.bind fun _ => Maintains.bind
    (.of_modify fun _ uses => uses.trans ((Adds.of_same rfl rfl).uses (by simp))) fun _ => .of_pure _

theorem run_uses {runner : Runner} (h : ∀ n, runner = .session n → held = some n) (text : Value)
    (ps : Properties) : (run runner text ps).Maintains (s.Uses held) := by
  cases runner with
  | session m =>
    obtain rfl := h m rfl
    exact request_uses .run (.of_held rfl rfl)
  | transaction t => exact request_uses .run (.of_unused rfl)

theorem executeWrite_uses (n : Nat) (text : Value) (ps : Properties) :
    (executeWrite n text ps).Maintains (s.Uses (some n)) := by
  refine (request_uses .executeWrite (.of_held rfl rfl)).bind fun _ => newTransaction_uses.bind fun _ => ?_
  exact run_uses (fun _ other => by cases other) text ps

theorem begin_uses (n : Nat) : (begin n).Maintains (s.Uses (some n)) :=
  (request_uses .begin (.of_held rfl rfl)).bind fun _ => newTransaction_uses

theorem commit_uses (t : Nat) : (commit t).Maintains (s.Uses held) :=
  (request_uses .commit (.of_unused rfl)).discard

theorem rollback_uses (t : Nat) : (rollback t).Maintains (s.Uses held) :=
  (request_uses .rollback (.of_unused rfl)).discard

theorem log_uses (level : LogLevel) (message : String) : (log level message).Maintains (s.Uses held) :=
  note_uses (.of_unused rfl)

theorem withstands_uses : Station.Withstands (s.Uses held) where
  log := log_uses
  openDriver _ _ _ := Maintains.of_get.bind fun _ =>
    (request_uses .openDriver (.of_unused rfl)).bind fun _ => Maintains.bind
      (.of_modify fun _ uses => uses.trans ((Adds.of_same rfl rfl).uses (by simp))) fun _ => .of_pure _
  verify _ := (request_uses .verify (.of_unused rfl)).discard

/-- A session that is handed out has the next number; one that is refused has none. -/
theorem openSession_ends (driver : Nat) (database : Value) : (openSession driver database).Ends s
    (fun n s' => n = s.sessions ∧ s'.sessions = n + 1 ∧
      s'.events = s.events ++ [.sessionOpened driver n database]) (s.Uses none) := by
  refine .bind (.of_get (.bind ((request_adds _ _).imp (fun _ s' added => ?_) fun s' added => ?_)))
  · exact .bind (.of_modify (.of_pure ⟨rfl, rfl, added.events⟩))
  · refine added.uses fun e he => ?_
    obtain rfl := List.mem_singleton.mp he
    exact .of_unused rfl

/-- A session that is closed has been closed even if that fails. -/
theorem closeSession_adds (n : Nat) :
    (closeSession n).Ends s (fun _ => s.Adds [.sessionClosed n]) (s.Adds [.sessionClosed n]) :=
  .discard (request_adds ..)

end Server

namespace Channel

/-! ### What is known of sessions -/

variable {c d : Channel}

/-- A later state of a connection that had no session: each session that was handed out meanwhile has
been closed, or is held. -/
structure Accounts (c d : Channel) : Prop where
  events : d.server.events = c.server.events ++ c.since d
  handedOut : d.server.sessions =
    c.server.sessions + closings (c.since d) + if d.connection.client.isSome then 1 else 0
  used : ∀ e ∈ c.since d, ∀ n, e.used? = some n → c.server.sessions ≤ n ∧ n < d.server.sessions
  closed : FinallyClosed (c.since d)
  held : ∀ x, d.connection.client = some x → ∃ n, x = .on (.session n) ∧ c.server.sessions ≤ n ∧
    n < d.server.sessions ∧ ∀ e ∈ c.since d, e.closed? ≠ some n
  inTransaction : d.InTransaction

theorem since_of_events {es : List Event} (h : d.server.events = c.server.events ++ es) :
    c.since d = es := by
  rw [since, h, List.drop_left]

theorem Accounts.refl (none : c.connection.client = none) (inTransaction : c.InTransaction) :
    c.Accounts c := by
  have nothing : c.since c = [] := since_of_events (List.append_nil _).symm
  refine ⟨?_, ?_, ?_, ?_, ?_, inTransaction⟩
  · rw [nothing, List.append_nil]
  · rw [nothing, none]
    rfl
  · rw [nothing]
    exact fun _ h => (List.not_mem_nil h).elim
  · rw [nothing]
    exact .nil
  · rw [none]
    exact fun _ h => (Option.some_ne_none _ h.symm).elim

/-- Only the server, what statements run on and the transaction matter. -/
theorem Accounts.congr (h : c.Accounts d) {d' : Channel} (server : d'.server = d.server)
    (client : d'.connection.client = d.connection.client) (inTransaction : d'.InTransaction) :
    c.Accounts d' := by
  have same : c.since d' = c.since d := by rw [since, since, server]
  refine ⟨?_, ?_, ?_, ?_, ?_, inTransaction⟩
  · rw [same, server]
    exact h.events
  · rw [same, server, client]
    exact h.handedOut
  · rw [same, server]
    exact h.used
  · rw [same]
    exact h.closed
  · rw [same, server, client]
    exact h.held

theorem Accounts.since_append (h : c.Accounts d) (d' : Channel) {es : List Event}
    (events : d'.server.events = d.server.events ++ es) :
    d'.server.events = c.server.events ++ (c.since d ++ es) ∧ c.since d' = c.since d ++ es := by
  have all : d'.server.events = c.server.events ++ (c.since d ++ es) := by
    rw [events, h.events, List.append_assoc]
  exact ⟨all, since_of_events all⟩

theorem closings_append (es es' : List Event) : closings (es ++ es') = closings es + closings es' :=
  List.countP_append ..

theorem closings_of_spared {held : Option Nat} {es : List Event} (h : ∀ e ∈ es, Server.Spares held e) :
    closings es = 0 := by
  refine List.countP_eq_zero.mpr fun e he => ?_
  rw [(h e he).1]
  simp

/-- More happens to the session that is held, and only to that one; afterwards it is held still, or a new
one is. -/
theorem Accounts.extended (h : c.Accounts d) {d' : Channel} {es : List Event}
    (events : d'.server.events = d.server.events ++ es) (more : d.server.sessions ≤ d'.server.sessions)
    (handedOut : d'.server.sessions = c.server.sessions + (closings (c.since d) + closings es) +
      if d'.connection.client.isSome then 1 else 0)
    (used : ∀ e ∈ es, ∀ n, e.used? = some n → d.connection.client = some (.on (.session n)))
    (closed : FinallyClosed es)
    (held : ∀ x, d'.connection.client = some x → ∃ n, x = .on (.session n) ∧
      (d.connection.client = some x ∨ n = d.server.sessions ∧ n < d'.server.sessions) ∧
      ∀ e ∈ es, e.closed? ≠ some n)
    (inTransaction : d'.InTransaction) : c.Accounts d' := by
  obtain ⟨all, since⟩ := h.since_append d' events
  have open' {n : Nat} (holds : d.connection.client = some (.on (.session n))) :
      c.server.sessions ≤ n ∧ n < d.server.sessions ∧ ∀ e ∈ c.since d, e.closed? ≠ some n := by
    obtain ⟨m, same, known⟩ := h.held _ holds
    cases same
    exact known
  have still {n : Nat} (before : ∀ e ∈ c.since d, e.closed? ≠ some n)
      (after : ∀ e ∈ es, e.closed? ≠ some n) :
      ∀ e ∈ c.since d', e.closed? ≠ some n := by
    rw [since]
    exact List.forall_mem_append.mpr ⟨before, after⟩
  refine ⟨?_, ?_, ?_, ?_, ?_, inTransaction⟩
  · rw [since]
    exact all
  · rw [since, closings_append]
    exact handedOut
  · rw [since]
    intro e he n uses
    rcases List.mem_append.mp he with he | he
    · exact ⟨(h.used e he n uses).1, Nat.lt_of_lt_of_le (h.used e he n uses).2 more⟩
    · obtain ⟨least, most, -⟩ := open' (used e he n uses)
      exact ⟨least, Nat.lt_of_lt_of_le most more⟩
  · rw [since]
    exact List.pairwise_append.mpr
      ⟨h.closed, closed, fun e he later hl n closes uses => (open' (used later hl n uses)).2.2 e he closes⟩
  · intro x found
    obtain ⟨n, rfl, before | ⟨rfl, most⟩, lasting⟩ := held x found
    · obtain ⟨least, most, before⟩ := open' before
      exact ⟨n, rfl, least, Nat.lt_of_lt_of_le most more, still before lasting⟩
    · refine ⟨_, rfl, ?_, most, still (fun e he closes => ?_) lasting⟩
      · have count := h.handedOut
        omega
      · exact Nat.lt_irrefl _ (h.used e he _ (Event.used_of_closed closes)).2

theorem Accounts.uses (h : c.Accounts d) {held : Option Nat} {s : Server} (uses : d.server.Uses held s)
    (own : ∀ n, held = some n → d.connection.client = some (.on (.session n))) :
    c.Accounts { d with server := s } := by
  obtain ⟨sessions, es, events, spared⟩ := uses
  have lasting (e : Event) (he : e ∈ es) (n : Nat) : e.closed? ≠ some n := by
    rw [(spared e he).1]
    exact (Option.some_ne_none n).symm
  refine h.extended events (Nat.le_of_eq sessions.symm) ?_
    (fun e he n used => own n ((spared e he).2 n used)) ?_ (fun x found => ?_) h.inTransaction
  · rw [closings_of_spared spared]
    exact sessions.trans h.handedOut
  · exact List.pairwise_of_forall_mem_list fun e he _ _ n closes => (lasting e he n closes).elim
  · obtain ⟨n, same, -⟩ := h.held x found
    exact ⟨n, same, Or.inl found, fun e he => lasting e he n⟩

theorem Accounts.opened (h : c.Accounts d) {s : Server} {e : Event}
    (sessions : s.sessions = d.server.sessions + 1) (events : s.events = d.server.events ++ [e])
    (unused : e.used? = none) (free : d.connection.client = none) : c.Accounts { d with
      connection := { d.connection with client := some (.on (.session d.server.sessions)) }
      server := s } := by
  have spared : ∀ x ∈ [e], Server.Spares none x := by simpa using Server.Spares.of_unused unused
  have count := h.handedOut
  rw [free] at count
  refine h.extended events (sessions ▸ Nat.le_succ _) ?_ (fun x hx n used => ?_)
    (List.pairwise_singleton ..) (fun x found => ?_) h.inTransaction
  · rw [closings_of_spared spared]
    show s.sessions = _
    rw [sessions, count]
    rfl
  · cases (spared x hx).2 n used
  · refine ⟨_, (Option.some.inj found).symm, Or.inr ⟨rfl, ?_⟩, fun x hx => ?_⟩
    · exact sessions ▸ Nat.lt_succ_self _
    · rw [(spared x hx).1]
      exact (Option.some_ne_none _).symm

theorem Accounts.closing (h : c.Accounts d) {s : Server} {n : Nat}
    (adds : d.server.Adds [.sessionClosed n] s) (held : d.connection.client = some (.on (.session n)))
    {connection : Connection} (gone : connection.client = none) (free : connection.transaction = none) :
    c.Accounts { d with connection, server := s } := by
  have count := h.handedOut
  rw [held] at count
  refine h.extended adds.events (Nat.le_of_eq adds.sessions.symm) ?_ (fun x hx k used => ?_)
    (List.pairwise_singleton ..) (fun x found => ?_) fun x found => ?_
  · rw [gone]
    show s.sessions = _
    rw [adds.sessions, count]
    rfl
  · obtain rfl := List.mem_singleton.mp hx
    obtain rfl := Option.some.inj used
    exact held
  · exact (Option.some_ne_none x (found.symm.trans gone)).elim
  · exact (Option.some_ne_none x (found.symm.trans free)).elim

/-! ### Parts of calls -/

variable {α : Type}

theorem change_accounts {f : Connection → Connection} (client : ∀ k, (f k).client = k.client)
    (transaction : ∀ k, (f k).transaction = k.transaction) : (change f).Maintains (c.Accounts) :=
  .of_modify fun _ h => h.congr rfl (client _) fun x found => h.inTransaction x (transaction _ ▸ found)

theorem ask_accounts (h : c.Accounts d) (held : Option Nat) {step : Exec Server α}
    (own : ∀ n, held = some n → d.connection.client = some (.on (.session n)))
    (uses : step.Maintains (d.server.Uses held)) :
    (ask step).Ends d (fun _ => c.Accounts) (c.Accounts) :=
  ask_ends ((uses.ends (.refl _)).imp (fun _ _ used => h.uses used own) fun _ used => h.uses used own)

theorem ask_spares {step : Exec Server α} (uses : ∀ s, step.Maintains (Server.Uses none s)) :
    (ask step).Maintains (c.Accounts) :=
  .of_ends fun d h => ask_accounts h none (fun _ other => by cases other) (uses d.server)

theorem connect_accounts (h : c.Accounts d) : (onStation Station.connect).Ends d
    (fun _ d' => c.Accounts d' ∧ d'.connection = d.connection) (c.Accounts) := by
  have withstands : Station.Withstands (d.server.Uses none) := Server.withstands_uses
  have uses := Station.connect_maintains withstands ⟨d.engine, d.server⟩ (.refl _)
  have after : c.Accounts ((onStation Station.connect).outcome d).2 :=
    (h.uses uses fun _ other => by cases other).congr rfl rfl h.inTransaction
  exact .of_outcome rfl (fun _ _ => ⟨after, rfl⟩) fun _ _ => after

theorem openSession_accounts (h : c.Accounts d) (free : d.connection.client = none) (database : Value) :
    (onStation (Station.openSession database)).Ends d
      (fun n d' => c.Accounts
        { d' with connection := { d'.connection with client := some (.on (.session n)) } })
      (c.Accounts) := by
  refine .within (.bind (.of_get (.bind (.ofResult (fun driver _ => ?_) ?_))))
  · refine .within ((Server.openSession_ends driver _).imp (fun n s opened => ?_) fun s refused => ?_)
    · obtain ⟨rfl, sessions, events⟩ := opened
      exact h.opened sessions events rfl free
    · exact h.uses refused fun _ other => by cases other
  · exact h

/-- What statements run on is the session that is held afterwards. -/
theorem client_accounts (h : c.Accounts d) : client.Ends d
    (fun x d' => c.Accounts d' ∧ ∃ n, x = .on (.session n) ∧ d'.connection.client = some x)
    (c.Accounts) := by
  unfold client
  refine .bind (.of_get ?_)
  dsimp only
  cases found : d.connection.client with
  | some x =>
    obtain ⟨n, same, -⟩ := h.held x found
    exact .of_pure ⟨h, n, same, found⟩
  | none =>
    refine .bind (.ofResult (fun _ _ => ?_) h)
    refine .bind ((connect_accounts h).imp (fun _ d₁ ⟨connected, same⟩ => ?_) fun _ => id)
    refine .bind (.ofResult (fun _ _ => ?_) connected)
    refine .bind ((openSession_accounts connected (same ▸ found) _).imp (fun n d₂ opened => ?_) fun _ => id)
    exact .bind (change_ends (.of_pure ⟨opened, n, rfl, rfl⟩))

theorem sessionFor_accounts (h : c.Accounts d) (action : String) : (sessionFor action).Ends d
    (fun n d' => c.Accounts d' ∧ d'.connection.client = some (.on (.session n))) (c.Accounts) := by
  refine .bind ((client_accounts h).imp (fun x d' ⟨accounts, n, same, held⟩ => ?_) fun _ => id)
  subst same
  exact .of_ok ⟨accounts, held⟩

theorem runOn_accounts (h : c.Accounts d) {runner : Runner}
    (own : ∀ n, runner = .session n → d.connection.client = some (.on (.session n))) (text : Value)
    (ps : Properties) : (runOn (.on runner) text ps).Ends d (fun _ => c.Accounts) (c.Accounts) := by
  cases runner with
  | session n =>
    have held := own n rfl
    refine .bind (.of_ok (ask_accounts h (some n) (fun m same => ?_)
      (Server.run_uses (fun m same => ?_) text ps)))
    · exact Option.some.inj same ▸ held
    · cases same
      rfl
  | transaction t =>
    exact .bind (.of_ok (ask_accounts h none (fun _ other => by cases other)
      (Server.run_uses (fun _ other => by cases other) text ps)))

theorem read_accounts (text : Value) (ps : Properties) : (read text ps).Maintains (c.Accounts) := by
  refine .of_ends fun d h => .bind (.of_get ?_)
  split
  · next t found =>
    obtain ⟨t, rfl⟩ := h.inTransaction _ found
    exact runOn_accounts h (fun _ other => by cases other) text ps
  · refine .bind ((client_accounts h).imp (fun x d' ⟨accounts, n, same, held⟩ => ?_) fun _ => id)
    subst same
    exact runOn_accounts accounts (fun m same => by cases same; exact held) text ps

theorem write_accounts (text : Value) (ps : Properties) : (write text ps).Maintains (c.Accounts) := by
  refine .of_ends fun d h => .bind (.of_get ?_)
  split
  · next t found =>
    obtain ⟨t, rfl⟩ := h.inTransaction _ found
    exact runOn_accounts h (fun _ other => by cases other) text ps
  · refine .bind ((sessionFor_accounts h _).imp (fun n d' ⟨accounts, held⟩ => ?_) fun _ => id)
    exact ask_accounts accounts (some n) (fun m same => Option.some.inj same ▸ held)
      (Server.executeWrite_uses n text ps)

theorem statement_accounts (s : Statement) : s.run.Maintains (c.Accounts) :=
  statement_maintains (fun _ _ _ h => h.congr rfl rfl h.inTransaction) read_accounts write_accounts s

/-! ### Transactions and letting go -/

theorem count_accounts (step : Int) : (count step).Maintains (c.Accounts) :=
  Maintains.of_get.bind fun _ => (Maintains.ofResult _).bind fun _ =>
    change_accounts (fun _ => rfl) fun _ => rfl

theorem logStep_accounts (message : String) : (logStep message).Maintains (c.Accounts) :=
  ask_spares fun _ => Server.log_uses _ _

theorem openTransaction_accounts (h : c.Accounts d) : openTransaction.Ends d
    (fun held d' => c.Accounts d' ∧ ∃ t, held = some (.on (.transaction t))) (c.Accounts) := by
  refine .bind ((sessionFor_accounts h _).imp (fun n d₁ ⟨accounts, held⟩ => ?_) fun _ => id)
  refine .bind ((ask_accounts accounts (some _) (fun m same => Option.some.inj same ▸ held)
    (Server.begin_uses n)).imp (fun t d₂ begun => ?_) fun _ => id)
  exact .of_pure ⟨begun, t, rfl⟩

theorem begin_accounts : begin.Maintains (c.Accounts) := by
  refine Maintains.bind ((count_accounts 1).bind fun _ => Maintains.of_get.bind fun _ => .of_pure _)
    fun outermost => .ite (fun _ => ?_) fun _ => .of_pure _
  refine .of_ends fun d h => .bind (.attempt ?_)
  refine (openTransaction_accounts h).imp (fun held d₁ ⟨begun, t, same⟩ => ?_) fun d₁ failed e => ?_
  · subst same
    refine .bind (change_ends ((logStep_accounts _).ends (begun.congr rfl rfl fun x found => ?_)))
    exact ⟨t, (Option.some.inj found).symm⟩
  · exact ((count_accounts (-1)).bind fun _ => .fail _).ends failed

theorem Accounts.released (h : c.Accounts d) {k : Connection} (client : k.client = d.connection.client)
    (free : k.transaction = none) : c.Accounts { d with connection := k } :=
  h.congr rfl client fun x found => (Option.some_ne_none x (found.symm.trans free)).elim

theorem releaseTransaction_accounts : releaseTransaction.Maintains (c.Accounts) :=
  Maintains.of_get.bind fun _ =>
    Maintains.bind (.of_modify fun _ h => h.released rfl rfl) fun _ => .of_pure _

theorem end_accounts {name action message : String} {finish : Nat → Exec Server Unit}
    (uses : ∀ t s, (finish t).Maintains (Server.Uses none s)) (t : Client) :
    (do wrapStep name do ask (finish (← Exec.ofResult (t.transaction action)))
        logStep message : Exec Channel Unit).Maintains (c.Accounts) := by
  refine Maintains.bind (Maintains.bind (Maintains.attempt ?_) fun r => ?_) fun _ => logStep_accounts _
  · exact (Maintains.ofResult _).bind fun t => ask_spares (uses t)
  · cases r with
    | ok a => exact .of_pure a
    | error e => exact .fail _

theorem commit_accounts : commit.Maintains (c.Accounts) := by
  refine Maintains.of_get.bind fun _ => .ite (fun _ => .of_ends fun _ h => .bind (.fail h)) fun _ => ?_
  refine (count_accounts (-1)).bind fun _ => Maintains.of_get.bind fun _ =>
    .ite (fun _ => .of_pure _) fun _ => ?_
  refine releaseTransaction_accounts.bind fun held => ?_
  cases held with
  | none => exact .of_pure _
  | some t => exact end_accounts (fun t _ => Server.commit_uses t) t

theorem rollback_accounts : rollback.Maintains (c.Accounts) := by
  refine Maintains.of_get.bind fun _ => .ite (fun _ => .of_pure _) fun _ => ?_
  refine releaseTransaction_accounts.bind fun held => Maintains.bind (change_accounts ?_ ?_) fun _ => ?_
  · exact fun _ => rfl
  · exact fun _ => rfl
  cases held with
  | none => exact .of_pure _
  | some t => exact end_accounts (fun t _ => Server.rollback_uses t) t

/-- Letting go closes the session that is held, and none is held afterwards even if that fails. -/
theorem disconnect_accounts (h : c.Accounts d) : disconnect.Ends d
    (fun _ d' => c.Accounts d' ∧ d'.connection.client = none)
    fun d' => c.Accounts d' ∧ d'.connection.client = none := by
  refine .bind (.of_get (.bind (change_ends ?_)))
  cases found : d.connection.client with
  | none => exact .of_pure ⟨h.released found.symm rfl, rfl⟩
  | some x =>
    obtain ⟨n, rfl, -⟩ := h.held x found
    refine .bind (.of_ok (ask_ends
      ((Server.closeSession_adds n).imp (fun _ s adds => ?_) fun s adds => ?_)))
    · exact ⟨h.closing adds found rfl rfl, rfl⟩
    · exact ⟨h.closing adds found rfl rfl, rfl⟩

theorem startPretending_accounts : startPretending.Maintains (c.Accounts) := by
  refine Maintains.of_get.bind fun _ => Maintains.bind (change_accounts ?_ ?_) fun _ => .of_pure _
  · exact fun _ => rfl
  · exact fun _ => rfl

theorem stopPretending_accounts (logged : Value) : (stopPretending logged).Maintains (c.Accounts) :=
  change_accounts (fun _ => rfl) fun _ => rfl

/-! ### Transactions -/

/-- A later state in which besides the sessions the transactions are new: the one that is held, and those
that something was asked of. -/
structure Follows (c d : Channel) : Prop extends c.Accounts d where
  settled : d.Settled
  known : c.server.transactions ≤ d.server.transactions
  begun : ∀ t, d.Holds t → c.server.transactions ≤ t
  asked : ∀ e ∈ c.since d, ∀ t, e.asked? = some t → c.server.transactions ≤ t

/-- A connection that is in no transaction and has no session. -/
structure Vacant (c : Channel) : Prop where
  rest : c.AtRest
  client : c.connection.client = none

theorem vacant_facing (script : List (String × List Response)) : (facing script).Vacant :=
  ⟨atRest_facing script, rfl⟩

theorem Vacant.follows (h : c.Vacant) : c.Follows c where
  toAccounts := .refl h.client (Settled.outside h.rest).inTransaction
  settled := .outside h.rest
  known := Nat.le_refl _
  begun _ holds := (Option.some_ne_none _ (holds.symm.trans h.rest.free)).elim
  asked e he := by
    rw [since_of_events (List.append_nil _).symm] at he
    exact (List.not_mem_nil he).elim

theorem Follows.next (h : c.Follows d) {d' : Channel} (accounts : c.Accounts d') (turned : d.Turned d') :
    c.Follows d' := by
  obtain ⟨es, count, turn⟩ := turned
  obtain ⟨news, events, work⟩ := turn.server.events
  have later {t : Nat} (hand : d.IsAtHand count t) : c.server.transactions ≤ t := by
    rcases hand with holds | ⟨rfl, -⟩
    · exact h.begun t holds
    · exact h.known
  refine ⟨accounts, turn.settled, ?_, fun t holds => later (turn.held t holds).1, fun e he t asks => ?_⟩
  · rw [turn.server.transactions]
    exact Nat.le_add_right_of_le h.known
  · rw [(h.toAccounts.since_append _ events).2] at he
    rcases List.mem_append.mp he with he | he
    · exact h.asked e he t asks
    · have member : e ∈ es := by
        rw [← work]
        refine List.mem_filter.mpr ⟨he, ?_⟩
        cases e <;> first | rfl | cases asks
      exact later (turn.asked e member t asks)

/-- What a step keeps that keeps account of the sessions and takes turns with transactions. -/
theorem follows_maintains {step : Exec Channel α} (accounts : step.Maintains c.Accounts)
    (turned : ∀ {d : Channel}, d.Settled → step.Ends d (fun _ => d.Turned) d.Turned) :
    step.Maintains c.Follows := fun d h =>
  h.next (accounts d h.toAccounts) (turned h.settled).after

theorem client_turned (settled : d.Settled) : client.Ends d (fun _ => d.Turned) d.Turned := by
  have quiet {d' : Channel} (linked : d.Linked d') : d.Turned d' := by
    have same := linked.connection
    refine .of_quiet (settled.congr ?_ ?_ linked.onSession) linked.server fun t holds => ?_
    · rw [same]
    · rw [same]
    · rw [Holds, same] at holds
      exact holds
  exact client_linked.imp (fun _ _ linked => quiet linked.1) fun _ => quiet

theorem statement_turned (s : Statement) (settled : d.Settled) :
    s.run.Ends d (fun _ => d.Turned) d.Turned := by
  have turned {d' : Channel} (sent : d.Sent s d') : d.Turned d' := by
    obtain ⟨es, count, -, turn⟩ := sent.turns settled
    exact ⟨es, count, turn⟩
  exact (Statement.sent settled.onSession settled.inTransaction s).imp (fun _ _ => turned) fun _ => turned

/-- After letting go a connection is as it was before its first session. -/
theorem disconnect_vacant (h : c.Follows d) : (disconnect.outcome d).2.Vacant := by
  have becomes := (disconnect_becomes (c := d)).after
  have none := (disconnect_accounts h.toAccounts).imp (fun _ _ => And.right) fun _ => And.right
  exact ⟨becomes.atRest h.settled.onSession, none.after⟩

end Channel

/-! ### Whole courses -/

/-- A call on a connection that opens its sessions itself. -/
inductive Visit where
  | act (a : Action)
  /-- to ask for what statements run on -/
  | client

/-- What a call is answered with. -/
abbrev Visit.Answer : Visit → Type
  | act a => a.Answer
  | client => Client

/-- Makes a call. -/
def Visit.run : (v : Visit) → Exec Channel v.Answer
  | act a => a.run
  | client => Channel.client

open Channel

theorem Visit.run_follows {c : Channel} (v : Visit) : v.run.Maintains c.Follows := by
  cases v with
  | client =>
    refine follows_maintains (.of_ends fun _ h => ?_) client_turned
    exact (client_accounts h).imp (fun _ _ => And.left) fun _ => id
  | act a =>
    cases a with
    | statement s => exact follows_maintains (statement_accounts s) (statement_turned s)
    | begin => exact follows_maintains begin_accounts begin_turned
    | commit => exact follows_maintains commit_accounts commit_turned
    | rollback => exact follows_maintains rollback_accounts rollback_turned
    | disconnect =>
      refine follows_maintains (.of_ends fun _ h => ?_) disconnect_turned
      exact (disconnect_accounts h).imp (fun _ _ => And.left) fun _ => And.left

/-- What a course keeps that started at `c`: every state follows on it, and on every state without a
session in between. -/
structure Audited (c : Channel) (k : Course Visit) : Prop where
  now : c.Follows k.channel
  after : ∀ e ∈ k.episodes, c.Follows e.after
  vacant : ∀ e ∈ k.episodes, e.mark = .act (.act .disconnect) → e.after.Vacant
  anew : k.episodes.Pairwise fun d e => d.after.Vacant → d.after.Follows e.after
  going : ∀ d ∈ k.episodes, d.after.Vacant → d.after.Follows k.channel

namespace Audited

variable {c : Channel} {α : Type}

theorem of_vacant (h : c.Vacant) : Audited c ⟨c, []⟩ where
  now := h.follows
  after _ he := (List.not_mem_nil he).elim
  vacant _ he := (List.not_mem_nil he).elim
  anew := .nil
  going _ hd := (List.not_mem_nil hd).elim

theorem step_part {mark : Mark Visit} {step : Exec Channel α}
    (keeps : ∀ c : Channel, step.Maintains c.Follows)
    (vacant : mark = .act (.act .disconnect) → ∀ d, c.Follows d → (step.outcome d).2.Vacant) :
    (step.within (Course.part mark)).Maintains (Audited c) := by
  refine .within fun k h => ?_
  have now := keeps c _ h.now
  refine ⟨now, fun e he => ?_, fun e he => ?_, ?_, fun d hd free => ?_⟩
  · rcases List.mem_append.mp he with he | he
    · exact h.after e he
    · obtain rfl := List.mem_singleton.mp he
      exact now
  · rcases List.mem_append.mp he with he | he
    · exact h.vacant e he
    · obtain rfl := List.mem_singleton.mp he
      exact fun marked => vacant marked _ h.now
  · refine List.pairwise_append.mpr ⟨h.anew, List.pairwise_singleton .., fun d hd e he free => ?_⟩
    obtain rfl := List.mem_singleton.mp he
    exact keeps _ _ (h.going d hd free)
  · rcases List.mem_append.mp hd with hd | hd
    · exact keeps _ _ (h.going d hd free)
    · obtain rfl := List.mem_singleton.mp hd
      exact free.follows

theorem run (activity : Activity Visit.Answer) :
    (activity.run Visit.run Course.part).Maintains (Audited c) := by
  refine activity.run_maintains (fun v => step_part (fun _ => v.run_follows) fun marked d h => ?_)
    (step_part (fun _ => follows_maintains begin_accounts begin_turned) nofun)
    (step_part (fun _ => follows_maintains commit_accounts commit_turned) nofun)
    (step_part (fun _ => follows_maintains rollback_accounts rollback_turned) nofun)
    (step_part (fun _ => follows_maintains startPretending_accounts startPretending_turned) nofun)
    fun logged => step_part
      (fun _ => follows_maintains (stopPretending_accounts logged) (stopPretending_turned logged)) nofun
  obtain rfl : v = .act .disconnect := by cases marked; rfl
  exact disconnect_vacant h

end Audited

/-- Whatever an activity does on a connection that had no session, the books on its sessions agree: after
every step the sessions that were handed out are those that have been closed, and one more if one is held;
no session is closed twice, and nothing is asked of one that has been closed; and after a disconnection no
session and no transaction is held, and only those are used that are handed out later. Noting the steps
changes nothing about where the activity ends. -/
theorem Channel.Vacant.sessions_balanced {c : Channel} (vacant : c.Vacant)
    (activity : Activity Visit.Answer) :
    let k := activity.course Visit.run c
    k.channel = ((activity.run Visit.run fun _ => .whole).outcome c).2 ∧
    k.channel.server.events = c.server.events ++ c.since k.channel ∧
    (∀ e ∈ k.episodes, e.after.server.sessions = c.server.sessions + closings (c.since e.after) +
      if e.after.connection.client.isSome then 1 else 0) ∧
    ((c.since k.channel).filterMap Event.closed?).Nodup ∧
    FinallyClosed (c.since k.channel) ∧
    (∀ e ∈ k.episodes, e.mark = .act (.act .disconnect) →
      e.after.connection.client = none ∧ e.after.connection.transaction = none) ∧
    k.episodes.Pairwise fun d e => d.mark = .act (.act .disconnect) → ∀ x ∈ d.after.since e.after,
      (∀ n, x.used? = some n → d.after.server.sessions ≤ n) ∧
      ∀ t, x.asked? = some t → d.after.server.transactions ≤ t := by
  have h : Audited c (activity.course Visit.run c) :=
    Audited.run activity _ (.of_vacant vacant)
  refine ⟨activity.course_channel Visit.run c, h.now.events, fun e he => (h.after e he).handedOut, ?_,
    h.now.closed, fun e he marked => ?_, ?_⟩
  · refine (List.pairwise_filterMap).mpr (h.now.closed.imp fun final n closes m closes' same => ?_)
    subst same
    exact final n closes (Event.used_of_closed closes')
  · exact ⟨(h.vacant e he marked).client, (h.vacant e he marked).rest.free⟩
  · refine h.anew.imp_of_mem fun hd _ anew marked x hx => ?_
    have follows := anew (h.vacant _ hd marked)
    exact ⟨fun n used => (follows.used x hx n used).1, fun t => follows.asked x hx t⟩

/-- A session whose closing fails is held no longer, one that is refused is not held, and the next
statement runs on another one. -/
theorem Channel.Vacant.sessions_balanced_reopened :
    let f : Failure := ⟨.runtime, "lost"⟩
    let c := Channel.facing [("close", [.failure f]), ("session", [.rows [], .failure f])]
    let k := Activity.course Visit.run (.act (.act (.statement (.select (.text "RETURN 1") .null))) fun _ =>
      .act (.act .disconnect) fun _ => .act .client fun _ =>
        .act (.act (.statement (.insert (.text "CREATE (n)") .null))) fun _ => .finish .null) c
    c.Vacant ∧
    k.episodes.map (fun e => (e.after.server.sessions, closings (c.since e.after),
      e.after.connection.client.isSome)) = [(1, 0, true), (1, 1, false), (1, 1, false), (2, 1, true)] ∧
    (c.since k.channel).filterMap Event.used? = [0, 0, 1] ∧
    FinallyClosed (c.since k.channel) :=
  ⟨vacant_facing _, by decide +kernel, by decide +kernel,
    (sessions_balanced (vacant_facing _) _).2.2.2.2.1⟩

end GraphQuery
