import GraphQuery.Proofs.Outcome
import GraphQuery.Session.Connection

/-! # What reaches the server

`Server.Sees s es count s'` relates a server to a later state of it: it has seen the events `es`
besides, and has handed out `count` more transactions.  Events of the link alone, such as opening a
session or a log entry, are left out (`Event.isLink`).

There is one lemma for each request.  A connection that has no session yet opens one first; that is
`Channel.Linked`. -/

namespace GraphQuery

/-- Whether an event belongs to the link to the server: it runs no statement, and neither begins nor
ends a transaction. -/
def Event.isLink : Event → Bool
  | .statementRun .. | .writeExecuted _ | .transactionBegun _ | .committed _ | .rolledBack _ => false
  | _ => true

/-- Events without those of the link. -/
def work (es : List Event) : List Event := es.filter fun e => !e.isLink

theorem work_append (es es' : List Event) : work (es ++ es') = work es ++ work es' :=
  List.filter_append ..

namespace Server

/-- The later server has seen these events besides, those of the link apart, and has handed out so many
more transactions. -/
structure Sees (s : Server) (es : List Event) (count : Nat) (s' : Server) : Prop where
  events : ∃ news, s'.events = s.events ++ news ∧ work news = es
  transactions : s'.transactions = s.transactions + count

namespace Sees

variable {s s' s'' : Server} {es es' : List Event} {m n : Nat}

theorem refl (s : Server) : s.Sees [] 0 s := ⟨⟨[], (List.append_nil _).symm, rfl⟩, rfl⟩

theorem trans (h : s.Sees es m s') (h' : s'.Sees es' n s'') : s.Sees (es ++ es') (m + n) s'' := by
  obtain ⟨news, e, w⟩ := h.events
  obtain ⟨news', e', w'⟩ := h'.events
  refine ⟨⟨news ++ news', ?_, ?_⟩, ?_⟩
  · rw [e', e, List.append_assoc]
  · rw [work_append, w, w']
  · rw [h'.transactions, h.transactions, Nat.add_assoc]

theorem after (h : s.Sees [] 0 s') (h' : s'.Sees es n s'') : s.Sees es n s'' := by
  simpa using h.trans h'

theorem before (h : s.Sees es n s') (h' : s'.Sees [] 0 s'') : s.Sees es n s'' := by
  simpa using h.trans h'

end Sees

/-! ### Requests -/

variable {s : Server}

theorem note_sees (e : Event) {good : Unit → Server → Prop} {bad : Server → Prop}
    (h : ∀ s', s.Sees (work [e]) 0 s' → good () s') : (note e).Ends s good bad :=
  .of_modify (h _ ⟨⟨[e], rfl, rfl⟩, rfl⟩)

theorem answer_sees (kind : Request) : (answer kind).Ends s (fun _ => s.Sees [] 0) (s.Sees [] 0) := by
  have same : s.Sees [] 0 ((answer kind).outcome s).2 := by
    unfold answer
    rw [Exec.outcome_ofOutcome]
    split
    · split <;> exact ⟨⟨[], (List.append_nil _).symm, rfl⟩, rfl⟩
    · exact .refl s
  exact .of_outcome rfl (fun _ _ => same) fun _ _ => same

theorem request_sees (kind : Request) (e : Event) :
    (request kind e).Ends s (fun _ => s.Sees (work [e]) 0) (s.Sees (work [e]) 0) := by
  unfold request
  refine .bind (note_sees e fun s' noted => ?_)
  exact (answer_sees kind).imp (fun _ _ => noted.before) fun _ => noted.before

theorem run_sees (runner : Runner) (text : Value) (parameters : Properties) :
    (run runner text parameters).Ends s (fun _ => s.Sees [.statementRun runner text parameters] 0)
      (s.Sees [.statementRun runner text parameters] 0) := request_sees ..

theorem newTransaction_sees {good : Nat → Server → Prop} {bad : Server → Prop}
    (h : ∀ s', s.Sees [] 1 s' → good s.transactions s') : newTransaction.Ends s good bad := by
  unfold newTransaction
  refine .bind (.of_get (.bind (.of_modify (.of_pure (h _ ?_)))))
  exact ⟨⟨[], (List.append_nil _).symm, rfl⟩, rfl⟩

/-- A write that has a transaction of its own, unless the server refuses that. -/
theorem executeWrite_sees (session : Nat) (text : Value) (parameters : Properties) :
    let events := [.writeExecuted session,
      .statementRun (.transaction s.transactions) text parameters]
    (executeWrite session text parameters).Ends s (fun _ => s.Sees events 1) fun s' =>
      s.Sees [.writeExecuted session] 0 s' ∨ s.Sees events 1 s' := by
  unfold executeWrite
  refine .bind ((request_sees _ _).imp (fun _ s₁ asked => .bind ?_) fun _ => Or.inl)
  refine newTransaction_sees fun s₂ numbered => ?_
  have number : s₁.transactions = s.transactions := asked.transactions
  rw [number]
  have before := asked.trans numbered
  exact (run_sees _ text parameters).imp (fun _ _ ran => before.trans ran) fun _ ran =>
    Or.inr (before.trans ran)

theorem begin_sees (session : Nat) : (begin session).Ends s
    (fun t s' => t = s.transactions ∧ s.Sees [.transactionBegun session] 1 s')
    (s.Sees [.transactionBegun session] 0) := by
  unfold begin
  refine .bind ((request_sees _ _).imp (fun _ s₁ asked => ?_) fun _ => id)
  exact newTransaction_sees fun s₂ numbered => ⟨asked.transactions, asked.trans numbered⟩

theorem commit_sees (t : Nat) :
    (commit t).Ends s (fun _ => s.Sees [.committed t] 0) (s.Sees [.committed t] 0) :=
  .discard (request_sees ..)

theorem rollback_sees (t : Nat) :
    (rollback t).Ends s (fun _ => s.Sees [.rolledBack t] 0) (s.Sees [.rolledBack t] 0) :=
  .discard (request_sees ..)

/-! ### The link -/

variable {α : Type}

/-- A step that the server sees nothing of but the link. -/
def Links (step : Exec Server α) : Prop := ∀ s, step.Maintains (Sees s [] 0)

theorem request_links (kind : Request) {e : Event} (link : e.isLink = true) :
    Links (request kind e) := by
  have none : work [e] = [] := by simp [work, link]
  intro s
  refine .of_ends fun s' h => ?_
  have asked := request_sees (s := s') kind e
  rw [none] at asked
  exact asked.imp (fun _ _ => h.before) fun _ => h.before

theorem log_links (level : LogLevel) (message : String) : Links (log level message) := fun _ =>
  .of_ends fun _ h => note_sees _ fun _ noted => h.before noted

theorem verify_links (driver : Nat) : Links (verify driver) := fun s =>
  (request_links .verify rfl s).discard

theorem closeDriver_links (driver : Nat) : Links (closeDriver driver) := fun s =>
  (request_links .closeDriver rfl s).discard

theorem closeSession_links (session : Nat) : Links (closeSession session) := fun s =>
  (request_links .closeSession rfl s).discard

theorem openDriver_links (uri auth : Value) (config : Properties) :
    Links (openDriver uri auth config) := by
  intro s
  unfold openDriver
  refine Exec.Maintains.of_get.bind fun _ => (request_links .openDriver rfl s).bind fun _ => ?_
  exact (Exec.Maintains.of_modify fun _ h => ⟨h.events, h.transactions⟩).bind fun _ => .of_pure _

theorem openSession_links (driver : Nat) (database : Value) : Links (openSession driver database) := by
  intro s
  unfold openSession
  refine Exec.Maintains.of_get.bind fun _ => (request_links .openSession rfl s).bind fun _ => ?_
  exact (Exec.Maintains.of_modify fun _ h => ⟨h.events, h.transactions⟩).bind fun _ => .of_pure _

end Server

namespace Station

variable {α : Type}

/-! ### What connecting keeps -/

/-- What holds of a server whatever an engine does to connect with it: log, open a driver and check it. -/
structure Withstands (inv : Server → Prop) : Prop where
  log : ∀ level message, (Server.log level message).Maintains inv
  openDriver : ∀ uri auth config, (Server.openDriver uri auth config).Maintains inv
  verify : ∀ driver, (Server.verify driver).Maintains inv

section Withstands

variable {inv : Server → Prop}

theorem ask_maintains {step : Exec Server α} (h : step.Maintains inv) :
    (ask step).Maintains fun t => inv t.server := .within fun t ht => h t.server ht

/-- The server does not see changes of the engine. -/
theorem modify_maintains {f : Station → Station} (h : ∀ t, (f t).server = t.server) :
    (modify f : Exec Station Unit).Maintains fun t => inv t.server :=
  .of_modify fun t ht => (h t).symm ▸ ht

variable (h : Withstands inv)

include h

theorem log_maintains (level : LogLevel) (message : String) :
    (log level message).Maintains fun t => inv t.server := ask_maintains (h.log level message)

theorem openDriver_maintains : openDriver.Maintains fun t => inv t.server := by
  unfold openDriver
  exact Exec.Maintains.of_get.bind fun _ => (Exec.Maintains.ofResult _).bind fun _ =>
    ask_maintains (h.openDriver _ _ _)

theorem giveUp_maintains (cause : Error) : (giveUp cause).Maintains fun t => inv t.server := by
  unfold giveUp
  refine Exec.Maintains.bind (modify_maintains ?_) fun _ => Exec.Maintains.of_get.bind fun _ => ?_
  · exact fun _ => rfl
  · exact (log_maintains h _ _).bind fun _ => .of_pure _

theorem startTurn_maintains : startTurn.Maintains fun t => inv t.server := by
  unfold startTurn
  refine Exec.Maintains.of_get.bind fun t => ?_
  dsimp only
  split
  · exact .of_pure _
  · exact (log_maintains h _ _).bind fun _ => .of_pure _

theorem checkDriver_maintains (d : Nat) : (checkDriver d).Maintains fun t => inv t.server := by
  unfold checkDriver
  refine (ask_maintains (h.verify d)).attempt.bind fun verified => ?_
  cases verified with
  | error cause => exact (giveUp_maintains h cause).bind fun _ => .of_pure _
  | ok _ =>
    refine Exec.Maintains.bind (modify_maintains ?_) fun _ => ?_
    · exact fun _ => rfl
    · exact Exec.Maintains.of_get.bind fun _ => (log_maintains h _ _).bind fun _ => .of_pure _

theorem takeTurn_maintains : takeTurn.Maintains fun t => inv t.server := by
  unfold takeTurn
  refine (startTurn_maintains h).bind fun started => .ite (fun _ => ?_) fun _ => .of_pure _
  refine (openDriver_maintains h).attempt.bind fun opened => ?_
  cases opened with
  | error cause => exact (giveUp_maintains h cause).bind fun _ => .of_pure _
  | ok d => exact checkDriver_maintains h d

theorem takeTurns_maintains : ∀ n, (takeTurns n).Maintains fun t => inv t.server
  | 0 => .of_pure _
  | n + 1 => (takeTurn_maintains h).discard.bind fun _ => takeTurns_maintains n

theorem connect_maintains : connect.Maintains fun t => inv t.server := by
  have settle : settleWaiting.Maintains fun t => inv t.server := by
    unfold settleWaiting
    refine Exec.Maintains.of_get.bind fun t => Exec.Maintains.bind (modify_maintains ?_) fun _ => ?_
    · exact fun _ => rfl
    · exact takeTurns_maintains h _
  unfold connect
  refine settle.bind fun _ => (takeTurn_maintains h).bind fun turn => ?_
  cases turn with
  | connected => exact .of_pure _
  | refused e | unanswered e => exact .fail e

end Withstands

/-! ### The link -/

/-- A step of the engine that the server sees nothing of but the link. -/
def Links (step : Exec Station α) : Prop := ∀ s : Server, step.Maintains fun t => s.Sees [] 0 t.server

theorem connect_links : Links connect := fun s => connect_maintains
  ⟨fun level message => Server.log_links level message s,
    fun uri auth config => Server.openDriver_links uri auth config s,
    fun driver => Server.verify_links driver s⟩

theorem openSession_links (database : Value) : Links (openSession database) := by
  intro s
  unfold openSession
  exact Exec.Maintains.of_get.bind fun _ => (Exec.Maintains.ofResult _).bind fun _ =>
    ask_maintains (Server.openSession_links _ _ s)

end Station

end GraphQuery
