import GraphQuery.Proofs.Session.Replies

/-! # Opening and closing, turn by turn

A call of `connect` or `close` lets go of the processor while it waits for the server, and keeps the
lock of its engine. `EngineCall.advance` is what a call does up to the next point at which another call
may run. Three turns are a whole call, of `connect` (`EngineCall.completed_connect`) and of `close`
(`EngineCall.completed_close`).

What holds between two turns are the `Books` on the drivers that have been handed out: a driver that
passed its check is kept, by the engine or by the call that closes it, or it has been closed once; one
that did not is never closed. `EngineCall.advance_ends` says that a turn keeps the books and cannot fail. -/

namespace GraphQuery

open Exec

/-! ### Calls -/

/-- Where a call is that holds the lock. -/
inductive EngineWork where
  /-- it is about to open a driver -/
  | opening
  /-- it waits for the server to answer the driver -/
  | verifying (driver : Nat)
  /-- it waits for the driver to be closed -/
  | closing (driver : DriverRef)

/-- A call of `connect` or `close`: it waits for the lock, is at work, or has ended. -/
inductive EngineCall where
  | connect
  | close
  | working (work : EngineWork)
  | connected (outcome : Result Unit)
  | closed (outcome : Result Unit)

namespace EngineCall

/-- What a call is at work on. -/
def work? : EngineCall → Option EngineWork
  | working work => some work
  | _ => none

/-- Whether a call has ended. -/
def isFinished : EngineCall → Bool
  | connected _ | closed _ => true
  | _ => false

/-- How many turns a call has left at most. -/
def turnsLeft : EngineCall → Nat
  | connect => 3
  | close | working .opening => 2
  | working (.verifying _) | working (.closing _) => 1
  | connected _ | closed _ => 0

/-- The next turn of a call. -/
def advance : EngineCall → Exec Station EngineCall
  | connect => do
    if ← Station.startTurn then return working .opening else return connected (.ok ())
  | working .opening => do
    match ← Station.openDriver.attempt with
    | .error cause => return connected (.error (← Station.giveUp cause))
    | .ok d => return working (.verifying d)
  | working (.verifying d) => do return connected (← Station.checkDriver d).result
  | close => do
    match ← Station.releaseDriver with
    | none => return closed (.ok ())
    | some d => return working (.closing d)
  | working (.closing d) => do return closed (← (Station.closeDriver d).attempt)
  | call => return call

/-- Three turns of a call. -/
def completed (call : EngineCall) : Exec Station EngineCall := do
  (← (← call.advance).advance).advance

/-- Three turns of `connect` are an attempt to connect. -/
theorem completed_connect :
    completed connect = do return connected (← Station.takeTurn).result := by
  unfold completed Station.takeTurn
  simp only [advance, bind_assoc]
  congr 1
  funext started
  cases started with
  | false => rfl
  | true =>
    simp only [if_true, pure_bind, bind_assoc]
    congr 1
    funext opened
    cases opened with
    | error cause => simp only [bind_assoc, pure_bind, Station.Turn.result]
    | ok d => simp only [pure_bind]

end EngineCall

/-! ### The server -/

/-- The driver that is closed. -/
def Event.closedDriver? : Event → Option Nat
  | .driverClosed d => some d
  | _ => none

/-- Whether a driver is asked for. -/
def Event.asksDriver : Event → Bool
  | .driverOpened .. => true
  | _ => false

/-- How often a driver is closed. -/
def driverClosings (d : Nat) (es : List Event) : Nat := es.countP (·.closedDriver? = some d)

@[simp] theorem driverClosings_append (d : Nat) (es es' : List Event) :
    driverClosings d (es ++ es') = driverClosings d es + driverClosings d es' := List.countP_append

theorem driverClosings_eq_zero {es : List Event} (h : ∀ e ∈ es, e.closedDriver? = none) (d : Nat) :
    driverClosings d es = 0 := by
  refine List.countP_eq_zero.mpr fun e member => ?_
  rw [h e member]
  simp

theorem quiet_of_logs {es : List Event} (logs : ∀ e ∈ es, ∃ level message, e = .logged level message) :
    (∀ d, driverClosings d es = 0) ∧ ¬ ∃ e ∈ es, e.asksDriver = true := by
  constructor
  · refine driverClosings_eq_zero fun e member => ?_
    obtain ⟨level, message, rfl⟩ := logs e member
    rfl
  · rintro ⟨e, member, asks⟩
    obtain ⟨level, message, rfl⟩ := logs e member
    cases asks

/-- Whether an answer is a refusal; where there is none, the server agrees. -/
def refuses : Option Response → Bool
  | some (.failure _) => true
  | _ => false

namespace Server

/-- The answers that are left for checks of drivers. -/
def checks (s : Server) : List Response := (lookup? Request.verify.name s.script).getD []

/-- What has come meanwhile: these events, so many new drivers, and so many answers to checks. -/
structure Saw (s : Server) (es : List Event) (drivers checks : Nat) (s' : Server) : Prop where
  events : s'.events = s.events ++ es
  drivers : s'.drivers = s.drivers + drivers
  checks : s'.checks = s.checks.drop checks

variable {s s' s'' : Server} {es es' : List Event}

theorem Saw.refl (s : Server) : s.Saw [] 0 0 s := ⟨(List.append_nil _).symm, rfl, rfl⟩

theorem Saw.trans {m n i j : Nat} (h : s.Saw es m i s') (h' : s'.Saw es' n j s'') :
    s.Saw (es ++ es') (m + n) (i + j) s'' := by
  refine ⟨?_, ?_, ?_⟩
  · rw [h'.events, h.events, List.append_assoc]
  · rw [h'.drivers, h.drivers, Nat.add_assoc]
  · rw [h'.checks, h.checks, List.drop_drop]

theorem note_saw (e : Event) : (note e).Ends s (fun _ => s.Saw [e] 0 0) fun _ => False :=
  .of_modify ⟨rfl, rfl, rfl⟩

/-- The checks that are left when a queue is shorter by its first answer. -/
theorem saw_put {kind : Request} {response : Response} {rest : List Response}
    (queue : lookup? kind.name s.script = some (response :: rest)) :
    s.Saw [] 0 (if kind = .verify then 1 else 0) { s with script := put kind.name rest s.script } := by
  refine ⟨(List.append_nil _).symm, rfl, ?_⟩
  unfold checks
  rw [lookup?_put]
  by_cases same : kind = .verify
  · subst same
    rw [if_pos rfl, if_pos rfl, queue]
    rfl
  · rw [if_neg fun names => same (Request.name_injective names), if_neg same]
    rfl

theorem answer_empty {kind : Request} (none : (lookup? kind.name s.script).getD [] = []) :
    (answer kind).outcome s = (.ok [], s) := by
  unfold answer
  rw [outcome_ofOutcome]
  split
  · next queue =>
    rw [queue] at none
    cases none
  · rfl

theorem answer_saw (kind : Request) : (answer kind).Ends s
    (fun _ s' => s.Saw [] 0 (if kind = .verify then 1 else 0) s' ∧
      (kind = .verify → refuses s.checks.head? = false))
    fun s' => s.Saw [] 0 (if kind = .verify then 1 else 0) s' ∧
      (kind = .verify → refuses s.checks.head? = true) := by
  have first : kind = .verify → s.checks = (lookup? kind.name s.script).getD [] := by
    rintro rfl
    rfl
  cases left : (lookup? kind.name s.script).getD [] with
  | nil =>
    rw [left] at first
    have kept : s.Saw [] 0 (if kind = .verify then 1 else 0) s := by
      refine ⟨(List.append_nil _).symm, rfl, ?_⟩
      split
      · next same => rw [first same]; rfl
      · rfl
    refine .of_outcome (answer_empty left) (fun _ _ => ⟨kept, fun same => ?_⟩) nofun
    rw [first same]
    rfl
  | cons response rest =>
    rw [left] at first
    have queue : lookup? kind.name s.script = some (response :: rest) := by
      cases found : lookup? kind.name s.script with
      | none =>
        rw [found] at left
        cases left
      | some responses =>
        rw [found] at left
        exact congrArg some left
    cases response with
    | rows rows =>
      have ran : (answer kind).outcome s =
          (.ok rows, { s with script := put kind.name rest s.script }) := by
        unfold answer
        rw [outcome_ofOutcome, queue]
      refine .of_outcome ran (fun _ _ => ⟨saw_put queue, fun same => ?_⟩) nofun
      rw [first same]
      rfl
    | failure f =>
      have ran : (answer kind).outcome s =
          (.error (.failure f), { s with script := put kind.name rest s.script }) := by
        unfold answer
        rw [outcome_ofOutcome, queue]
      refine .of_outcome ran nofun fun _ _ => ⟨saw_put queue, fun same => ?_⟩
      rw [first same]
      rfl

theorem request_saw {kind : Request} (other : kind ≠ .verify) (e : Event) :
    (request kind e).Ends s (fun _ => s.Saw [e] 0 0) (s.Saw [e] 0 0) := by
  refine .bind ((note_saw e).imp (fun _ s₁ noted => ?_) fun _ => False.elim)
  refine (answer_saw kind).imp (fun _ s₂ answered => ?_) fun s₂ answered => ?_
  · have both := noted.trans answered.1
    rw [if_neg other] at both
    exact both
  · have both := noted.trans answered.1
    rw [if_neg other] at both
    exact both

theorem verify_saw (d : Nat) : (verify d).Ends s
    (fun _ s' => s.Saw [.verified d] 0 1 s' ∧ refuses s.checks.head? = false)
    fun s' => s.Saw [.verified d] 0 1 s' ∧ refuses s.checks.head? = true := by
  refine .discard (.bind ((note_saw _).imp (fun _ s₁ noted => ?_) fun _ => False.elim))
  have same : s₁.checks = s.checks := noted.checks
  refine (answer_saw .verify).imp (fun _ s₂ answered => ?_) fun s₂ answered => ?_
  · exact ⟨noted.trans answered.1, same ▸ answered.2 rfl⟩
  · exact ⟨noted.trans answered.1, same ▸ answered.2 rfl⟩

theorem openDriver_saw (uri auth : Value) (config : Properties) : (openDriver uri auth config).Ends s
    (fun d s' => d = s.drivers ∧ s.Saw [.driverOpened d uri auth config] 1 0 s')
    (s.Saw [.driverOpened s.drivers uri auth config] 0 0) := by
  refine .bind (.of_get (.bind ((request_saw (by decide) _).imp (fun _ s₁ saw => ?_) fun _ => id)))
  refine .bind (.of_modify (.of_pure ⟨rfl, saw.events, ?_, saw.checks⟩))
  rfl

theorem closeDriver_saw (d : Nat) :
    (closeDriver d).Ends s (fun _ => s.Saw [.driverClosed d] 0 0) (s.Saw [.driverClosed d] 0 0) :=
  .discard (request_saw (by decide) _)

end Server

/-! ### Letting go -/

namespace Station

variable {s : Station}

theorem settleWaiting_idle (idle : s.engine.waiting = 0) : settleWaiting.outcome s = (.ok (), s) := by
  obtain ⟨⟨uri, auth, database, driverConfig, driver, isConnected, waiting⟩, server⟩ := s
  obtain rfl : waiting = 0 := idle
  rfl

/-- Letting go gives the driver that the engine had; only a log entry may come with it. -/
theorem releaseDriver_outcome (s : Station) : ∃ server es,
    releaseDriver.outcome s = (.ok s.engine.driver,
      ⟨{ s.engine with driver := none, isConnected := .bool false }, server⟩) ∧
    s.server.Saw es 0 0 server ∧ ∀ e ∈ es, ∃ level message, e = .logged level message := by
  unfold releaseDriver
  have read : (get : Exec Station Station).outcome s = (.ok s, s) := rfl
  rw [outcome_bind_ok read, outcome_bind_ok read]
  cases held : s.engine.driver with
  | none =>
    exact ⟨s.server, [], rfl, .refl _, fun _ none => (List.not_mem_nil none).elim⟩
  | some d =>
    cases s.engine.isConnected.isTruthy with
    | true => exact ⟨_, [_], rfl, ⟨rfl, rfl, rfl⟩, fun _ one => ⟨_, _, List.mem_singleton.mp one⟩⟩
    | false => exact ⟨_, [_], rfl, ⟨rfl, rfl, rfl⟩, fun _ one => ⟨_, _, List.mem_singleton.mp one⟩⟩

end Station

namespace EngineCall

/-- Three turns of `close` are a call of it, when no attempt to connect is waiting. -/
theorem completed_close {s : Station} (idle : s.engine.waiting = 0) :
    (completed close).outcome s =
      (.ok (.closed (Station.close.outcome s).1), (Station.close.outcome s).2) := by
  obtain ⟨server, es, released, -, -⟩ := Station.releaseDriver_outcome s
  unfold completed Station.close
  rw [outcome_bind_ok (Station.settleWaiting_idle idle), outcome_bind_ok released]
  simp only [advance, bind_assoc]
  rw [outcome_bind_ok released]
  cases s.engine.driver with
  | none => rfl
  | some d => rfl

end EngineCall

/-! ### The books -/

/-- Of the first `checked` drivers that a server has handed out, those are closed, once each, that
passed their check, except the one that is kept. `answers` are the answers to all checks. -/
structure DriverLedger (answers : List Response) (s : Server) (checked : Nat) (kept : Option Nat) :
    Prop where
  checks : s.checks = answers.drop checked
  closed : ∀ d, driverClosings d s.events =
    if d < checked ∧ refuses answers[d]? = false ∧ kept ≠ some d then 1 else 0
  kept : ∀ d, kept = some d → d < checked ∧ refuses answers[d]? = false

namespace DriverLedger

variable {answers : List Response} {s s' : Server} {es : List Event} {n d : Nat} {kept : Option Nat}

theorem quiet (h : DriverLedger answers s n kept) (saw : s.Saw es d 0 s')
    (silent : ∀ d, driverClosings d es = 0) : DriverLedger answers s' n kept := by
  refine ⟨saw.checks.trans h.checks, fun d => ?_, h.kept⟩
  rw [saw.events, driverClosings_append, silent, Nat.add_zero, h.closed]

/-- The checked drivers are all that have been handed out. -/
theorem current (h : DriverLedger answers s n kept) (all : s.drivers = n) :
    DriverLedger answers s s.drivers kept := by
  rw [all]
  exact h

theorem head? (h : DriverLedger answers s n kept) : s.checks.head? = answers[n]? := by
  rw [h.checks, List.head?_drop]

theorem refused (h : DriverLedger answers s d none) (saw : s.Saw es 0 1 s')
    (silent : ∀ d, driverClosings d es = 0) (refused : refuses s.checks.head? = true) :
    DriverLedger answers s' (d + 1) none := by
  rw [h.head?] at refused
  refine ⟨?_, fun x => ?_, nofun⟩
  · rw [saw.checks, h.checks, List.drop_drop]
  · rw [saw.events, driverClosings_append, silent, Nat.add_zero, h.closed]
    by_cases last : x = d
    · subst last
      simp [refused]
    · have order : x < d ↔ x < d + 1 := by omega
      simp only [order]

theorem passed (h : DriverLedger answers s d none) (saw : s.Saw es 0 1 s')
    (silent : ∀ d, driverClosings d es = 0) (passed : refuses s.checks.head? = false) :
    DriverLedger answers s' (d + 1) (some d) := by
  rw [h.head?] at passed
  refine ⟨?_, fun x => ?_, fun x same => ?_⟩
  · rw [saw.checks, h.checks, List.drop_drop]
  · rw [saw.events, driverClosings_append, silent, Nat.add_zero, h.closed]
    by_cases last : x = d
    · subst last
      simp
    · have order : x < d ↔ x < d + 1 := by omega
      have other : some d ≠ some x := fun same => last (Option.some.inj same).symm
      simp only [order, other, ne_eq, not_false_eq_true, reduceCtorEq]
  · obtain rfl := Option.some.inj same
    exact ⟨Nat.lt_succ_self d, passed⟩

theorem closes (h : DriverLedger answers s n (some d)) (saw : s.Saw [.driverClosed d] 0 0 s') :
    DriverLedger answers s' n none := by
  refine ⟨saw.checks.trans h.checks, fun x => ?_, nofun⟩
  have last : driverClosings x [.driverClosed d] = if x = d then 1 else 0 := by
    unfold driverClosings
    by_cases same : x = d
    · subst same
      simp [Event.closedDriver?]
    · have other : ¬ d = x := fun back => same back.symm
      simp [Event.closedDriver?, same, other]
  rw [saw.events, driverClosings_append, last, h.closed]
  by_cases same : x = d
  · subst same
    simp [h.kept x rfl]
  · have other : some d ≠ some x := fun back => same (Option.some.inj back).symm
    simp [same, other]

end DriverLedger

/-- The drivers of an engine while a call is at work, or none is. -/
def DriversAccounted (answers : List Response) (s : Station) : Option EngineWork → Prop
  | none => ∃ kept : Option Nat, s.engine.driver = kept.map .opened ∧
      DriverLedger answers s.server s.server.drivers kept
  | some .opening => s.engine.driver = none ∧ DriverLedger answers s.server s.server.drivers none
  | some (.verifying d) => s.engine.driver = none ∧ s.server.drivers = d + 1 ∧
      DriverLedger answers s.server d none
  | some (.closing d) => s.engine.driver = none ∧ ∃ n, d = .opened n ∧
      DriverLedger answers s.server s.server.drivers (some n)

/-- An engine between two turns: it is connected if it has a driver, and all drivers are accounted
for. -/
structure Books (answers : List Response) (s : Station) (work : Option EngineWork) : Prop where
  flag : s.engine.isConnected = .bool s.engine.driver.isSome
  idle : s.engine.waiting = 0
  drivers : DriversAccounted answers s work

/-- A new engine on a server that answers from a script. -/
def Station.facing (uri auth database : Value) (driverConfig : Row)
    (script : List (String × List Response)) : Station :=
  ⟨Engine.new uri auth database driverConfig, { Server.idle with script }⟩

/-- The answers to checks of drivers in a script. -/
def checksIn (script : List (String × List Response)) : List Response :=
  (lookup? Request.verify.name script).getD []

theorem Books.facing (uri auth database : Value) (driverConfig : Row)
    (script : List (String × List Response)) :
    Books (checksIn script) (.facing uri auth database driverConfig script) none where
  flag := rfl
  idle := rfl
  drivers := ⟨none, rfl, rfl, fun d => by simp [Station.facing, Server.idle, driverClosings], nofun⟩

/-- What one turn of a call does. A driver is asked for only while there is none; a call of `connect`
that ends well leaves the engine connected, and one of `close` leaves it without a driver. -/
structure Advances (answers : List Response) (s : Station) (call next : EngineCall) (s' : Station) :
    Prop where
  books : Books answers s' next.work?
  sooner : next.turnsLeft < call.turnsLeft
  asks : ∃ es, s'.server.events = s.server.events ++ es ∧
    ((∃ e ∈ es, e.asksDriver = true) → s.engine.driver = none)
  connected : next = .connected (.ok ()) → s'.engine.isConnected.isTruthy = true
  closed : ∀ r, next = .closed r → s'.engine.driver = none

/-! ### The turns -/

namespace Station

variable {s : Station}

/-- What a part of a turn leaves: another engine, and what the server has seen. -/
structure Leaves (s : Station) (engine : Engine) (es : List Event) (drivers checks : Nat)
    (s' : Station) : Prop where
  engine : s'.engine = engine
  server : s.server.Saw es drivers checks s'.server

theorem log_leaves (level : LogLevel) (message : String) :
    (log level message).Ends s (fun _ => s.Leaves s.engine [.logged level message] 0 0)
      fun _ => False :=
  .within ((Server.note_saw _).imp (fun _ _ saw => ⟨rfl, saw⟩) fun _ => id)

theorem startTurn_leaves : startTurn.Ends s
    (fun started s' => started = !s.engine.isConnected.isTruthy ∧
      ∃ es, s.Leaves s.engine es 0 0 s' ∧ ∀ e ∈ es, ∃ level message, e = .logged level message)
    fun _ => False := by
  unfold startTurn
  refine .bind (.of_get ?_)
  dsimp only
  cases s.engine.isConnected.isTruthy with
  | true => exact .of_pure ⟨rfl, [], ⟨rfl, .refl _⟩, fun _ none => (List.not_mem_nil none).elim⟩
  | false =>
    refine .bind ((log_leaves _ _).imp (fun _ s' logged => ?_) fun _ => id)
    exact .of_pure ⟨rfl, _, logged, fun e one => ⟨_, _, List.mem_singleton.mp one⟩⟩

/-- Opening a driver may fail before the server is asked. -/
theorem openDriver_leaves : openDriver.Ends s
    (fun d s' => d = s.server.drivers ∧
      ∃ es, s.Leaves s.engine es 1 0 s' ∧ ∀ e ∈ es, e.closedDriver? = none)
    fun s' => ∃ es, s.Leaves s.engine es 0 0 s' ∧ ∀ e ∈ es, e.closedDriver? = none := by
  unfold openDriver
  refine .bind (.of_get (.bind (.ofResult (fun settings _ => ?_) ?_)))
  · have opening {event : Event} (quiet : event.closedDriver? = none) :
        ∀ e ∈ [event], e.closedDriver? = none := by
      intro e one
      rw [List.mem_singleton.mp one]
      exact quiet
    refine .within ((Server.openDriver_saw _ _ _).imp (fun d t saw => ?_) fun t saw => ?_)
    · exact ⟨saw.1, _, ⟨rfl, saw.2⟩, opening rfl⟩
    · exact ⟨_, ⟨rfl, saw⟩, opening rfl⟩
  · exact ⟨[], ⟨rfl, .refl _⟩, fun _ none => (List.not_mem_nil none).elim⟩

theorem verify_leaves (d : Nat) : (ask (Server.verify d)).Ends s
    (fun _ s' => s.Leaves s.engine [.verified d] 0 1 s' ∧ refuses s.server.checks.head? = false)
    fun s' => s.Leaves s.engine [.verified d] 0 1 s' ∧ refuses s.server.checks.head? = true :=
  .within ((Server.verify_saw d).imp (fun _ _ saw => ⟨⟨rfl, saw.1⟩, saw.2⟩)
    fun _ saw => ⟨⟨rfl, saw.1⟩, saw.2⟩)

theorem closeDriver_leaves (d : Nat) : (closeDriver (.opened d)).Ends s
    (fun _ => s.Leaves s.engine [.driverClosed d] 0 0) (s.Leaves s.engine [.driverClosed d] 0 0) :=
  .bind (.of_ok (.within ((Server.closeDriver_saw d).imp (fun _ _ saw => ⟨rfl, saw⟩)
    fun _ saw => ⟨rfl, saw⟩)))

theorem giveUp_leaves (cause : Error) : (giveUp cause).Ends s
    (fun _ s' => ∃ level message,
      s.Leaves { s.engine with driver := none } [.logged level message] 0 0 s')
    fun _ => False := by
  unfold giveUp
  refine .bind (.of_modify (.bind (.of_get (.bind ((log_leaves _ _).imp (fun _ s' logged => ?_)
    fun _ => id)))))
  exact .of_pure ⟨_, _, logged.engine, logged.server⟩

end Station

namespace EngineCall

variable {answers : List Response} {s : Station} {work : Option EngineWork}

theorem connect_ends (h : Books answers s none) :
    (advance connect).Ends s (Advances answers s connect) fun _ => False := by
  unfold advance
  refine .bind (Station.startTurn_leaves.imp (fun started s' left => ?_) fun _ => id)
  obtain ⟨engine, server⟩ := s'
  obtain ⟨rfl, es, ⟨rfl, saw⟩, logs⟩ := left
  obtain ⟨kept, held, ledger⟩ := h.drivers
  obtain ⟨quiet, silent⟩ := quiet_of_logs logs
  have asks : (∃ e ∈ es, e.asksDriver = true) → s.engine.driver = none := fun one => (silent one).elim
  have later := (ledger.quiet saw quiet).current saw.drivers
  cases on : s.engine.isConnected.isTruthy with
  | true => exact .of_pure ⟨⟨h.flag, h.idle, kept, held, later⟩, by decide, ⟨es, saw.events, asks⟩,
      fun _ => on, nofun⟩
  | false =>
    have off : s.engine.driver = none := by
      rw [h.flag] at on
      exact Option.not_isSome_iff_eq_none.mp (Bool.eq_false_iff.mp on)
    obtain rfl : kept = none := by
      rw [off] at held
      exact Option.map_eq_none_iff.mp held.symm
    exact .of_pure ⟨⟨h.flag, h.idle, off, later⟩, by decide, ⟨es, saw.events, asks⟩, nofun, nofun⟩

/-- An attempt to connect that is given up leaves an engine without a driver. -/
theorem giveUp_ends {t : Station} {cause : Error} {es : List Event} {call : EngineCall}
    (h : Books answers s work) (going : 0 < call.turnsLeft)
    (off : s.engine.driver = none) (engine : t.engine = s.engine)
    (events : t.server.events = s.server.events ++ es)
    (ledger : DriverLedger answers t.server t.server.drivers none) :
    (Station.giveUp cause).Ends t
      (fun e => Advances answers s call (connected (.error e))) fun _ => False := by
  refine (Station.giveUp_leaves cause).imp (fun e s' left => ?_) fun _ => id
  obtain ⟨level, message, left, saw⟩ := left
  have quiet : ∀ e ∈ [Event.logged level message], e.closedDriver? = none := by
    intro e one
    rw [List.mem_singleton.mp one]
    rfl
  have later := (ledger.quiet saw (driverClosings_eq_zero quiet)).current saw.drivers
  refine ⟨⟨?_, ?_, none, ?_, later⟩, going, ⟨es ++ [.logged level message], ?_, fun _ => off⟩,
    nofun, nofun⟩
  · rw [left]
    show t.engine.isConnected = .bool false
    rw [engine, h.flag, off]
    rfl
  · rw [left]
    show t.engine.waiting = 0
    rw [engine, h.idle]
  · rw [left]
    rfl
  · rw [saw.events, events, List.append_assoc]

theorem opening_ends (h : Books answers s (some .opening)) :
    (advance (working .opening)).Ends s (Advances answers s (working .opening)) fun _ => False := by
  obtain ⟨off, ledger⟩ := h.drivers
  unfold advance
  refine .bind (.attempt (Station.openDriver_leaves.imp (fun d s' left => ?_) fun s' left cause => ?_))
  · obtain ⟨engine, server⟩ := s'
    obtain ⟨rfl, es, ⟨rfl, saw⟩, quiet⟩ := left
    have later := ledger.quiet saw (driverClosings_eq_zero quiet)
    exact .of_pure ⟨⟨h.flag, h.idle, off, saw.drivers, later⟩, by simp [turnsLeft],
      ⟨es, saw.events, fun _ => off⟩, nofun, nofun⟩
  · obtain ⟨es, ⟨engine, saw⟩, quiet⟩ := left
    have later := (ledger.quiet saw (driverClosings_eq_zero quiet)).current saw.drivers
    exact .bind ((giveUp_ends h (by decide) off engine saw.events later).imp
      (fun _ _ gave => .of_pure gave) fun _ => id)

theorem verifying_ends {d : Nat} (h : Books answers s (some (.verifying d))) :
    (advance (working (.verifying d))).Ends s (Advances answers s (working (.verifying d)))
      fun _ => False := by
  obtain ⟨off, drivers, ledger⟩ := h.drivers
  have quiet : ∀ e ∈ [Event.verified d], e.closedDriver? = none := by
    intro e one
    rw [List.mem_singleton.mp one]
    rfl
  unfold advance Station.checkDriver
  refine .bind (.bind (.attempt ((Station.verify_leaves d).imp (fun _ t left => ?_)
    fun t left cause => ?_)))
  · obtain ⟨⟨engine, saw⟩, passes⟩ := left
    have passed := (ledger.passed saw (driverClosings_eq_zero quiet) passes).current
      (saw.drivers.trans drivers)
    refine .bind (.of_modify (.bind (.of_get (.bind ((Station.log_leaves _ _).imp
      (fun _ s' left => ?_) fun _ => id)))))
    obtain ⟨left, logged⟩ := left
    have later := (passed.quiet logged (driverClosings_eq_zero (by simp [Event.closedDriver?]))).current
      logged.drivers
    refine .of_pure (.of_pure ⟨⟨?_, ?_, some d, ?_, later⟩, Nat.zero_lt_one,
      ⟨_, (saw.trans logged).events, fun _ => off⟩, fun _ => ?_, nofun⟩)
    · rw [left]
      rfl
    · rw [left]
      show t.engine.waiting = 0
      rw [engine, h.idle]
    · rw [left]
      rfl
    · rw [left]
      rfl
  · obtain ⟨⟨engine, saw⟩, refused⟩ := left
    have later := (ledger.refused saw (driverClosings_eq_zero quiet) refused).current
      (saw.drivers.trans drivers)
    have going : 0 < (working (.verifying d)).turnsLeft := Nat.zero_lt_one
    exact .bind ((giveUp_ends h going off engine saw.events later).imp
      (fun _ _ gave => .of_pure (.of_pure gave)) fun _ => id)

theorem close_ends (h : Books answers s none) :
    (advance close).Ends s (Advances answers s close) fun _ => False := by
  obtain ⟨server, es, released, saw, logs⟩ := Station.releaseDriver_outcome s
  obtain ⟨kept, held, ledger⟩ := h.drivers
  obtain ⟨quiet, silent⟩ := quiet_of_logs logs
  have asks : (∃ e ∈ es, e.asksDriver = true) → s.engine.driver = none := fun one => (silent one).elim
  have later := (ledger.quiet saw quiet).current saw.drivers
  unfold advance
  refine .bind (.of_outcome released (fun d same => ?_) nofun)
  obtain rfl := Except.ok.inj same
  cases kept with
  | none =>
    rw [show s.engine.driver = none from held]
    exact .of_pure ⟨⟨rfl, h.idle, none, rfl, later⟩, by decide, ⟨es, saw.events, asks⟩, nofun,
      fun _ _ => rfl⟩
  | some n =>
    rw [show s.engine.driver = some (.opened n) from held]
    exact .of_pure ⟨⟨rfl, h.idle, rfl, n, rfl, later⟩, by simp [turnsLeft], ⟨es, saw.events, asks⟩,
      nofun, nofun⟩

theorem closing_ends {d : DriverRef} (h : Books answers s (some (.closing d))) :
    (advance (working (.closing d))).Ends s (Advances answers s (working (.closing d)))
      fun _ => False := by
  obtain ⟨off, n, rfl, ledger⟩ := h.drivers
  have after {t : Station} (left : s.Leaves s.engine [.driverClosed n] 0 0 t) (r : Result Unit) :
      Advances answers s (working (.closing (.opened n))) (closed r) t := by
    obtain ⟨engine, server⟩ := t
    obtain ⟨rfl, saw⟩ := left
    have later := (ledger.closes saw).current saw.drivers
    exact ⟨⟨h.flag, h.idle, none, off, later⟩, Nat.zero_lt_one, ⟨_, saw.events, fun _ => off⟩, nofun,
      fun _ _ => off⟩
  unfold advance
  refine .bind (.attempt ((Station.closeDriver_leaves n).imp (fun _ t left => ?_)
    fun t left cause => ?_))
  · exact .of_pure (after left _)
  · exact .of_pure (after left _)

/-- A turn of a call keeps the books, and cannot fail. -/
theorem advance_ends {call : EngineCall} (h : Books answers s call.work?)
    (going : call.isFinished = false) :
    call.advance.Ends s (Advances answers s call) fun _ => False := by
  cases call with
  | connect => exact connect_ends h
  | close => exact close_ends h
  | working work =>
    cases work with
    | opening => exact opening_ends h
    | verifying d => exact verifying_ends h
    | closing d => exact closing_ends h
  | connected _ => cases going
  | closed _ => cases going

/-! ### Whole calls -/

/-- Where a call stands: the books are in order, and if it is a `close` that has ended, the engine has
no driver. -/
structure Stands (answers : List Response) (call : EngineCall) (s : Station) : Prop where
  books : Books answers s call.work?
  closed : ∀ r, call = .closed r → s.engine.driver = none

theorem Stands.turn {call : EngineCall} (h : call.Stands answers s) : call.advance.Ends s
    (fun next s' => next.Stands answers s' ∧ next.turnsLeft ≤ call.turnsLeft - 1) fun _ => False := by
  cases ended : call.isFinished with
  | true =>
    cases call with
    | connected r => exact .of_pure ⟨h, Nat.le_refl 0⟩
    | closed r => exact .of_pure ⟨h, Nat.le_refl 0⟩
    | connect | close | working _ => cases ended
  | false =>
    refine (advance_ends h.books ended).imp (fun next s' turn => ⟨⟨turn.books, turn.closed⟩, ?_⟩)
      fun _ => id
    have sooner := turn.sooner
    omega

theorem Stands.completed {call : EngineCall} (h : call.Stands answers s) : call.completed.Ends s
    (fun next s' => next.Stands answers s' ∧ next.work? = none) fun _ => False := by
  have few : call.turnsLeft ≤ 3 := by
    unfold turnsLeft
    split <;> omega
  refine .bind (h.turn.imp (fun _ _ first => ?_) fun _ => id)
  refine .bind (first.1.turn.imp (fun _ _ second => ?_) fun _ => id)
  refine second.1.turn.imp (fun last s' third => ⟨third.1, ?_⟩) fun _ => id
  have ended : last.turnsLeft = 0 := by omega
  cases last with
  | working work => cases work <;> cases ended
  | _ => rfl

end EngineCall

namespace Books

variable {answers : List Response} {s : Station}

/-- A call of `connect` keeps the books, whether it fails or not. -/
theorem connect (h : Books answers s none) : Books answers (Station.connect.outcome s).2 none := by
  have call : EngineCall.connect.Stands answers s := ⟨h, nofun⟩
  have whole : Books answers (EngineCall.connect.completed.outcome s).2 none :=
    (call.completed.imp (fun _ _ last => last.2 ▸ last.1.books) fun _ => False.elim).after
  have settled := Station.settleWaiting_idle h.idle
  rw [EngineCall.completed_connect, outcome_bind] at whole
  unfold Station.connect
  rw [outcome_bind_ok settled, outcome_bind]
  cases turn : Station.takeTurn.outcome s with
  | mk r s' =>
    rw [turn] at whole
    cases r with
    | error e => exact whole
    | ok came => cases came <;> exact whole

/-- A call of `close` keeps the books as well, and leaves no driver. -/
theorem close (h : Books answers s none) : Books answers (Station.close.outcome s).2 none ∧
    (Station.close.outcome s).2.engine.driver = none := by
  have call : EngineCall.close.Stands answers s := ⟨h, nofun⟩
  have whole := call.completed.1 _ _ (EngineCall.completed_close h.idle)
  exact ⟨whole.1.books, whole.1.closed _ rfl⟩

end Books

end GraphQuery
