import GraphQuery.Proofs.Session.Statements

/-! # What requests come to

The server answers each kind of request from a queue of its own, so what the next request of a kind will
come to is known beforehand (`Server.reply`).  Steps that make requests follow these replies, one after
another, until one of them is a refusal:

* `Exec.Yields` : the result of a step, and what holds of the state afterwards;
* `Server.Past` : later states of a server that differ in the queues of some kinds only;
* `Station.connectNow_yields` : connecting comes to the replies to opening a driver and checking it;
* `Channel.client_yields` : so does the session that a connection opens. -/

namespace GraphQuery

/-! ### What a step comes to -/

namespace Exec

variable {σ τ α β : Type}

/-- What a step comes to: its result, and what holds of the state afterwards. -/
def Yields (step : Exec σ α) (s : σ) (r : Result α) (good : σ → Prop) : Prop :=
  ∃ s', step.outcome s = (r, s') ∧ good s'

namespace Yields

variable {s : σ} {good mid : σ → Prop}

theorem result {step : Exec σ α} {r : Result α} (h : step.Yields s r good) :
    (step.outcome s).1 = r := by
  obtain ⟨s', e, -⟩ := h
  rw [e]

theorem after {step : Exec σ α} {r : Result α} (h : step.Yields s r good) :
    good (step.outcome s).2 := by
  obtain ⟨s', e, g⟩ := h
  rw [e]
  exact g

theorem imp {step : Exec σ α} {r : Result α} {good' : σ → Prop} (h : step.Yields s r good)
    (weaken : ∀ s', good s' → good' s') : step.Yields s r good' := by
  obtain ⟨s', e, g⟩ := h
  exact ⟨s', e, weaken s' g⟩

theorem of_pure {a : α} (h : good s) : (pure a : Exec σ α).Yields s (.ok a) good := ⟨s, rfl, h⟩

theorem ofResult {r : Result α} (h : good s) : (Exec.ofResult r).Yields s r good := ⟨s, rfl, h⟩

theorem of_modify {f : σ → σ} (h : good (f s)) :
    (modify f : Exec σ PUnit).Yields s (.ok ⟨⟩) good := ⟨f s, rfl, h⟩

theorem bind {x : Exec σ α} {f : α → Exec σ β} {r : Result α} {g : α → Result β}
    (h : x.Yields s r mid) (ok : ∀ a s', r = .ok a → mid s' → (f a).Yields s' (g a) good)
    (error : ∀ s', mid s' → good s') : (x >>= f).Yields s (r >>= g) good := by
  obtain ⟨s', e, m⟩ := h
  cases r with
  | ok a =>
    obtain ⟨s'', e', g'⟩ := ok a s' rfl m
    exact ⟨s'', by rw [outcome_bind, e]; exact e', g'⟩
  | error c => exact ⟨s', by rw [outcome_bind, e]; rfl, error s' m⟩

theorem bind_ok {x : Exec σ α} {f : α → Exec σ β} {a : α} {r : Result β}
    (h : x.Yields s (.ok a) fun s' => (f a).Yields s' r good) : (x >>= f).Yields s r good := by
  obtain ⟨s', e, s'', e', g⟩ := h
  exact ⟨s'', by rw [outcome_bind, e]; exact e', g⟩

theorem bind_reply {γ : Type} {x : Exec σ α} {f : α → Exec σ β} {reply : Result γ} {value : γ → α}
    {r : Result β} (h : x.Yields s (reply.map value) mid)
    (ok : ∀ c s', mid s' → (f (value c)).Yields s' r good) (error : ∀ s', mid s' → good s') :
    (x >>= f).Yields s (reply >>= fun _ => r) good := by
  cases reply with
  | ok c => exact .bind_ok (h.imp (ok c))
  | error e => exact h.bind (g := fun _ => r) (fun _ _ c => nomatch c) error

theorem bind_get {f : σ → Exec σ β} {r : Result β} (h : (f s).Yields s r good) :
    ((get : Exec σ σ) >>= f).Yields s r good := bind_ok ⟨s, rfl, h⟩

theorem bind_map {x : Exec σ α} {f : α → Exec σ β} {r : Result α} {g : α → β}
    (h : x.Yields s r mid) (ok : ∀ a s', mid s' → (f a).Yields s' (.ok (g a)) good)
    (error : ∀ s', mid s' → good s') : (x >>= f).Yields s (r.map g) good := by
  have both := h.bind (fun a s' _ => ok a s') error
  cases r <;> exact both

theorem discard {x : Exec σ α} {r : Result α} (h : x.Yields s r good) :
    (Functor.discard x).Yields s (r.map fun _ => ⟨⟩) good := by
  have same : (Functor.discard x : Exec σ PUnit) = x >>= fun _ => pure ⟨⟩ :=
    (bind_pure_comp _ x).symm
  rw [same]
  exact h.bind_map (fun _ _ g => .of_pure g) fun _ => id

theorem attempt {x : Exec σ α} {r : Result α} (h : x.Yields s r good) :
    x.attempt.Yields s (.ok r) good := by
  obtain ⟨s', e, g⟩ := h
  exact ⟨s', by rw [outcome_attempt, e], g⟩

theorem within {focus : Focus σ τ} {step : Exec τ α} {r : Result α}
    (h : step.Yields (focus.get s) r fun t => good (focus.put t s)) :
    (step.within focus).Yields s r good := by
  obtain ⟨t, e, g⟩ := h
  exact ⟨_, by rw [outcome_within, e], g⟩

/-- A clean-up that cannot fail leaves the result of the step. -/
theorem ensuring {x : Exec σ α} {cleanUp : Exec σ Unit} {r : Result α} (h : x.Yields s r mid)
    (last : ∀ s', mid s' → cleanUp.Yields s' (.ok ()) good) : (x.ensuring cleanUp).Yields s r good :=
  .bind_ok (h.attempt.imp fun s' m => .bind_ok ((last s' m).imp fun _ g => .ofResult g))

end Yields

end Exec

open Exec

/-! ### The server -/

theorem Request.name_injective : Function.Injective Request.name := by
  intro j k same
  cases j <;> cases k <;> first | rfl | exact absurd same (by decide)

namespace Server

/-- What the next request of a kind comes to. -/
def reply (s : Server) (k : Request) : Result (List Row) := ((answer k).outcome s).1

/-- A later state, when requests of these kinds may have been made. -/
def Past (ks : List Request) (s s' : Server) : Prop := ∀ k ∉ ks, s'.reply k = s.reply k

variable {s s' s'' : Server} {ks js : List Request}

/-- A reply is read off the queue of its kind. -/
theorem reply_congr {k : Request} (h : lookup? k.name s'.script = lookup? k.name s.script) :
    s'.reply k = s.reply k := by
  unfold reply answer
  rw [outcome_ofOutcome, outcome_ofOutcome, h]
  cases lookup? k.name s.script with
  | none => rfl
  | some queue =>
    cases queue with
    | nil => rfl
    | cons response rest => cases response <;> rfl

namespace Past

theorem of_script (h : s'.script = s.script) : s.Past ks s' := fun _ _ => reply_congr (by rw [h])

theorem refl (s : Server) : s.Past ks s := of_script rfl

theorem trans (h : s.Past ks s') (h' : s'.Past ks s'') : s.Past ks s'' := fun k out =>
  (h' k out).trans (h k out)

theorem mono (h : s.Past js s') (sub : js ⊆ ks) : s.Past ks s' := fun k out =>
  h k fun member => out (sub member)

end Past

theorem answer_yields (k : Request) : (answer k).Yields s (s.reply k) (s.Past [k]) := by
  refine ⟨((answer k).outcome s).2, rfl, fun j out => reply_congr ?_⟩
  have other : k.name ≠ j.name := fun same => by simp [Request.name_injective same] at out
  unfold answer
  rw [outcome_ofOutcome]
  split
  · split <;> exact (lookup?_put ..).trans (if_neg other)
  · rfl

theorem note_yields (e : Event) : (note e).Yields s (.ok ()) (s.Past []) :=
  .of_modify (.of_script rfl)

theorem request_yields (k : Request) (e : Event) :
    (request k e).Yields s (s.reply k) (s.Past [k]) := by
  refine .bind_ok ((note_yields e).imp fun s' noted => ?_)
  rw [← noted k List.not_mem_nil]
  exact (answer_yields k).imp fun _ past => (noted.mono (List.nil_subset _)).trans past

theorem run_yields (runner : Runner) (text : Value) (parameters : Properties) :
    (run runner text parameters).Yields s (s.reply .run) (s.Past [.run]) := request_yields ..

theorem verify_yields (driver : Nat) :
    (verify driver).Yields s ((s.reply .verify).map fun _ => ()) (s.Past [.verify]) :=
  (request_yields ..).discard

theorem openDriver_yields (uri auth : Value) (config : Properties) :
    (openDriver uri auth config).Yields s ((s.reply .openDriver).map fun _ => s.drivers)
      (s.Past [.openDriver]) :=
  .bind_get ((request_yields ..).bind_map (fun _ _ past =>
    .bind_ok (.of_modify (.of_pure (past.trans (.of_script rfl))))) fun _ => id)

theorem openSession_yields (driver : Nat) (database : Value) :
    (openSession driver database).Yields s ((s.reply .openSession).map fun _ => s.sessions)
      (s.Past [.openSession]) :=
  .bind_get ((request_yields ..).bind_map (fun _ _ past =>
    .bind_ok (.of_modify (.of_pure (past.trans (.of_script rfl))))) fun _ => id)

theorem newTransaction_yields : newTransaction.Yields s (.ok s.transactions) (s.Past []) :=
  .bind_get (.bind_ok (.of_modify (.of_pure (.of_script rfl))))

/-- A write that has a transaction of its own comes to a refusal of that, or to its own reply. -/
theorem executeWrite_yields (session : Nat) (text : Value) (parameters : Properties) :
    (executeWrite session text parameters).Yields s
      (s.reply .executeWrite >>= fun _ => s.reply .run) (s.Past [.executeWrite, .run]) := by
  have first : [Request.executeWrite] ⊆ [.executeWrite, .run] := by simp
  have second : [Request.run] ⊆ [.executeWrite, .run] := by simp
  refine (request_yields ..).bind (fun _ s₁ _ past => ?_) fun _ past => past.mono first
  refine .bind_ok (newTransaction_yields.imp fun s₂ numbered => ?_)
  have before : s.Past [.executeWrite] s₂ := past.trans (numbered.mono (List.nil_subset _))
  rw [← before .run (by simp)]
  exact (run_yields ..).imp fun _ ran => (before.mono first).trans (ran.mono second)

end Server

/-! ### The engine -/

/-- An engine that is connected has a driver that was opened for it. -/
def Engine.Sound (g : Engine) : Prop :=
  g.isConnected.isTruthy = true → ∃ n, g.driver = some (.opened n)

/-- What a refusal is to those who use an engine: one of opening a driver or of checking it means that
the server is out of reach. -/
def Engine.reason (g : Engine) : Request → Error → Error
  | .openDriver, e | .verify, e => .unreachable g.uri e
  | _, e => e

/-- The requests that connect an engine. -/
def Engine.openings (g : Engine) : List Request :=
  if g.isConnected.isTruthy then [] else [.openDriver, .verify]

namespace Station

/-- What the next request of a kind comes to. A driver cannot be asked for with settings that have no
names. -/
def reply (t : Station) : Request → Result (List Row)
  | .openDriver => do
    let _ ← t.engine.driverSettings
    t.server.reply .openDriver
  | k => t.server.reply k

/-- What requests come to that are made one after another until one is refused: the reply to the last
one, or the reason of the refusal. -/
def tried (t : Station) (ks : List Request) : Result (List Row) :=
  ks.foldlM (fun _ k => (t.reply k).mapError (t.engine.reason k)) []

/-- What the next attempt to connect comes to. -/
def turn (t : Station) : Turn :=
  if t.engine.isConnected.isTruthy then .connected
  else match t.reply .openDriver with
    | .error e => .refused (.unreachable t.engine.uri e)
    | .ok _ => match t.reply .verify with
      | .error e => .unanswered (.unreachable t.engine.uri e)
      | .ok _ => .connected

/-- An attempt to connect as a result. -/
def Turn.result : Turn → Result Unit
  | connected => .ok ()
  | refused e | unanswered e => .error e

/-- Connecting and then asking for a session comes to what the requests come to. -/
theorem tried_openings (t : Station) : t.tried (t.engine.openings ++ [.openSession]) =
    t.turn.result >>= fun _ => t.reply .openSession := by
  unfold tried turn Engine.openings
  have last : (t.reply .openSession).mapError (t.engine.reason .openSession) =
      t.reply .openSession := by
    cases t.reply .openSession <;> rfl
  split
  · simp only [List.nil_append, List.foldlM_cons, List.foldlM_nil, last, bind_pure]
    rfl
  · simp only [List.cons_append, List.nil_append, List.foldlM_cons, List.foldlM_nil, last, bind_pure]
    cases opened : t.reply .openDriver with
    | error e => rfl
    | ok _ => cases verified : t.reply .verify <;> rfl

variable {α : Type} {t t' t'' : Station} {ks : List Request}

/-- A later state, after requests of these kinds. -/
structure Past (ks : List Request) (t t' : Station) : Prop where
  server : t.server.Past ks t'.server
  sound : t'.engine.Sound

/-- A later state that differs in nothing but requests of these kinds. -/
structure Asked (ks : List Request) (t t' : Station) : Prop where
  engine : t'.engine = t.engine
  server : t.server.Past ks t'.server

theorem Past.trans (h : t.Past ks t') (h' : t'.Past ks t'') : t.Past ks t'' :=
  ⟨h.server.trans h'.server, h'.sound⟩

theorem Asked.trans (h : t.Asked ks t') (h' : t'.Asked ks t'') : t.Asked ks t'' :=
  ⟨h'.engine.trans h.engine, h.server.trans h'.server⟩

theorem Asked.mono {js : List Request} (h : t.Asked js t') (sub : js ⊆ ks) : t.Asked ks t' :=
  ⟨h.engine, h.server.mono sub⟩

theorem Asked.reply (h : t.Asked ks t') {k : Request} (out : k ∉ ks) : t'.reply k = t.reply k := by
  cases k
  case openDriver =>
    show (do let _ ← t'.engine.driverSettings; t'.server.reply .openDriver) = _
    rw [h.engine, h.server _ out]
    rfl
  all_goals exact h.server _ out

theorem ask_yields {step : Exec Server α} {r : Result α}
    (h : step.Yields t.server r (t.server.Past ks)) : (ask step).Yields t r (t.Asked ks) :=
  .within (h.imp fun _ past => ⟨rfl, past⟩)

theorem log_yields (level : LogLevel) (message : String) :
    (log level message).Yields t (.ok ()) (t.Asked []) := ask_yields (Server.note_yields _)

theorem openDriver_yields :
    openDriver.Yields t ((t.reply .openDriver).map fun _ => t.server.drivers)
      (t.Asked [.openDriver]) := by
  refine .bind_get ?_
  dsimp only
  unfold reply
  cases e : t.engine.driverSettings with
  | error f => exact ⟨t, rfl, rfl, .refl _⟩
  | ok settings => exact .bind_ok (.ofResult (ask_yields (Server.openDriver_yields ..)))

theorem giveUp_yields (h : t.Asked ks t') (cause : Error)
    (off : t.engine.isConnected.isTruthy = false) :
    (giveUp cause).Yields t' (.ok (.unreachable t.engine.uri cause)) (t.Past ks) := by
  rw [← h.engine] at off ⊢
  refine .bind_ok (.of_modify (.bind_get (.bind_ok ((log_yields _ _).imp fun t₁ asked => ?_))))
  refine .of_pure ⟨h.server.trans (asked.server.mono (List.nil_subset _)), fun on => ?_⟩
  rw [asked.engine] at on
  exact absurd on (by simp [off])

theorem verify_yields (driver : Nat) :
    (ask (Server.verify driver)).Yields t ((t.reply .verify).map fun _ => ()) (t.Asked [.verify]) :=
  ask_yields (Server.verify_yields driver)

theorem startTurn_yields :
    startTurn.Yields t (.ok !t.engine.isConnected.isTruthy) (t.Asked []) := by
  unfold startTurn
  refine .bind_get ?_
  dsimp only
  split
  · next on =>
    rw [on]
    exact .of_pure ⟨rfl, .refl _⟩
  · next off =>
    rw [Bool.eq_false_iff.mpr off]
    exact .bind_ok ((log_yields _ _).imp fun _ logged => .of_pure logged)

theorem checkDriver_yields (d : Nat) (opened : t.Asked [.openDriver] t')
    (off : t.engine.isConnected.isTruthy = false) : (checkDriver d).Yields t'
      (.ok (match t.reply .verify with
        | .error e => .unanswered (.unreachable t.engine.uri e)
        | .ok _ => .connected)) fun u => t.Past [.openDriver, .verify] u ∧
      ((t.reply .verify).toOption.isSome → u.engine.isConnected.isTruthy = true) := by
  have verifying := verify_yields (t := t') d
  rw [opened.reply (by simp)] at verifying
  refine .bind_ok (verifying.attempt.imp fun t₁ asked => ?_)
  have verified : t.Asked [.openDriver, .verify] t₁ :=
    (opened.mono (by simp)).trans (asked.mono (by simp))
  cases e : t.reply .verify with
  | error cause =>
    exact .bind_ok ((giveUp_yields verified cause off).imp fun t₂ past => .of_pure ⟨past, nofun⟩)
  | ok _ =>
    refine .bind_ok (.of_modify (.bind_get (.bind_ok ((log_yields _ _).imp fun t₂ logged => ?_))))
    refine .of_pure ⟨⟨verified.server.trans (logged.server.mono (List.nil_subset _)), fun _ => ?_⟩,
      fun _ => ?_⟩
    · rw [logged.engine]
      exact ⟨_, rfl⟩
    · rw [logged.engine]
      rfl

/-- An attempt to connect never fails, whatever it comes to. -/
theorem takeTurn_yields (sound : t.engine.Sound) :
    takeTurn.Yields t (.ok t.turn) fun t' => t.Past [.openDriver, .verify] t' ∧
      (t.turn.result = .ok () → t'.engine.isConnected.isTruthy = true) := by
  unfold takeTurn turn
  refine .bind_ok (startTurn_yields.imp fun t₁ logged => ?_)
  cases on : t.engine.isConnected.isTruthy with
  | true =>
    refine .of_pure ⟨⟨logged.server.mono (List.nil_subset _), ?_⟩, fun _ => ?_⟩
    · rw [logged.engine]
      exact sound
    · rw [logged.engine]
      exact on
  | false =>
    have opening := openDriver_yields (t := t₁)
    rw [logged.reply List.not_mem_nil] at opening
    refine .bind_ok (opening.attempt.imp fun t₂ asked => ?_)
    have opened : t.Asked [.openDriver] t₂ := (logged.mono (List.nil_subset _)).trans asked
    cases e : t.reply .openDriver with
    | error cause =>
      exact .bind_ok ((giveUp_yields (opened.mono (by simp)) cause on).imp fun t₃ past =>
        .of_pure ⟨past, nofun⟩)
    | ok _ =>
      refine (checkDriver_yields _ opened on).imp fun t₃ checked => ⟨checked.1, fun answered => ?_⟩
      apply checked.2
      cases e' : t.reply .verify with
      | error cause =>
        simp only [e', Bool.false_eq_true, if_false] at answered
        cases answered
      | ok _ => rfl

/-! ### Attempts that are waiting -/

theorem takeTurns_yields : ∀ {n : Nat} {t : Station}, t.engine.Sound →
    (takeTurns n).Yields t (.ok ()) (t.Past [.openDriver, .verify])
  | 0, _, sound => .of_pure ⟨.refl _, sound⟩
  | _ + 1, _, sound => .bind_ok ((takeTurn_yields sound).discard.imp fun _ turn =>
    (takeTurns_yields turn.1.sound).imp fun _ => turn.1.trans)

/-- The engine after the attempts to connect that are waiting have had their turns. -/
def settled (t : Station) : Station := (settleWaiting.outcome t).2

theorem settleWaiting_yields (sound : t.engine.Sound) :
    settleWaiting.Yields t (.ok ()) fun t' => t' = t.settled ∧ t.Past [.openDriver, .verify] t' := by
  have settling : settleWaiting.Yields t (.ok ()) (t.Past [.openDriver, .verify]) := by
    refine .bind_get (.bind_ok (.of_modify ((takeTurns_yields ?_).imp fun _ past => ?_)))
    · exact sound
    · exact ⟨past.server, past.sound⟩
  obtain ⟨t', e, past⟩ := settling
  exact ⟨t', e, by rw [settled, e], past⟩

theorem settled_past (sound : t.engine.Sound) : t.Past [.openDriver, .verify] t.settled := by
  obtain ⟨t', -, rfl, past⟩ := settleWaiting_yields sound
  exact past

/-- Connecting comes to what the next attempt comes to, after those that are waiting. -/
theorem connect_yields (sound : t.engine.Sound) :
    connect.Yields t t.settled.turn.result fun t' =>
      t.settled.Past [.openDriver, .verify] t' ∧
      (t.settled.turn.result = .ok () → t'.engine.isConnected.isTruthy = true) := by
  refine .bind_ok ((settleWaiting_yields sound).imp fun t₁ settling => ?_)
  obtain ⟨rfl, past⟩ := settling
  refine .bind_ok ((takeTurn_yields past.sound).imp fun t₂ turn => ?_)
  cases e : t.settled.turn with
  | connected => exact .of_pure ⟨turn.1, fun done => turn.2 (e ▸ done)⟩
  | refused e | unanswered e => exact .ofResult ⟨turn.1, nofun⟩

/-- A session is refused only by the server, once the engine is connected. -/
theorem openSession_yields (database : Value) (sound : t.engine.Sound)
    (on : t.engine.isConnected.isTruthy = true) :
    (openSession database).Yields t ((t.reply .openSession).map fun _ => t.server.sessions)
      (t.Asked [.openSession]) := by
  obtain ⟨n, driver⟩ := sound on
  have ready : t.engine.driver?.bind (DriverRef.need "session") = .ok n := by
    unfold Engine.driver?
    rw [driver, on]
    rfl
  refine .bind_get ?_
  dsimp only
  rw [ready]
  exact .bind_ok (.ofResult (ask_yields (Server.openSession_yields ..)))

end Station

/-! ### The connection -/

namespace Channel

/-- A connection whose parts are what they are made to be: what it runs statements on is a session, what
it holds is a transaction, its log is a list, its grammar can write dates, its engine is sound, and
nothing has been put in the place of a part. -/
structure Regular (c : Channel) : Prop where
  onSession : c.OnSession
  inTransaction : c.InTransaction
  instead : c.connection.instead = []
  pattern : ∃ pattern, c.datePattern = some pattern
  queryLog : ∃ entries mark, c.connection.queryLog = .list entries mark
  sound : c.engine.Sound

/-- The engine and the server as a connection finds them, when the attempts to connect that are waiting
have had their turns. -/
def link (c : Channel) : Station := (stationPart.get c).settled

/-- The requests that open a session, unless there is one. -/
def openings (c : Channel) : List Request :=
  match c.connection.client with
  | some _ => []
  | none => c.link.engine.openings ++ [.openSession]

/-- A later state, after requests of these kinds; of the connection itself only the session has
changed. -/
structure After (c : Channel) (ks : List Request) (c' : Channel) : Prop where
  connection : c'.connection = { c.connection with client := c'.connection.client }
  datePattern : c'.datePattern = c.datePattern
  onSession : c'.OnSession
  sound : c'.engine.Sound
  server : c.server.Past ks c'.server

variable {α : Type} {c c' : Channel}

theorem After.refl (h : c.Regular) (ks : List Request) : c.After ks c :=
  ⟨rfl, rfl, h.onSession, h.sound, .refl _⟩

theorem After.mono {js ks : List Request} (h : c.After js c') (sub : js ⊆ ks) : c.After ks c' :=
  ⟨h.connection, h.datePattern, h.onSession, h.sound, h.server.mono sub⟩

theorem ask_instead (h : c.Regular) (place action : String) :
    c.connection.ask place action = .ok () := by
  unfold Connection.ask
  rw [h.instead]
  rfl

theorem connect_yields (h : c.Regular) :
    (onStation Station.connect).Yields c c.link.turn.result fun c₁ =>
      c.After [.openDriver, .verify] c₁ ∧
      c.link.server.Past [.openDriver, .verify] c₁.server ∧
      (c.link.turn.result = .ok () → c₁.engine.isConnected.isTruthy = true) := by
  refine .within ((Station.connect_yields h.sound).imp fun t post => ?_)
  refine ⟨⟨rfl, rfl, h.onSession, post.1.sound, ?_⟩, post.1.server, post.2⟩
  exact (Station.settled_past (t := stationPart.get c) h.sound).server.trans post.1.server

/-- The requests that may be made before a session is there. -/
abbrev opening : List Request := [.openDriver, .verify, .openSession]

theorem openSession_yields {c₁ : Channel} (after : c.After [.openDriver, .verify] c₁)
    (server : c.link.server.Past [.openDriver, .verify] c₁.server)
    (on : c₁.engine.isConnected.isTruthy = true) (database : Value) :
    (onStation (Station.openSession database)).Yields c₁
      ((c.link.reply .openSession).map fun _ => c₁.server.sessions) (c.After opening) := by
  have session := Station.openSession_yields (t := stationPart.get c₁) database after.sound on
  have reply : (stationPart.get c₁).reply .openSession = c.link.reply .openSession :=
    server .openSession (by simp)
  rw [reply] at session
  refine .within (session.imp fun t asked => ?_)
  refine ⟨after.connection, after.datePattern, after.onSession, ?_, ?_⟩
  · show t.engine.Sound
    rw [asked.engine]
    exact after.sound
  · exact (after.server.mono (by simp)).trans (asked.server.mono (by simp))

/-- What is done with a session is done after the requests that open it. -/
theorem client_yields (h : c.Regular) {f : Client → Exec Channel α} {r : Result α}
    {good : Channel → Prop}
    (next : ∀ n c', c.After opening c' → (f (.on (.session n))).Yields c' r good)
    (failed : ∀ c', c.After opening c' → good c') :
    (client >>= f).Yields c (c.link.tried c.openings >>= fun _ => r) good := by
  unfold client openings
  rw [bind_assoc]
  refine .bind_get ?_
  dsimp only
  cases found : c.connection.client with
  | some x =>
    obtain ⟨n, rfl⟩ := h.onSession x found
    exact .bind_ok (.of_pure (next n c (.refl h _)))
  | none =>
    simp only [bind_assoc, ask_instead h, Station.tried_openings]
    refine .bind_ok (.ofResult ?_)
    refine (connect_yields h).bind (fun _ c₁ done post => ?_) fun c₁ post =>
      failed c₁ (post.1.mono (by simp))
    refine .bind_ok (.ofResult ?_)
    refine (openSession_yields post.1 post.2.1 (post.2.2 done) _).bind_reply (fun _ c₂ after => ?_) failed
    refine .bind_ok (.of_modify (.bind_ok (.of_pure (next _ _ ?_))))
    refine ⟨?_, after.datePattern, ?_, after.sound, after.server⟩
    · rw [after.connection]
    · rintro x e
      exact ⟨_, (Option.some.inj e).symm⟩

end Channel

end GraphQuery
