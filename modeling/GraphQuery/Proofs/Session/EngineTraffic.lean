import GraphQuery.Proofs.Session.EngineCalls

/-! # Many calls on one engine

Any number of calls of `connect` and `close` run on an engine, each at its own pace. A call that waits
may begin while nobody holds the lock, and holds it until it has ended; in which order they come to it,
and what the server refuses, is left open. `EngineTraffic.Step` is one turn of one call, or a new call.

Whatever happens (`EngineTraffic.Reached.orderly`):

* while the lock is free the engine is connected exactly if it has a driver;
* a driver is asked for only while the engine has none;
* no driver is closed twice;
* a call of `connect` that ends well leaves the engine connected.

No call gets stuck either: one that may take a turn can take it and comes closer to its end, and while
there is a call that has not ended, one of them may take a turn (`EngineTraffic.Reached.progress`). -/

namespace GraphQuery

/-- An engine with its server, the call that holds its lock, and all calls that have been made. -/
structure EngineTraffic where
  station : Station
  holder : Option Nat
  calls : List EngineCall

namespace EngineTraffic

/-- No call has been made yet. -/
def start (s : Station) : EngineTraffic := ⟨s, none, []⟩

/-- Whether a call may take a turn: one that waits needs the lock to be free, one that is at work holds
it. -/
def MayTurn (t : EngineTraffic) (i : Nat) : EngineCall → Prop
  | .connect | .close => t.holder = none
  | .working _ => t.holder = some i
  | .connected _ | .closed _ => False

/-- After a turn of a call. It holds the lock as long as it is at work. -/
def turned (t : EngineTraffic) (i : Nat) (next : EngineCall) (s : Station) : EngineTraffic :=
  ⟨s, next.work?.map fun _ => i, t.calls.set i next⟩

/-- A new call, or a turn of one. -/
inductive Step : EngineTraffic → EngineTraffic → Prop
  | connects (t : EngineTraffic) : Step t { t with calls := t.calls ++ [.connect] }
  | closes (t : EngineTraffic) : Step t { t with calls := t.calls ++ [.close] }
  | turns {t : EngineTraffic} {i : Nat} {call next : EngineCall} {s : Station}
      (there : t.calls[i]? = some call) (may : t.MayTurn i call)
      (ran : call.advance.outcome t.station = (.ok next, s)) : Step t (t.turned i next s)

/-- What comes of an engine in any number of steps. -/
inductive Reached (first : EngineTraffic) : EngineTraffic → Prop
  | refl : Reached first first
  | step {t t' : EngineTraffic} (h : Reached first t) (s : Step t t') : Reached first t'

theorem Reached.turn {first t : EngineTraffic} (h : Reached first t) (i : Nat)
    {call next : EngineCall} {s : Station} (there : t.calls[i]? = some call)
    (ran : call.advance.outcome t.station = (.ok next, s)) (may : t.MayTurn i call) :
    Reached first (t.turned i next s) := h.step (.turns there may ran)

/-! ### One call at a time -/

/-- What the call that holds the lock is at work on. -/
def work? (t : EngineTraffic) : Option EngineWork :=
  t.holder.bind fun i => t.calls[i]?.bind EngineCall.work?

/-- At most one call is at work, and that one holds the lock; the books on the drivers are in order. -/
structure Sound (answers : List Response) (t : EngineTraffic) : Prop where
  alone : ∀ i call, t.calls[i]? = some call → call.work?.isSome → t.holder = some i
  working : ∀ i, t.holder = some i → ∃ work, t.calls[i]? = some (.working work)
  books : Books answers t.station t.work?

variable {answers : List Response} {t t' : EngineTraffic} {i : Nat} {call next : EngineCall}
  {s : Station}

theorem work?_of_mayTurn (there : t.calls[i]? = some call) (may : t.MayTurn i call) :
    t.work? = call.work? := by
  unfold work?
  cases call with
  | connect | close =>
    rw [show t.holder = none from may]
    rfl
  | working work =>
    rw [show t.holder = some i from may]
    show t.calls[i]?.bind EngineCall.work? = _
    rw [there]
    rfl
  | connected _ | closed _ => exact may.elim

theorem isFinished_of_mayTurn (may : t.MayTurn i call) : call.isFinished = false := by
  cases call with
  | connect | close | working _ => rfl
  | connected _ | closed _ => exact may.elim

theorem calls_turned (there : t.calls[i]? = some call) (j : Nat) :
    (t.turned i next s).calls[j]? = if i = j then some next else t.calls[j]? := by
  obtain ⟨inside, -⟩ := List.getElem?_eq_some_iff.mp there
  show (t.calls.set i next)[j]? = _
  by_cases same : i = j
  · subst same
    rw [if_pos rfl, List.getElem?_set_self inside]
  · rw [if_neg same, List.getElem?_set_ne same]

theorem work?_turned (there : t.calls[i]? = some call) : (t.turned i next s).work? = next.work? := by
  unfold work?
  show (next.work?.map fun _ => i).bind _ = _
  cases work : next.work? with
  | none => rfl
  | some _ =>
    show (t.turned i next s).calls[i]?.bind EngineCall.work? = _
    rw [calls_turned there, if_pos rfl]
    exact work

namespace Sound

theorem advance (h : t.Sound answers) (there : t.calls[i]? = some call) (may : t.MayTurn i call) :
    call.advance.Ends t.station (Advances answers t.station call) fun _ => False := by
  have books := h.books
  rw [work?_of_mayTurn there may] at books
  exact EngineCall.advance_ends books (isFinished_of_mayTurn may)

theorem arrives (h : t.Sound answers) (waits : call.work? = none) :
    Sound answers { t with calls := t.calls ++ [call] } := by
  have old (j : Nat) (call' : EngineCall) (there : t.calls[j]? = some call') :
      (t.calls ++ [call])[j]? = some call' := by
    obtain ⟨inside, -⟩ := List.getElem?_eq_some_iff.mp there
    rw [List.getElem?_append_left inside, there]
  have same : ({ t with calls := t.calls ++ [call] } : EngineTraffic).work? = t.work? := by
    unfold work?
    cases held : t.holder with
    | none => rfl
    | some j =>
      obtain ⟨work, there⟩ := h.working j held
      show (t.calls ++ [call])[j]?.bind _ = t.calls[j]?.bind _
      rw [old j _ there, there]
  refine ⟨fun j call' there at' => ?_, fun j held => ?_, same ▸ h.books⟩
  · rw [List.getElem?_append] at there
    split at there
    · exact h.alone j call' there at'
    · obtain ⟨inside, e⟩ := List.getElem?_eq_some_iff.mp there
      rw [List.getElem_singleton] at e
      rw [← e, waits] at at'
      cases at'
  · obtain ⟨work, there⟩ := h.working j held
    exact ⟨work, old j _ there⟩

/-- After a turn at most one call is at work as before. -/
theorem turned (h : t.Sound answers) (there : t.calls[i]? = some call) (may : t.MayTurn i call)
    (books : Books answers s next.work?) : (t.turned i next s).Sound answers := by
  refine ⟨fun j call' there' at' => ?_, fun j held => ?_, ?_⟩
  · rw [calls_turned there] at there'
    split at there'
    · next same =>
      obtain rfl := Option.some.inj there'
      obtain ⟨work, e⟩ := Option.isSome_iff_exists.mp at'
      show (next.work?.map fun _ => i) = some j
      rw [e, same]
      rfl
    · next other =>
      -- another call that is at work would hold the lock, which this one has or which is free
      have held := h.alone j call' there' at'
      cases call with
      | connect | close => cases held.symm.trans may
      | working _ => exact absurd (Option.some.inj (may.symm.trans held)) other
      | connected _ | closed _ => exact may.elim
  · obtain ⟨work, e, same⟩ := Option.map_eq_some_iff.mp held
    subst same
    refine ⟨work, ?_⟩
    rw [calls_turned there, if_pos rfl]
    cases next <;> cases e
    rfl
  · rw [work?_turned there]
    exact books

theorem step (h : t.Sound answers) (step : Step t t') : t'.Sound answers := by
  cases step with
  | connects => exact h.arrives rfl
  | closes => exact h.arrives rfl
  | turns there may ran =>
    exact h.turned there may ((h.advance there may).1 _ _ ran).books

end Sound

/-! ### All runs -/

variable {uri auth database : Value} {driverConfig : Row} {script : List (String × List Response)}

theorem start_sound (books : Books answers s none) : (start s).Sound answers where
  alone _ _ none := by cases none
  working _ none := by cases none
  books := books

theorem Reached.sound (h : Reached (start (.facing uri auth database driverConfig script)) t) :
    t.Sound (checksIn script) := by
  induction h with
  | refl => exact start_sound (.facing ..)
  | step _ s ih => exact ih.step s

namespace Sound

theorem closings_le (h : t.Sound answers) (d : Nat) :
    driverClosings d t.station.server.events ≤ 1 := by
  have once {s : Server} {checked : Nat} {kept : Option Nat}
      (ledger : DriverLedger answers s checked kept) : driverClosings d s.events ≤ 1 := by
    rw [ledger.closed]
    split <;> omega
  have drivers := h.books.drivers
  cases work : t.work? with
  | none =>
    rw [work] at drivers
    obtain ⟨kept, -, ledger⟩ := drivers
    exact once ledger
  | some work' =>
    rw [work] at drivers
    cases work' with
    | opening => exact once drivers.2
    | verifying d => exact once drivers.2.2
    | closing d =>
      obtain ⟨-, n, -, ledger⟩ := drivers
      exact once ledger

/-- A driver is asked for only while the engine has none. -/
theorem step_asks (h : t.Sound answers) (step : Step t t') :
    ∃ es, t'.station.server.events = t.station.server.events ++ es ∧
      ((∃ e ∈ es, e.asksDriver = true) → t.station.engine.driver = none) := by
  cases step with
  | connects | closes => exact ⟨[], (List.append_nil _).symm, by simp⟩
  | turns there may ran => exact ((h.advance there may).1 _ _ ran).asks

theorem step_connected (h : t.Sound answers) (step : Step t t') {j : Nat}
    (ended : t'.calls[j]? = some (.connected (.ok ()))) :
    t.calls[j]? = some (.connected (.ok ())) ∨ t'.station.engine.isConnected.isTruthy = true := by
  have arrived {call : EngineCall} (waits : call.isFinished = false)
      (ended : (t.calls ++ [call])[j]? = some (.connected (.ok ()))) :
      t.calls[j]? = some (.connected (.ok ())) := by
    rw [List.getElem?_append] at ended
    split at ended
    · exact ended
    · obtain ⟨inside, e⟩ := List.getElem?_eq_some_iff.mp ended
      rw [List.getElem_singleton] at e
      rw [e] at waits
      cases waits
  cases step with
  | connects => exact Or.inl (arrived rfl ended)
  | closes => exact Or.inl (arrived rfl ended)
  | turns there may ran =>
    rw [calls_turned there] at ended
    split at ended
    · exact Or.inr (((h.advance there may).1 _ _ ran).connected (Option.some.inj ended))
    · exact Or.inl ended

end Sound

/-- While the lock is free, the engine is connected exactly if it has a driver. No driver is closed
twice, one is asked for only while the engine has none, and a call of `connect` that ends well leaves
the engine connected. -/
theorem Reached.orderly (h : Reached (start (.facing uri auth database driverConfig script)) t) :
    (t.holder = none → t.station.engine.isConnected = .bool t.station.engine.driver.isSome) ∧
    (∀ d, driverClosings d t.station.server.events ≤ 1) ∧
    ∀ t', Step t t' →
      (∃ es, t'.station.server.events = t.station.server.events ++ es ∧
        ((∃ e ∈ es, e.asksDriver = true) → t.station.engine.driver = none)) ∧
      ∀ j : Nat, t'.calls[j]? = some (EngineCall.connected (.ok ())) →
        t.calls[j]? = some (EngineCall.connected (.ok ())) ∨
          t'.station.engine.isConnected.isTruthy = true :=
  ⟨fun _ => h.sound.books.flag, h.sound.closings_le, fun _ step =>
    ⟨h.sound.step_asks step, fun _ ended => h.sound.step_connected step ended⟩⟩

/-- One call of `connect` has been refused, and while a call of `close` waits another one ends well. -/
theorem Reached.orderly_retried : ∃ t t' : EngineTraffic, Step t t' ∧
    (∃ e, t.calls = [.connected (.error e), .close, .working (.verifying 1)]) ∧
    t'.calls[2]? = some (EngineCall.connected (.ok ())) ∧
    t'.station.engine.isConnected.isTruthy = true ∧
    ∀ d, driverClosings d t.station.server.events ≤ 1 := by
  let refusal := Response.failure ⟨.unavailable, "unreachable"⟩
  let first := start (.facing (.text "bolt://db") .null (.text "neo4j") [] [("verify", [refusal])])
  -- the engine without a driver, after some events, with checks to come and drivers handed out
  let idle (es : List Event) (checks : List Response) (drivers : Nat) : Station :=
    ⟨first.station.engine, ⟨[("verify", checks)], es, drivers, 0, 0⟩⟩
  have begun (es : List Event) (checks : List Response) (n : Nat) : ∃ es',
      (EngineCall.advance .connect).outcome (idle es checks n) =
        (.ok (.working .opening), idle es' checks n) := ⟨_, rfl⟩
  have opened (es : List Event) (checks : List Response) (n : Nat) : ∃ es',
      (EngineCall.advance (.working .opening)).outcome (idle es checks n) =
        (.ok (.working (.verifying n)), idle es' checks (n + 1)) := ⟨_, rfl⟩
  obtain ⟨es₁, begun₁⟩ := begun [] [refusal] 0
  obtain ⟨es₂, opened₁⟩ := opened es₁ [refusal] 0
  obtain ⟨es₃, e, refused⟩ : ∃ es e,
      (EngineCall.advance (.working (.verifying 0))).outcome (idle es₂ [refusal] 1) =
        (.ok (.connected (.error e)), idle es [] 1) := ⟨_, _, rfl⟩
  obtain ⟨es₄, begun₂⟩ := begun es₃ [] 1
  obtain ⟨es₅, opened₂⟩ := opened es₄ [] 1
  obtain ⟨_, answered⟩ : ∃ s,
      (EngineCall.advance (.working (.verifying 1))).outcome (idle es₅ [] 2) =
        (.ok (.connected (.ok ())), s) := ⟨_, rfl⟩
  have came : Reached first ⟨idle [] [refusal] 0, none, [.connect, .close, .connect]⟩ :=
    ((Reached.refl.step (.connects _)).step (.closes _)).step (.connects _)
  have failed : Reached first ⟨idle es₃ [] 1, none, [.connected (.error e), .close, .connect]⟩ :=
    ((came.turn 0 rfl begun₁ rfl).turn 0 rfl opened₁ rfl).turn 0 rfl refused rfl
  have waiting : Reached first
      ⟨idle es₅ [] 2, some 2, [.connected (.error e), .close, .working (.verifying 1)]⟩ :=
    (failed.turn 2 rfl begun₂ rfl).turn 2 rfl opened₂ rfl
  have last := Step.turns
    (t := ⟨idle es₅ [] 2, some 2, [.connected (.error e), .close, .working (.verifying 1)]⟩) (i := 2)
    rfl rfl answered
  obtain ⟨-, once, steps⟩ := waiting.orderly
  refine ⟨_, _, last, ⟨e, rfl⟩, rfl, ?_, once⟩
  rcases (steps _ last).2 2 rfl with before | connected
  · cases before
  · exact connected

/-- A call that may take a turn can take it, and is closer to its end then. While there is a call that
has not ended, one of them may take a turn. -/
theorem Reached.progress (h : Reached (start (.facing uri auth database driverConfig script)) t)
    (there : t.calls[i]? = some call) :
    (t.MayTurn i call → ∃ next s, Step t (t.turned i next s) ∧ next.turnsLeft < call.turnsLeft) ∧
    (call.isFinished = false → ∃ (j : Nat) (call' : EngineCall),
      t.calls[j]? = some call' ∧ t.MayTurn j call') := by
  constructor
  · intro may
    have ends := h.sound.advance there may
    cases ran : call.advance.outcome t.station with
    | mk r s =>
      cases r with
      | ok next => exact ⟨next, s, .turns there may ran, (ends.1 next s ran).sooner⟩
      | error e => exact (ends.2 e s ran).elim
  · intro going
    cases held : t.holder with
    | some j =>
      obtain ⟨work, at'⟩ := h.sound.working j held
      exact ⟨j, _, at', held⟩
    | none =>
      refine ⟨i, call, there, ?_⟩
      cases call with
      | connect | close => exact held
      | working work =>
        have holds := h.sound.alone i _ there rfl
        rw [held] at holds
        cases holds
      | connected _ | closed _ => cases going

end EngineTraffic

end GraphQuery
