import GraphQuery.Proofs.Session.EngineCalls

/-! # Which drivers are closed

An `EngineUse` is what a caller does with an engine, one thing after another: it connects, it closes, or
it uses the engine as long as something else lasts. After each of them it sees how that ended, so it can
try again, or let a failure through.

Each time the engine has been closed, those drivers have been closed, and once each, that the server
answered when they were checked (`EngineUse.closed_drivers`). One that it did not answer was handed out
and is never closed (`EngineUse.driver_left_open`): the attempt to connect drops it before the engine
has taken it. -/

namespace GraphQuery

open Exec

/-- What is done with an engine next may depend on how everything before has ended. -/
inductive EngineUse where
  | finish
  | fail (e : Error)
  | connect (next : Result Unit → EngineUse)
  | close (next : Result Unit → EngineUse)
  /-- the engine is connected first, and closed when the body has ended -/
  | inside (body : EngineUse) (next : Result Unit → EngineUse)

/-- Uses the engine that is a part of a state. -/
def EngineUse.run {σ : Type} (part : Focus σ Station) : EngineUse → Exec σ Unit
  | finish => pure ()
  | fail e => Exec.fail e
  | connect next => do
    let r ← (Station.connect.within part).attempt
    (next r).run part
  | close next => do
    let r ← (Station.close.within part).attempt
    (next r).run part
  | inside body next => do
    let r ← (withEngine part (body.run part)).attempt
    (next r).run part

/-- An engine with its server, and each step on it, before and after. -/
structure EngineJourney where
  station : Station
  steps : List (Station × Station)

/-- The engine of a journey. A step on it is noted. -/
def EngineJourney.part : Focus EngineJourney Station :=
  ⟨(·.station), fun s j => ⟨s, j.steps ++ [(j.station, s)]⟩⟩

/-- What becomes of an engine, step by step. -/
def EngineUse.journey (use : EngineUse) (s : Station) : EngineJourney :=
  ((use.run EngineJourney.part).outcome ⟨s, []⟩).2

theorem EngineUse.run_connect (next : Result Unit → EngineUse) (j : EngineJourney) :
    ((connect next).run EngineJourney.part).outcome j =
      ((next (Station.connect.outcome j.station).1).run EngineJourney.part).outcome
        ⟨(Station.connect.outcome j.station).2,
          j.steps ++ [(j.station, (Station.connect.outcome j.station).2)]⟩ := rfl

theorem EngineUse.run_close (next : Result Unit → EngineUse) (j : EngineJourney) :
    ((close next).run EngineJourney.part).outcome j =
      ((next (Station.close.outcome j.station).1).run EngineJourney.part).outcome
        ⟨(Station.close.outcome j.station).2,
          j.steps ++ [(j.station, (Station.close.outcome j.station).2)]⟩ := rfl

/-- A step that ended where closing the engine ends. -/
def IsClosing (step : Station × Station) : Prop := step.2 = (Station.close.outcome step.1).2

theorem isClosing (s : Station) : IsClosing (s, (Station.close.outcome s).2) := rfl

/-- Of the drivers that were handed out, those have been closed, once each, that passed their check. -/
def ClosedIfAnswered (answers : List Response) (s : Server) : Prop :=
  ∀ d, d < s.drivers → driverClosings d s.events = if refuses answers[d]? then 0 else 1

variable {answers : List Response} {s : Station}

/-- Without a driver, no driver is left to be closed. -/
theorem Books.closedIfAnswered (h : Books answers s none) (off : s.engine.driver = none) :
    ClosedIfAnswered answers s.server := by
  obtain ⟨kept, held, ledger⟩ := h.drivers
  obtain rfl : kept = none := by
    rw [off] at held
    exact Option.map_eq_none_iff.mp held.symm
  intro d handedOut
  rw [ledger.closed]
  cases refuses answers[d]? <;> simp [handedOut]

/-- The books are in order, and were at the end of each step that closed the engine. -/
structure KeptBooks (answers : List Response) (j : EngineJourney) : Prop where
  books : Books answers j.station none
  closings : ∀ step ∈ j.steps, IsClosing step → ClosedIfAnswered answers step.2.server

theorem KeptBooks.within {step : Exec Station Unit}
    (keeps : ∀ s, Books answers s none → Books answers (step.outcome s).2 none) :
    (step.within EngineJourney.part).Maintains (KeptBooks answers) := by
  refine .within fun j h => ⟨keeps _ h.books, fun made member closing => ?_⟩
  rcases List.mem_append.mp member with old | last
  · exact h.closings made old closing
  · obtain rfl := List.mem_singleton.mp last
    have off := h.books.close.2
    rw [← show (step.outcome j.station).2 = _ from closing] at off
    exact (keeps _ h.books).closedIfAnswered off

theorem EngineUse.run_keptBooks : ∀ use : EngineUse,
    (use.run EngineJourney.part).Maintains (KeptBooks answers)
  | finish => .of_pure ()
  | fail e => .fail e
  | connect next => (KeptBooks.within fun _ h => h.connect).attempt.bind fun r => (next r).run_keptBooks
  | close next => (KeptBooks.within fun _ h => h.close.1).attempt.bind fun r => (next r).run_keptBooks
  | inside body next => by
    have closing : (Station.close.within EngineJourney.part).Maintains (KeptBooks answers) :=
      KeptBooks.within fun _ h => h.close.1
    have used : (withEngine EngineJourney.part (body.run EngineJourney.part)).Maintains
        (KeptBooks answers) :=
      (KeptBooks.within fun _ h => h.connect).bind fun _ => body.run_keptBooks.ensuring closing
    exact used.attempt.bind fun r => (next r).run_keptBooks

/-- Whatever is done with an engine and whatever the server refuses: each time the engine has been
closed, the drivers that passed their check have been closed, once each, and no other one. -/
theorem EngineUse.closed_drivers (uri auth database : Value) (driverConfig : Row)
    (script : List (String × List Response)) (use : EngineUse) :
    ∀ step ∈ (use.journey (.facing uri auth database driverConfig script)).steps,
      IsClosing step → ClosedIfAnswered (checksIn script) step.2.server :=
  (use.run_keptBooks ⟨_, []⟩ ⟨.facing .., fun _ none => (List.not_mem_nil none).elim⟩).closings

/-- A script in which the server does not answer the first driver. -/
def unansweredOnce : List (String × List Response) :=
  [("verify", [.failure ⟨.unavailable, "unreachable"⟩])]

/-- Two attempts to connect, of which the server answered the second one. -/
theorem EngineUse.closed_drivers_retried : ∃ step ∈
    ((EngineUse.connect fun _ => .connect fun _ => .close fun _ => .finish).journey
      (.facing (.text "bolt://db") .null (.text "neo4j") [] unansweredOnce)).steps,
    IsClosing step ∧ step.2.server.drivers = 2 ∧ driverClosings 0 step.2.server.events = 0 ∧
      driverClosings 1 step.2.server.events = 1 := by
  have closed := EngineUse.closed_drivers (.text "bolt://db") .null (.text "neo4j") [] unansweredOnce
    (.connect fun _ => .connect fun _ => .close fun _ => .finish)
  obtain ⟨s, start⟩ : ∃ s,
      Station.facing (.text "bolt://db") .null (.text "neo4j") [] unansweredOnce = s := ⟨_, rfl⟩
  have two : (Station.close.outcome (Station.connect.outcome
      (Station.connect.outcome s).2).2).2.server.drivers = 2 := by
    rw [← start]
    decide +kernel
  rw [start] at closed ⊢
  unfold journey at closed ⊢
  rw [run_connect, run_connect, run_close] at closed ⊢
  have counts := closed _ (List.mem_append_right _ (List.mem_singleton_self _)) (isClosing _)
  refine ⟨_, List.mem_append_right _ (List.mem_singleton_self _), isClosing _, two, ?_, ?_⟩
  · exact (counts 0 (by rw [two]; decide)).trans (by decide)
  · exact (counts 1 (by rw [two]; decide)).trans (by decide)

/-- The driver of a failed attempt to connect is still open when the engine has been closed. -/
theorem EngineUse.driver_left_open :
    ∃ step ∈ ((EngineUse.connect fun _ => .close fun _ => .finish).journey
      (.facing (.text "bolt://db") .null (.text "neo4j") [] unansweredOnce)).steps,
    IsClosing step ∧ step.2.server.drivers = 1 ∧ driverClosings 0 step.2.server.events = 0 := by
  obtain ⟨s, start⟩ : ∃ s,
      Station.facing (.text "bolt://db") .null (.text "neo4j") [] unansweredOnce = s := ⟨_, rfl⟩
  have counts : (Station.close.outcome (Station.connect.outcome s).2).2.server.drivers = 1 ∧
      driverClosings 0 (Station.close.outcome (Station.connect.outcome s).2).2.server.events = 0 := by
    rw [← start]
    exact ⟨by decide +kernel, by decide +kernel⟩
  rw [start]
  unfold journey
  rw [run_connect, run_close]
  exact ⟨_, List.mem_append_right _ (List.mem_singleton_self _), isClosing _, counts⟩

end GraphQuery
