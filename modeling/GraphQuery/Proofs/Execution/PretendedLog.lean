import GraphQuery.Proofs.Execution.Pretence
import GraphQuery.Proofs.Session.Failures

/-! # The log of a pretence

A callback of `pretend` that runs statements, by itself or by builders, is answered with placeholders, so
what it does is settled before it runs (`Activity.Imagined`).  `pretend_logs` tells that this is what
happens on every connection: the log has one entry for each statement, in the order of the calls, and
afterwards the connection is as before but for the log. -/

namespace GraphQuery

open GraphQuery.Text

namespace Statement

/-- What a statement is answered with while the connection pretends. -/
def placeholder : (s : Statement) → s.Answer
  | select .. | insert .. => []
  | selectOne .. => .null
  | affecting .. => (0 : Int)
  | change .. | unprepared _ => ()

/-- The entry of a statement in the log: its text, and the bindings as they were given. -/
def entry (s : Statement) : Value :=
  logEntry s.text (if s.bindings.isTruthy then s.bindings else .ofPairs []) noTime

end Statement

/-! ### Answers by placeholders -/

namespace Talk

variable {α : Type}

/-- The statements of a talk in which each of them is answered with its placeholder. -/
def calls : Talk α → List Statement
  | done .. => []
  | ask s next => s :: (next (.ok s.placeholder)).calls

/-- How a talk ends in which each statement is answered with its placeholder. -/
def ending : Talk α → Result α × LiveQuery
  | done r l => (r, l)
  | ask s next => (next (.ok s.placeholder)).ending

end Talk

/-- The connection that pretends, after some statements. -/
def Channel.imagining (c : Channel) (calls : List Statement) : Channel :=
  { c with
    connection := { c.connection with
      isPretending := .bool true
      logsQueries := .bool true
      queryLog := .ofList (calls.map Statement.entry) } }

/-- How a callback of `pretend` goes on after some statements if each statement is answered with its
placeholder: all the statements up to its end, and how it ends.  The statements of a builder are those of
its talk, and it comes back on the connection as it is then. -/
inductive Activity.Imagined (c : Channel) :
    (earlier : List Statement) → Activity Task.Answer → (calls : List Statement) → Result Value → Prop
  | finish {earlier : List Statement} (v : Value) : Imagined c earlier (.finish v) earlier (.ok v)
  | fail {earlier : List Statement} (e : Error) : Imagined c earlier (.fail e) earlier (.error e)
  | statement {earlier calls : List Statement} {r : Result Value} {s : Statement}
      {next : Result s.Answer → Activity Task.Answer} :
      Imagined c (earlier ++ [s]) (next (.ok s.placeholder)) calls r →
      Imagined c earlier (.act (.statement s) next) calls r
  | query {earlier calls : List Statement} {r : Result Value} {l : LiveQuery} {q : Use}
      {next : Result (Result q.Answer × LiveQuery) → Activity Task.Answer} {t : Talk q.Answer} :
      (∀ c, q.run.outcome (l.on c) = t.outcomeOn c) →
      Imagined c (earlier ++ t.calls)
        (next (.ok (t.ending.1, t.ending.2.on (c.imagining (earlier ++ t.calls))))) calls r →
      Imagined c earlier (.act (.query l q) next) calls r

namespace Channel

variable {α : Type} {c : Channel} {calls : List Statement}

/-- While the connection pretends, a statement is answered with its placeholder and noted. -/
theorem run_imagining (s : Statement) {pretended : α} {step : Exec Channel α} :
    (run s.text s.bindings pretended step).outcome (c.imagining calls) =
      (.ok pretended, c.imagining (calls ++ [s])) := by
  unfold run
  rw [Exec.outcome_ensuring]
  have tried : (wrapFailure s.text s.bindings (do
      if (← get).connection.isPretending.isTruthy then return pretended
      step)).outcome (c.imagining calls) = (.ok pretended, c.imagining calls) := rfl
  rw [tried]
  have noted : (logQuery s.text s.bindings noTime).outcome (c.imagining calls) =
      (.ok (), c.imagining (calls ++ [s])) := by
    unfold imagining
    rw [List.map_append]
    rfl
  rw [noted]

end Channel

theorem Statement.run_imagining {c : Channel} {calls : List Statement} (s : Statement) :
    s.run.outcome (c.imagining calls) = (.ok s.placeholder, c.imagining (calls ++ [s])) := by
  cases s with
  | select text bindings => exact Channel.run_imagining (.select text bindings)
  | selectOne text bindings =>
    exact Exec.outcome_bind_ok (Channel.run_imagining (.selectOne text bindings)) _
  | insert text bindings => exact Channel.run_imagining (.insert text bindings)
  | change text bindings => exact Channel.run_imagining (.change text bindings)
  | affecting text bindings => exact Channel.run_imagining (.affecting text bindings)
  | unprepared text => exact Channel.run_imagining (.unprepared text)

theorem Talk.outcome_imagining {α : Type} {c : Channel} : ∀ (t : Talk α) {earlier : List Statement},
    t.outcomeOn (c.imagining earlier) =
      (t.ending.1, t.ending.2.on (c.imagining (earlier ++ t.calls)))
  | done r l, earlier => by
    rw [calls, List.append_nil]
    rfl
  | ask s next, earlier => by
    rw [outcomeOn, s.run_imagining, outcome_imagining, calls, List.append_assoc]
    rfl

/-! ### Callbacks -/

namespace Activity

variable {c : Channel} {earlier calls : List Statement} {body : Activity Task.Answer} {r : Result Value}

/-- A callback that only runs statements. -/
abbrev onChannel (body : Activity Task.Answer) : Exec Channel Value := body.run Task.run fun _ => .whole

theorem outcome_act {a : Task} {answer : a.Answer} {c c' : Channel}
    {next : Result a.Answer → Activity Task.Answer} (h : a.run.outcome c = (.ok answer, c')) :
    (onChannel (.act a next)).outcome c = (onChannel (next (.ok answer))).outcome c' := by
  refine Exec.outcome_bind_ok (x := (a.run.within .whole).attempt) ?_ _
  rw [Exec.outcome_attempt, Exec.outcome_within]
  show (Except.ok (a.run.outcome c).1, (a.run.outcome c).2) = _
  rw [h]

/-- What a callback does while the connection pretends is what is imagined. -/
theorem Imagined.outcome (h : Imagined c earlier body calls r) :
    body.onChannel.outcome (c.imagining earlier) = (r, c.imagining calls) := by
  induction h with
  | finish v => rfl
  | fail e => rfl
  | @statement _ _ _ s _ _ ih => rw [← ih, outcome_act (a := .statement s) s.run_imagining]
  | @query earlier _ _ l q next t same _ ih =>
    have used : (Task.run (.query l q)).outcome (c.imagining earlier) =
        (.ok (t.ending.1, t.ending.2.on (c.imagining (earlier ++ t.calls))),
          c.imagining (earlier ++ t.calls)) := by
      have ended := (same (c.imagining earlier)).trans t.outcome_imagining
      show (Except.ok (q.run.outcome (l.on (c.imagining earlier))),
        (q.run.outcome (l.on (c.imagining earlier))).2.channel.getD (c.imagining earlier)) = _
      rw [ended]
      rfl
    rw [← ih, outcome_act (a := .query l q) used]

end Activity

end GraphQuery
