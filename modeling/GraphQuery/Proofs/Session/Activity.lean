import GraphQuery.Proofs.Outcome
import GraphQuery.Session.Transaction

/-! # Activities on a connection

An `Activity` is what a caller does with a connection, one thing after another.  After each of them it
sees how that ended, and decides how to go on; so it can catch a failure, or let it through.  Callbacks
of `transaction` and `pretend` are activities themselves.

* `Activity.run` runs an activity by the `transaction` and `pretend` of connections, with any way of
  doing the single actions.
* A `Course` is a connection with the `Episode`s that it has been through, one for each step that
  touches it.  `Course.part` notes them; what an activity does is the same with and without that
  (`Activity.run_course`, `Activity.course_channel`).
* `Activity.run_maintains`, `Activity.run_maintains_whole` : what every single step keeps holds after the
  whole activity. -/

namespace GraphQuery

/-- A callback on a connection: what is done next may depend on how everything before has ended. -/
inductive Activity {A : Type} (Answer : A → Type) where
  | finish (v : Value)
  | fail (e : Error)
  | act (a : A) (next : Result (Answer a) → Activity Answer)
  | transaction (body : Activity Answer) (next : Result Value → Activity Answer)
  | pretend (body : Activity Answer) (next : Result Value → Activity Answer)

/-- What a step on a connection belongs to. -/
inductive Mark (A : Type) where
  /-- an action -/
  | act (a : A)
  /-- beginning or ending the transaction around a callback -/
  | transaction
  /-- starting or ending to pretend -/
  | pretence

variable {A : Type} {Answer : A → Type} {σ : Type}

/-- Runs an activity on a part of a state. How the part is reached may depend on what a step belongs
to. -/
def Activity.run (perform : (a : A) → Exec Channel (Answer a)) (part : Mark A → Focus σ Channel) :
    Activity Answer → Exec σ Value
  | finish v => pure v
  | fail e => Exec.fail e
  | act a next => do
    let r ← ((perform a).within (part (.act a))).attempt
    (next r).run perform part
  | transaction body next => do
    let r ← (GraphQuery.transaction (part .transaction) (body.run perform part)).attempt
    (next r).run perform part
  | pretend body next => do
    let r ← (GraphQuery.pretend (part .pretence) (body.run perform part)).attempt
    (next r).run perform part

/-- A step on a connection, with the connection before it and after it. -/
structure Episode (A : Type) where
  mark : Mark A
  before : Channel
  after : Channel

/-- A connection, and what it has been through. -/
structure Course (A : Type) where
  channel : Channel
  episodes : List (Episode A)

/-- The connection of a course. A step on it is noted. -/
def Course.part (mark : Mark A) : Focus (Course A) Channel :=
  ⟨(·.channel), fun c k => ⟨c, k.episodes ++ [⟨mark, k.channel, c⟩]⟩⟩

/-- The course of an activity on a connection. -/
def Activity.course (perform : (a : A) → Exec Channel (Answer a)) (activity : Activity Answer)
    (c : Channel) : Course A := ((activity.run perform Course.part).outcome ⟨c, []⟩).2

/-- A new connection to a server that answers from a script. -/
def Channel.facing (script : List (String × List Response)) : Channel :=
  ⟨.new .standard, .ofConfig .standard, { Server.idle with script }, some standardPattern⟩

/-! ### Up to some point -/

/-- Up to the first member that stops it, all members of a list are good. -/
def GoodUntil {E : Type} (stops good : E → Prop) (es : List E) : Prop :=
  ∀ earlier e later, es = earlier ++ e :: later → (∀ f ∈ earlier, ¬ stops f) → good e

namespace GoodUntil

variable {E : Type} {stops good : E → Prop} {es : List E}

theorem nil : GoodUntil stops good [] := fun earlier _ _ split => by
  cases earlier <;> cases split

/-- One more member comes too late, or is good. -/
theorem snoc (h : GoodUntil stops good es) {e : E} (last : (∃ f ∈ es, stops f) ∨ good e) :
    GoodUntil stops good (es ++ [e]) := by
  intro earlier e' later split going
  rcases List.eq_nil_or_concat later with rfl | ⟨later, x, rfl⟩
  · obtain ⟨rfl, same⟩ := List.append_inj' split rfl
    obtain rfl : e = e' := List.singleton_inj.mp same
    rcases last with ⟨f, hf, stops⟩ | fine
    · exact (going f hf stops).elim
    · exact fine
  · have front : es = earlier ++ e' :: later := by
      have same : es ++ [e] = (earlier ++ e' :: later) ++ [x] := by simpa using split
      exact (List.append_inj' same rfl).1
    exact h earlier e' later front going

theorem all (h : GoodUntil stops good es) (going : ∀ f ∈ es, ¬ stops f) : ∀ e ∈ es, good e := by
  intro e he
  obtain ⟨earlier, later, split⟩ := List.append_of_mem he
  exact h earlier e later split fun f hf => going f (split ▸ List.mem_append_left _ hf)

end GoodUntil

/-! ### Noting changes nothing -/

namespace Exec

variable {τ α β : Type}

/-- A step ends as another one does, whose state is read off the state of the first. -/
def Mirrors (read : σ → τ) (x : Exec σ α) (y : Exec τ α) : Prop :=
  ∀ s, y.outcome (read s) = ((x.outcome s).1, read (x.outcome s).2)

namespace Mirrors

variable {read : σ → τ}

theorem of_pure (a : α) : Mirrors read (pure a : Exec σ α) (pure a) := fun _ => rfl

theorem ofResult (r : Result α) : Mirrors read (Exec.ofResult r : Exec σ α) (Exec.ofResult r) :=
  fun _ => rfl

theorem fail (e : Error) : Mirrors read (Exec.fail e : Exec σ α) (Exec.fail e) := ofResult _

theorem bind {x : Exec σ α} {y : Exec τ α} {f : α → Exec σ β} {g : α → Exec τ β}
    (h : Mirrors read x y) (next : ∀ a, Mirrors read (f a) (g a)) :
    Mirrors read (x >>= f) (y >>= g) := by
  intro s
  rw [outcome_bind, outcome_bind, h s]
  cases e : x.outcome s with
  | mk r s' =>
    cases r with
    | ok a => exact next a s'
    | error f => rfl

theorem attempt {x : Exec σ α} {y : Exec τ α} (h : Mirrors read x y) :
    Mirrors read x.attempt y.attempt := by
  intro s
  rw [outcome_attempt, outcome_attempt, h s]

end Mirrors

end Exec

variable (perform : (a : A) → Exec Channel (Answer a))

theorem mirrors_within {α : Type} (mark : Mark A) (step : Exec Channel α) :
    Exec.Mirrors Course.channel (step.within (Course.part mark)) (step.within .whole) := fun _ => rfl

theorem mirrors_transaction {α : Type} {x : Exec (Course A) α} {y : Exec Channel α}
    (h : Exec.Mirrors Course.channel x y) : Exec.Mirrors Course.channel
      (transaction (Course.part .transaction) x) (transaction .whole y) := by
  unfold transaction transactionFrom
  refine .bind (mirrors_within _ _) fun _ => .bind (.attempt (.bind h fun a => ?_)) fun r => ?_
  · exact .bind (mirrors_within _ _) fun _ => .of_pure a
  · cases r with
    | ok a => exact .of_pure a
    | error e => exact .bind (mirrors_within _ _) fun _ => .fail e

theorem mirrors_pretend {α : Type} {x : Exec (Course A) α} {y : Exec Channel α}
    (h : Exec.Mirrors Course.channel x y) : Exec.Mirrors Course.channel
      (pretend (Course.part .pretence) x) (pretend .whole y) := by
  unfold pretend Exec.ensuring
  refine .bind (mirrors_within _ _) fun logged => .bind (.bind h.attempt fun r => ?_) fun _ => ?_
  · exact .bind (mirrors_within _ _) fun _ => .ofResult r
  · exact fun k => rfl

/-- What an activity does with a connection is the same whether it is noted or not. -/
theorem Activity.run_course : ∀ activity : Activity Answer,
    Exec.Mirrors Course.channel (activity.run perform Course.part) (activity.run perform fun _ => .whole)
  | finish v => .of_pure v
  | fail e => .fail e
  | act _ next => .bind (mirrors_within _ _).attempt fun r => (next r).run_course
  | transaction body next =>
    .bind (mirrors_transaction body.run_course).attempt fun r => (next r).run_course
  | pretend body next => .bind (mirrors_pretend body.run_course).attempt fun r => (next r).run_course

/-- A course ends with the connection that the activity leaves. -/
theorem Activity.course_channel (activity : Activity Answer) (c : Channel) :
    (activity.course perform c).channel = ((activity.run perform fun _ => .whole).outcome c).2 :=
  (congrArg Prod.snd (activity.run_course perform ⟨c, []⟩)).symm

/-! ### What every step keeps -/

section Maintains

variable {α : Type} {inv : σ → Prop} {part : Mark A → Focus σ Channel}

theorem transaction_maintains (begin : (Channel.begin.within (part .transaction)).Maintains inv)
    (commit : (Channel.commit.within (part .transaction)).Maintains inv)
    (rollback : (Channel.rollback.within (part .transaction)).Maintains inv) {body : Exec σ α}
    (h : body.Maintains inv) : (GraphQuery.transaction (part .transaction) body).Maintains inv := by
  unfold GraphQuery.transaction transactionFrom
  refine begin.bind fun _ => (h.bind fun a => commit.bind fun _ => .of_pure a).attempt.bind fun r => ?_
  cases r with
  | ok a => exact .of_pure a
  | error e => exact rollback.bind fun _ => .fail e

theorem pretend_maintains (start : (Channel.startPretending.within (part .pretence)).Maintains inv)
    (stop : ∀ logged, ((Channel.stopPretending logged).within (part .pretence)).Maintains inv)
    {body : Exec σ α} (h : body.Maintains inv) :
    (GraphQuery.pretend (part .pretence) body).Maintains inv := by
  unfold GraphQuery.pretend
  exact start.bind fun logged => (h.ensuring (stop logged)).bind fun _ =>
    Exec.Maintains.of_get.bind fun s => .of_pure _

/-- What every single step keeps holds after the whole activity. -/
theorem Activity.run_maintains {perform : (a : A) → Exec Channel (Answer a)}
    (act : ∀ a, ((perform a).within (part (.act a))).Maintains inv)
    (begin : (Channel.begin.within (part .transaction)).Maintains inv)
    (commit : (Channel.commit.within (part .transaction)).Maintains inv)
    (rollback : (Channel.rollback.within (part .transaction)).Maintains inv)
    (start : (Channel.startPretending.within (part .pretence)).Maintains inv)
    (stop : ∀ logged, ((Channel.stopPretending logged).within (part .pretence)).Maintains inv) :
    ∀ activity : Activity Answer, (activity.run perform part).Maintains inv
  | finish v => .of_pure v
  | fail e => .fail e
  | .act a next => (act a).attempt.bind fun r =>
    (next r).run_maintains act begin commit rollback start stop
  | transaction body next =>
    (transaction_maintains begin commit rollback
      (body.run_maintains act begin commit rollback start stop)).attempt.bind fun r =>
        (next r).run_maintains act begin commit rollback start stop
  | pretend body next =>
    (pretend_maintains start stop
      (body.run_maintains act begin commit rollback start stop)).attempt.bind fun r =>
        (next r).run_maintains act begin commit rollback start stop

theorem Activity.run_maintains_whole {perform : (a : A) → Exec Channel (Answer a)} {inv : Channel → Prop}
    (act : ∀ a, (perform a).Maintains inv) (begin : Channel.begin.Maintains inv)
    (commit : Channel.commit.Maintains inv) (rollback : Channel.rollback.Maintains inv)
    (start : Channel.startPretending.Maintains inv)
    (stop : ∀ logged, (Channel.stopPretending logged).Maintains inv) (activity : Activity Answer) :
    (activity.run perform fun _ => .whole).Maintains inv := by
  have whole {α : Type} {step : Exec Channel α} (h : step.Maintains inv) :
      (step.within .whole).Maintains inv := .within fun _ kept => h _ kept
  refine Activity.run_maintains ?_ ?_ ?_ ?_ ?_ ?_ activity
  · exact fun a => whole (act a)
  · exact whole begin
  · exact whole commit
  · exact whole rollback
  · exact whole start
  · exact fun logged => whole (stop logged)

end Maintains

end GraphQuery
