import GraphQuery.Proofs.Execution.Conversations
import GraphQuery.Proofs.Execution.Identity
import GraphQuery.Proofs.Session.Bookkeeping

/-! # Pretending

While a connection pretends, no statement reaches the server, whether it is run on the connection itself
or by a builder on it (`Channel.Dry`, `LiveQuery.Dry`).

A callback of `pretend` may do more than that, though.  Its transactions are begun and ended on the
server, and a `pretend` inside ends all pretending when it is done (`Episode.Wakes`).

* `pretend_dry` : up to the end of a `pretend` inside, only steps of transactions reach the server; and a
  callback with neither of them leaves the server as it is.
* `pretend_awake` : a callback that writes after a `pretend` inside. -/

namespace GraphQuery

/-! ### Statements on a connection that pretends -/

namespace Channel

/-- The connection pretends, and the server is this one. -/
structure Dry (u : Server) (c : Channel) : Prop where
  pretends : c.connection.isPretending.isTruthy = true
  server : c.server = u

variable {u : Server}

theorem change_dry {f : Connection → Connection}
    (same : ∀ c, (f c).isPretending = c.isPretending) : (change f).Maintains (Dry u) :=
  .of_modify fun c h => ⟨(congrArg Value.isTruthy (same c.connection)).trans h.pretends, h.server⟩

theorem logQuery_dry {text bindings elapsed : Value} :
    (logQuery text bindings elapsed).Maintains (Dry u) := by
  unfold logQuery
  refine Exec.Maintains.of_get.bind fun c => ?_
  dsimp only
  split
  · split
    · exact change_dry fun _ => rfl
    · exact .fail _
  · exact .of_pure _

theorem prepared_dry (bindings : Value) : (prepared bindings).Maintains (Dry u) := fun c h => by
  rw [prepared_outcome]
  exact h

theorem run_dry {α : Type} {text bindings : Value} {pretended : α} {step : Exec Channel α} :
    (run text bindings pretended step).Maintains (Dry u) := by
  have tried : (do
      if (← get).connection.isPretending.isTruthy then return pretended
      step : Exec Channel α).Maintains (Dry u) := by
    refine .of_ends fun c h => .bind (.of_get ?_)
    rw [if_pos h.pretends]
    exact .of_pure h
  unfold run wrapFailure
  refine Exec.Maintains.ensuring (tried.attempt.bind fun r => ?_) logQuery_dry
  cases r with
  | ok a => exact .of_pure a
  | error e => exact (prepared_dry _).bind fun _ => .fail _

end Channel

theorem Statement.run_dry {u : Server} (s : Statement) : s.run.Maintains (Channel.Dry u) := by
  cases s with
  | selectOne => exact Channel.run_dry.bind fun _ => .of_pure _
  | select | insert | change | affecting | unprepared => exact Channel.run_dry

/-! ### Builders on a connection that pretends -/

/-- The connection of the builder pretends, and the server is this one. -/
def LiveQuery.Dry (u : Server) (l : LiveQuery) : Prop := ∃ c, l.channel = some c ∧ c.Dry u

theorem Use.run_dry {u : Server} (q : Use) : q.run.Maintains (LiveQuery.Dry u) := by
  rintro l ⟨c, found, dry⟩
  have same : l.on c = l := by rw [LiveQuery.on, ← found]
  rw [← same]
  exact q.maintains (fun s => s.run_dry) l dry

/-! ### Callbacks -/

/-- A builder is used on a connection. It comes back as it is afterwards. -/
def LiveQuery.onConnection {α : Type} (l : LiveQuery) (step : Exec LiveQuery α) :
    Exec Channel (Result α × LiveQuery) := Exec.ofOutcome fun c =>
  let (r, l) := step.outcome { l with channel := some c }
  (.ok (r, l), l.channel.getD c)

/-- What a callback of `pretend` may do, besides `transaction` and `pretend`. -/
inductive Task where
  | statement (s : Statement)
  | query (l : LiveQuery) (q : Use)
  | begin
  | commit
  | rollback

namespace Task

/-- What a task is answered with. -/
abbrev Answer : Task → Type
  | statement s => s.Answer
  | query _ q => Result q.Answer × LiveQuery
  | begin | commit | rollback => Unit

/-- Does a task. -/
def run : (a : Task) → Exec Channel a.Answer
  | statement s => s.run
  | query l q => l.onConnection q.run
  | begin => Channel.begin
  | commit => Channel.commit
  | rollback => Channel.rollback

/-- Whether a task runs statements, and does not begin or end transactions. -/
def RunsStatements : Task → Prop
  | statement _ | query .. => True
  | begin | commit | rollback => False

theorem run_dry {u : Server} {a : Task} (h : a.RunsStatements) : a.run.Maintains (Channel.Dry u) := by
  cases a with
  | statement s => exact s.run_dry
  | query l q =>
    intro c dry
    obtain ⟨c', found, dry'⟩ := q.run_dry (u := u) { l with channel := some c } ⟨c, rfl, dry⟩
    show Channel.Dry u ((q.run.outcome { l with channel := some c }).2.channel.getD c)
    rw [found]
    exact dry'
  | begin | commit | rollback => exact h.elim

end Task

/-- Whether a step is one of a transaction: it begins or ends one, or does so for a callback. -/
def Mark.IsTurn : Mark Task → Prop
  | act a => ¬ a.RunsStatements
  | transaction => True
  | pretence => False

/-- Pretending ends with a step. -/
def Episode.Wakes (e : Episode Task) : Prop :=
  e.before.connection.isPretending.isTruthy = true ∧ e.after.connection.isPretending.isTruthy = false

/-- A step leaves the server alone, unless it is one of a transaction. -/
def Episode.Spares (e : Episode Task) : Prop := ¬ e.mark.IsTurn → e.after.server = e.before.server

/-- What a callback keeps: up to the step with which pretending ends, the server is spared. -/
structure Dozing (k : Course Task) : Prop where
  spared : GoodUntil Episode.Wakes Episode.Spares k.episodes
  state : (∃ f ∈ k.episodes, f.Wakes) ∨ k.channel.connection.isPretending.isTruthy = true

namespace Dozing

variable {α : Type} {k : Course Task} {mark : Mark Task} {step : Exec Channel α}

theorem part (spares : ¬ mark.IsTurn → ∀ c : Channel, c.connection.isPretending.isTruthy = true →
    (step.outcome c).2.server = c.server) : (step.within (Course.part mark)).Maintains Dozing := by
  refine .within fun k h => ?_
  rcases h.state with ⟨f, hf, wakes⟩ | pretends
  · exact ⟨h.spared.snoc (Or.inl ⟨f, hf, wakes⟩), Or.inl ⟨f, List.mem_append_left _ hf, wakes⟩⟩
  · refine ⟨h.spared.snoc (Or.inr fun other => spares other _ pretends), ?_⟩
    cases still : (step.outcome k.channel).2.connection.isPretending.isTruthy with
    | true => exact Or.inr still
    | false =>
      exact Or.inl ⟨_, List.mem_append_right _ (List.mem_singleton_self _), pretends, still⟩

theorem act_part (a : Task) : (a.run.within (Course.part (.act a))).Maintains Dozing :=
  part fun other c pretends => (Task.run_dry (Classical.not_not.mp other) c ⟨pretends, rfl⟩).server

theorem stop_part (logged : Value) :
    ((Channel.stopPretending logged).within (Course.part .pretence)).Maintains Dozing :=
  part fun _ _ _ => rfl

theorem run (body : Activity Task.Answer) : (body.run Task.run Course.part).Maintains Dozing :=
  body.run_maintains act_part (part fun other => (other trivial).elim)
    (part fun other => (other trivial).elim) (part fun other => (other trivial).elim)
    (part fun _ _ _ => rfl) stop_part

end Dozing

/-- A callback that only does tasks of some kind: it has no callbacks of its own. -/
inductive Activity.Only {A : Type} {Answer : A → Type} (p : A → Prop) : Activity Answer → Prop
  | finish (v : Value) : Only p (.finish v)
  | fail (e : Error) : Only p (.fail e)
  | act {a : A} {next : Result (Answer a) → Activity Answer} (h : p a)
      (rest : ∀ r, Only p (next r)) : Only p (.act a next)

/-- A callback that only runs statements leaves the server as it is. -/
theorem Activity.Only.run_dry {u : Server} {body : Activity Task.Answer}
    (h : body.Only Task.RunsStatements) :
    (body.run Task.run Course.part).Maintains fun k => k.channel.Dry u := by
  induction h with
  | finish v => exact .of_pure v
  | fail e => exact .fail e
  | act runs rest ih =>
    refine Exec.Maintains.bind (.attempt (.within fun k dry => ?_)) ih
    exact Task.run_dry runs k.channel dry

/-- A callback of `pretend`, with every step noted. -/
def pretended (body : Activity Task.Answer) : Exec (Course Task) Value :=
  pretend (Course.part .pretence) (body.run Task.run Course.part)

/-- What the start of pretending makes true, the callback keeps, and the end of pretending turns into
something else. -/
theorem pretended_ends {inv result : Course Task → Prop} {body : Activity Task.Answer} {c : Channel}
    (start : inv ((Course.part .pretence).put (Channel.startPretending.outcome c).2 ⟨c, []⟩))
    (keeps : (body.run Task.run Course.part).Maintains inv)
    (stop : ∀ logged k, inv k →
      result (((Channel.stopPretending logged).within (Course.part .pretence)).outcome k).2) :
    result ((pretended body).outcome ⟨c, []⟩).2 := by
  have started : (Channel.startPretending.within (Course.part (A := Task) .pretence)).Ends ⟨c, []⟩
      (fun _ => inv) result := .of_outcome rfl (fun _ _ => start) nofun
  have stopped (logged : Value) (k : Course Task) (h : inv k) :
      ((Channel.stopPretending logged).within (Course.part .pretence)).Ends k
        (fun _ => result) result :=
    .of_outcome rfl (fun _ _ => stop logged k h) fun _ _ => stop logged k h
  refine Exec.Ends.after (.bind (started.imp (fun logged k h => ?_) fun _ => id))
  refine .bind (.ensuring ((keeps.ends h).imp (fun _ k' h' => ?_) fun k' h' => stopped logged k' h'))
  exact (stopped logged k' h').imp (fun _ _ done => .bind (.of_get (.of_pure done))) fun _ => id

/-- A callback of `pretend` on any connection; noting its steps changes nothing about where it ends. Up to
the end of a `pretend` inside, no step but those of transactions reaches the server; and if the callback
only runs statements, by itself or by builders, the server is left as it is. -/
theorem pretend_dry (c : Channel) (body : Activity Task.Answer) :
    let k := ((pretended body).outcome ⟨c, []⟩).2
    k.channel = ((pretend .whole (body.run Task.run fun _ => .whole)).outcome c).2 ∧
    GoodUntil Episode.Wakes Episode.Spares k.episodes ∧
    (body.Only Task.RunsStatements → k.channel.server = c.server) := by
  have started : Dozing ((Course.part .pretence).put (Channel.startPretending.outcome c).2 ⟨c, []⟩) :=
    ⟨GoodUntil.nil.snoc (Or.inr fun _ => rfl), Or.inr rfl⟩
  have unnoted := mirrors_pretend (body.run_course Task.run) ⟨c, []⟩
  refine ⟨(congrArg Prod.snd unnoted).symm,
    (pretended_ends started (Dozing.run body) Dozing.stop_part).spared, fun only => ?_⟩
  let asleep (k : Course Task) : Prop := k.channel.Dry c.server
  let spared (k : Course Task) : Prop := k.channel.server = c.server
  have keeps : (body.run Task.run Course.part).Maintains asleep := only.run_dry
  have done : spared ((pretended body).outcome ⟨c, []⟩).2 :=
    pretended_ends ⟨rfl, rfl⟩ keeps fun _ _ dry => dry.server
  exact done

/-- A statement and the use of a builder. -/
theorem pretend_dry_plain :
    let c := Channel.facing []
    let users := LiveQuery.afterCalls [.target (.text "User"), .equals (.text "age") (.int 30)]
    let body : Activity Task.Answer :=
      .act (.statement (.change (.text "CREATE (n)") .null)) fun _ =>
        .act (.query users (.delete (.value .null))) fun _ => .finish .null
    let k := ((pretended body).outcome ⟨c, []⟩).2
    body.Only Task.RunsStatements ∧ k.episodes.length = 4 ∧ k.channel.server = c.server := by
  intro c users body k
  have only : body.Only Task.RunsStatements :=
    .act trivial fun _ => .act trivial fun _ => .finish _
  exact ⟨only, by decide +kernel, (pretend_dry c body).2.2 only⟩

/-- A transaction inside is begun and committed on the server. After a `pretend` inside, a write is
executed. -/
theorem pretend_awake :
    let k := ((pretended (.transaction
      (.act (.statement (.change (.text "CREATE (n:User)") .null)) fun _ => .finish .null) fun _ =>
        .pretend (.act (.statement (.select (.text "MATCH (n) RETURN n") .null)) fun _ =>
          .finish .null) fun _ =>
            .act (.statement (.change (.text "MATCH (n) DETACH DELETE n") .null)) fun _ =>
              .finish .null)).outcome ⟨Channel.facing [], []⟩).2
    k.news.map Event.ended? = [none, some 0, none, none] ∧
    k.news.map Event.asked? = [none, some 0, none, some 1] ∧ k.news ≠ [] := by
  intro k
  have asked : k.news.map Event.asked? = [none, some 0, none, some 1] := by decide +kernel
  refine ⟨by decide +kernel, asked, fun none => ?_⟩
  rw [none] at asked
  cases asked

end GraphQuery
