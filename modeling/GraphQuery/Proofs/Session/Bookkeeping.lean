import GraphQuery.Proofs.Session.Activity
import GraphQuery.Proofs.Session.Turns

/-! # The books on transactions

An `Action` is one of the calls that count, open and end transactions, run statements in them, or let
go of the session.  Whatever an activity does by them, with whatever the server refuses, the books agree
(`Channel.AtRest.bookkeeping`):

* a transaction is held exactly while the count is above zero;
* a transaction that has been committed or rolled back is neither ended again nor run in again;
* a transaction is begun only while none is held;
* a statement goes into the transaction that is held, if there is one.

`Channel.Turns` is what one step may do, with one lemma for each action; `Orderly` is what a whole
course keeps. -/

namespace GraphQuery

/-! ### Transactions in events -/

/-- The transaction that is committed or rolled back. -/
def Event.ended? : Event → Option Nat
  | .committed t | .rolledBack t => some t
  | _ => none

/-- The transaction that something is asked of: to run a statement, or to end. -/
def Event.asked? : Event → Option Nat
  | .committed t | .rolledBack t | .statementRun (.transaction t) _ _ => some t
  | _ => none

theorem Event.asked_of_ended {e : Event} {t : Nat} (h : e.ended? = some t) : e.asked? = some t := by
  cases e <;> simp_all [ended?, asked?]

/-- Nothing is asked of a transaction after its end. -/
def FinallyEnded (es : List Event) : Prop :=
  es.Pairwise fun e later => ∀ t, e.ended? = some t → later.asked? ≠ some t

/-- What the server has seen in a step, the events of the link apart. -/
def Episode.news {A : Type} (e : Episode A) : List Event :=
  work (e.after.server.events.drop e.before.server.events.length)

/-- What the server has seen in a course, the events of the link apart. -/
def Course.news {A : Type} (k : Course A) : List Event := k.episodes.flatMap Episode.news

theorem Server.Sees.news {A : Type} {mark : Mark A} {c c' : Channel} {es : List Event} {count : Nat}
    (h : c.server.Sees es count c'.server) : Episode.news ⟨mark, c, c'⟩ = es := by
  obtain ⟨news, appended, same⟩ := h.events
  unfold Episode.news
  dsimp only
  rw [appended, List.drop_left, same]

namespace Channel

variable {c c' : Channel}

/-! ### What holds between steps -/

/-- The connection holds this transaction. -/
def Holds (c : Channel) (t : Nat) : Prop := c.connection.transaction = some (.on (.transaction t))

/-- The count is a number, and it is zero exactly when no transaction is held. -/
def Balanced (c : Channel) : Prop :=
  ∃ n : Nat, c.connection.level = .int n ∧ (n = 0 ↔ c.connection.transaction = none)

/-- The connection is in no transaction, and what it runs statements on is a session. -/
structure AtRest (c : Channel) : Prop where
  level : c.connection.level = .int 0
  free : c.connection.transaction = none
  onSession : c.OnSession

theorem atRest_new (config : ConnectionConfig) (engine : Engine) (server : Server)
    (pattern : Option String) : AtRest ⟨.new config, engine, server, pattern⟩ :=
  ⟨rfl, rfl, fun _ e => (Option.some_ne_none _ e.symm).elim⟩

theorem atRest_facing (script : List (String × List Response)) : (facing script).AtRest := atRest_new ..

/-- Between two steps a connection is at rest, or it holds one transaction, however deep it counts. -/
inductive Settled (c : Channel) : Prop
  | outside (rest : c.AtRest)
  | inside {n t : Nat} (level : c.connection.level = .int (n + 1)) (held : c.Holds t)
      (onSession : c.OnSession)

namespace Settled

theorem onSession : c.Settled → c.OnSession
  | outside rest => rest.onSession
  | inside _ _ onSession => onSession

theorem inTransaction (h : c.Settled) : c.InTransaction := by
  intro client found
  cases h with
  | outside rest => exact (Option.some_ne_none _ (found.symm.trans rest.free)).elim
  | inside _ held _ => exact ⟨_, Option.some.inj (found.symm.trans held)⟩

theorem balanced : c.Settled → c.Balanced
  | outside rest => ⟨0, rest.level, by simp [rest.free]⟩
  | inside (n := n) level held _ => ⟨n + 1, level, by simp [show c.connection.transaction = _ from held]⟩

/-- The count and the transaction are all that matters. -/
theorem congr (h : c.Settled) (level : c'.connection.level = c.connection.level)
    (held : c'.connection.transaction = c.connection.transaction)
    (onSession : c.OnSession → c'.OnSession) : c'.Settled := by
  cases h with
  | outside rest =>
    exact outside ⟨level.trans rest.level, held.trans rest.free, onSession rest.onSession⟩
  | inside deep holds session =>
    exact inside (level.trans deep) (held.trans holds) (onSession session)

end Settled

/-! ### One step -/

/-- Whether a transaction is the one that is held, or one that is handed out meanwhile. -/
def IsAtHand (c : Channel) (count t : Nat) : Prop :=
  c.Holds t ∨ (t = c.server.transactions ∧ 0 < count)

/-- What one step may do about transactions. -/
structure Turns (c : Channel) (es : List Event) (count : Nat) (c' : Channel) : Prop where
  settled : c'.Settled
  server : c.server.Sees es count c'.server
  asked : ∀ e ∈ es, ∀ t, e.asked? = some t → c.IsAtHand count t
  ended : FinallyEnded es
  held : ∀ t, c'.Holds t → c.IsAtHand count t ∧ ∀ e ∈ es, e.ended? ≠ some t
  begun : ∀ s, .transactionBegun s ∈ es → c.connection.transaction = none

/-- One step on a settled connection. -/
def Turned (c c' : Channel) : Prop := ∃ es count, c.Turns es count c'

theorem Turns.of_lasting {es : List Event} {count : Nat} (settled : c'.Settled)
    (server : c.server.Sees es count c'.server) (lasting : ∀ e ∈ es, ∀ t, e.ended? ≠ some t)
    (asked : ∀ e ∈ es, ∀ t, e.asked? = some t → c.IsAtHand count t)
    (held : ∀ t, c'.Holds t → c.IsAtHand count t)
    (begun : ∀ s, .transactionBegun s ∈ es → c.connection.transaction = none) :
    c.Turns es count c' where
  settled := settled
  server := server
  asked := asked
  ended := List.pairwise_of_forall_mem_list fun e he _ _ t ends => (lasting e he t ends).elim
  held t holds := ⟨held t holds, fun e he => lasting e he t⟩
  begun := begun

/-- A step that the server sees nothing of, after which no other transaction is held than before. -/
theorem Turned.of_quiet (settled : c'.Settled) (server : c.server.Sees [] 0 c'.server)
    (held : ∀ t, c'.Holds t → c.Holds t) : c.Turned c' := by
  refine ⟨[], 0, .of_lasting settled server ?_ ?_ (fun t holds => Or.inl (held t holds)) ?_⟩
  all_goals exact fun _ h => (List.not_mem_nil h).elim

theorem Turned.of_end {e : Event} {t : Nat} (held : c.Holds t) (ends : e.asked? = some t)
    (beginsNone : ∀ s, e ≠ .transactionBegun s) (rest : c'.AtRest)
    (server : c.server.Sees [e] 0 c'.server) : c.Turned c' := by
  refine ⟨[e], 0, .outside rest, server, ?_, List.pairwise_singleton .., ?_, ?_⟩
  · intro _ he t' asks
    obtain rfl := List.mem_singleton.mp he
    obtain rfl := Option.some.inj (ends.symm.trans asks)
    exact Or.inl held
  · exact fun _ holds => (Option.some_ne_none _ (holds.symm.trans rest.free)).elim
  · exact fun s he => (beginsNone s (List.mem_singleton.mp he).symm).elim

/-! ### Each action -/

variable {es : List Event} {count : Nat}

theorem Becomes.atRest (h : c.Becomes 0 none es count c') (onSession : c.OnSession) : c'.AtRest :=
  ⟨h.level, h.held, h.onSession onSession⟩

/-- A statement is sent into what is held, or into a transaction that is handed out for it. -/
theorem Sent.turns {s : Statement} (h : c.Sent s c') (settled : c.Settled) :
    ∃ es count, c.Routes s es count ∧ c.Turns es count c' := by
  obtain ⟨es, count, route, seen⟩ := h.events
  have settled' := settled.congr h.level h.transaction h.onSession
  have held (t : Nat) (holds : c'.Holds t) : c.IsAtHand count t :=
    Or.inl (h.transaction.symm.trans holds)
  refine ⟨es, count, route, .of_lasting settled' seen ?_ ?_ held ?_⟩
  · cases route <;> simp [Event.ended?]
  · intro e he t asks
    cases route with
    | unsent _ => exact (List.not_mem_nil he).elim
    | inside _ holds _ =>
      obtain rfl := List.mem_singleton.mp he
      obtain rfl : _ = t := by simpa [Event.asked?] using asks
      exact Or.inl holds
    | read | refused =>
      obtain rfl := List.mem_singleton.mp he
      simp [Event.asked?] at asks
    | write =>
      rcases List.mem_cons.mp he with rfl | he
      · simp [Event.asked?] at asks
      · obtain rfl := List.mem_singleton.mp he
        obtain rfl : _ = t := by simpa [Event.asked?] using asks
        exact Or.inr ⟨rfl, Nat.one_pos⟩
  · cases route <;> simp

theorem Becomes.turned_of_refused {s : Nat} (rest : c.AtRest)
    (h : c.Becomes 0 none [.transactionBegun s] 0 c') : c.Turned c' := by
  have rest' := h.atRest rest.onSession
  refine ⟨_, _, .of_lasting (.outside rest') h.server (by simp [Event.ended?])
    (by simp [Event.asked?]) (fun t holds => ?_) fun _ _ => rest.free⟩
  exact (Option.some_ne_none _ (holds.symm.trans rest'.free)).elim

theorem begin_turned (settled : c.Settled) : begin.Ends c (fun _ => c.Turned) c.Turned := by
  cases settled with
  | outside rest =>
    refine (begin_outside rest.level rest.free).imp (fun _ c' ⟨s, h⟩ => ?_) fun c' h => ?_
    · refine ⟨_, _, .of_lasting (.inside (n := 0) h.level h.held (h.onSession rest.onSession)) h.server
        (by simp [Event.ended?]) (by simp [Event.asked?]) (fun t holds => ?_)
        fun _ _ => rest.free⟩
      have same : c.server.transactions = t := by simpa [Holds, h.held] using holds
      exact Or.inr ⟨same.symm, Nat.one_pos⟩
    · rcases h with h | ⟨s, h⟩
      · exact .of_quiet (.outside (h.atRest rest.onSession)) h.server fun t holds =>
          (Option.some_ne_none _ (holds.symm.trans h.held)).elim
      · exact h.turned_of_refused rest
  | inside level holds onSession =>
    refine (begin_inside level).imp (fun _ c' h => ?_) fun _ => False.elim
    exact .of_quiet (.inside h.level (h.held.trans holds) (h.onSession onSession)) h.server
      fun t holds' => h.held.symm.trans holds'

theorem commit_turned (settled : c.Settled) : commit.Ends c (fun _ => c.Turned) c.Turned := by
  cases settled with
  | outside rest =>
    refine (commit_outside rest.level).imp (fun _ _ => False.elim) fun c' same => ?_
    exact .of_quiet (same ▸ .outside rest) (same ▸ .refl _) fun t holds => same ▸ holds
  | @inside n t level holds onSession =>
    cases n with
    | zero =>
      have ended {c' : Channel} (h : c.Becomes 0 none [.committed t] 0 c') : c.Turned c' :=
        .of_end holds rfl (by simp) (h.atRest onSession)
          h.server
      exact (commit_last level holds).imp (fun _ _ => ended) fun _ => ended
    | succ n =>
      refine (commit_inside level).imp (fun _ c' h => ?_) fun _ => False.elim
      exact .of_quiet (.inside h.level (h.held.trans holds) (h.onSession onSession)) h.server
        fun t holds' => h.held.symm.trans holds'

theorem rollback_turned (settled : c.Settled) : rollback.Ends c (fun _ => c.Turned) c.Turned := by
  cases settled with
  | outside rest =>
    refine (rollback_outside rest.level).imp (fun _ c' same => ?_) fun _ => False.elim
    exact .of_quiet (same ▸ .outside rest) (same ▸ .refl _) fun t holds => same ▸ holds
  | @inside n t level holds onSession =>
    have ended {c' : Channel} (h : c.Becomes 0 none [.rolledBack t] 0 c') : c.Turned c' :=
      .of_end holds rfl (by simp) (h.atRest onSession)
        h.server
    exact (rollback_inside level holds).imp (fun _ _ => ended) fun _ => ended

theorem disconnect_turned (settled : c.Settled) :
    disconnect.Ends c (fun _ => c.Turned) c.Turned := by
  have gone {c' : Channel} (h : c.Becomes 0 none [] 0 c') : c.Turned c' :=
    .of_quiet (.outside (h.atRest settled.onSession)) h.server fun t holds =>
      (Option.some_ne_none _ (holds.symm.trans h.held)).elim
  exact disconnect_becomes.imp (fun _ _ => gone) fun _ => gone

theorem change_turned (settled : c.Settled) {f : Connection → Connection}
    (level : (f c.connection).level = c.connection.level)
    (held : (f c.connection).transaction = c.connection.transaction)
    (client : (f c.connection).client = c.connection.client) :
    (change f).Ends c (fun _ => c.Turned) c.Turned :=
  change_ends (.of_quiet (settled.congr level held fun onSession x found =>
    onSession x (client ▸ found)) (.refl _) fun _ holds => held.symm.trans holds)

theorem startPretending_turned (settled : c.Settled) :
    startPretending.Ends c (fun _ => c.Turned) c.Turned := by
  unfold startPretending
  refine .bind (.of_get (.bind ((change_turned settled rfl rfl rfl).imp (fun _ _ turned => ?_)
    fun _ => id)))
  exact .of_pure turned

theorem stopPretending_turned (logged : Value) (settled : c.Settled) :
    (stopPretending logged).Ends c (fun _ => c.Turned) c.Turned :=
  change_turned settled rfl rfl rfl

end Channel

/-! ### Whole courses -/

/-- A call that has to do with transactions. -/
inductive Action where
  | statement (s : Statement)
  | begin
  | commit
  | rollback
  | disconnect

/-- What a call is answered with. -/
abbrev Action.Answer : Action → Type
  | statement s => s.Answer
  | _ => Unit

/-- Makes a call. -/
def Action.run : (a : Action) → Exec Channel a.Answer
  | statement s => s.run
  | begin => Channel.begin
  | commit => Channel.commit
  | rollback => Channel.rollback
  | disconnect => Channel.disconnect

open Channel

/-- What holds of each step in a course. -/
structure Episode.Kept (e : Episode Action) : Prop where
  before : e.before.Balanced
  after : e.after.Balanced
  begun : ∀ s, .transactionBegun s ∈ e.news → e.before.connection.transaction = none
  routed : ∀ s, e.mark = .act (.statement s) → ∃ count, e.before.Routes s e.news count

/-- What a course that started at `c` keeps. -/
structure Orderly (c : Channel) (k : Course Action) : Prop where
  settled : k.channel.Settled
  sees : ∃ count, c.server.Sees k.news count k.channel.server
  known : ∀ t, k.channel.Holds t → t < k.channel.server.transactions
  asked : ∀ e ∈ k.news, ∀ t, e.asked? = some t → t < k.channel.server.transactions
  ended : FinallyEnded k.news
  lasting : ∀ t, k.channel.Holds t → ∀ e ∈ k.news, e.ended? ≠ some t
  kept : ∀ e ∈ k.episodes, e.Kept

namespace Orderly

variable {c : Channel} {k : Course Action}

theorem of_atRest (rest : c.AtRest) : Orderly c ⟨c, []⟩ where
  settled := .outside rest
  sees := ⟨0, .refl _⟩
  known _ holds := (Option.some_ne_none _ (holds.symm.trans rest.free)).elim
  asked _ h := (List.not_mem_nil h).elim
  ended := .nil
  lasting _ _ _ h := (List.not_mem_nil h).elim
  kept _ h := (List.not_mem_nil h).elim

theorem known_after (h : Orderly c k) {es : List Event} {count t : Nat} {c' : Channel}
    (turn : k.channel.Turns es count c') (hand : k.channel.IsAtHand count t) :
    t < c'.server.transactions := by
  rw [turn.server.transactions]
  rcases hand with holds | ⟨rfl, new⟩
  · exact Nat.lt_add_right _ (h.known t holds)
  · exact Nat.lt_add_of_pos_right new

/-- A transaction that has ended before is not at hand any more. -/
theorem not_atHand (h : Orderly c k) {e : Event} (he : e ∈ k.news) {count t : Nat}
    (ends : e.ended? = some t) :
    ¬ k.channel.IsAtHand count t := by
  rintro (holds | ⟨rfl, _⟩)
  · exact h.lasting t holds e he ends
  · exact Nat.lt_irrefl _ (h.asked e he _ (Event.asked_of_ended ends))

theorem step (h : Orderly c k) {mark : Mark Action} {es : List Event} {count : Nat} {c' : Channel}
    (turn : k.channel.Turns es count c')
    (routed : ∀ s, mark = .act (.statement s) → ∃ count, k.channel.Routes s es count) :
    Orderly c ((Course.part mark).put c' k) := by
  have news : Course.news ((Course.part mark).put c' k) = k.news ++ es := by
    unfold Course.news Course.part
    dsimp only
    rw [List.flatMap_append, List.flatMap_singleton, turn.server.news]
  obtain ⟨earlier, sees⟩ := h.sees
  refine ⟨turn.settled, ⟨earlier + count, ?_⟩, ?_, ?_, ?_, ?_, ?_⟩
  · rw [news]
    exact sees.trans turn.server
  · exact fun t holds => h.known_after turn (turn.held t holds).1
  · intro e he t asks
    rw [news, List.mem_append] at he
    rcases he with he | he
    · exact Nat.lt_of_lt_of_le (h.asked e he t asks)
        (turn.server.transactions ▸ Nat.le_add_right ..)
    · exact h.known_after turn (turn.asked e he t asks)
  · rw [news]
    refine List.pairwise_append.mpr ⟨h.ended, turn.ended, fun e he later hl t ends asks => ?_⟩
    exact h.not_atHand he ends (turn.asked later hl t asks)
  · intro t holds e he ends
    obtain ⟨hand, lasts⟩ := turn.held t holds
    rw [news, List.mem_append] at he
    rcases he with he | he
    · exact h.not_atHand he ends hand
    · exact lasts e he ends
  · intro e he
    rcases List.mem_append.mp he with he | he
    · exact h.kept e he
    · obtain rfl := List.mem_singleton.mp he
      refine ⟨h.settled.balanced, turn.settled.balanced, ?_, ?_⟩
      · rw [turn.server.news]
        exact turn.begun
      · rw [turn.server.news]
        exact routed

theorem within_part {α : Type} {mark : Mark Action} {step : Exec Channel α}
    (turned : ∀ {c : Channel}, c.Settled → step.Ends c (fun _ => c.Turned) c.Turned)
    (other : ∀ s, mark ≠ .act (.statement s)) :
    (step.within (Course.part mark)).Maintains (Orderly c) := by
  refine .within fun k h => ?_
  obtain ⟨es, count, turn⟩ := (turned h.settled).after
  exact h.step turn fun s same => (other s same).elim

theorem statement_part (s : Statement) :
    (s.run.within (Course.part (.act (.statement s)))).Maintains (Orderly c) := by
  refine .within fun k h => ?_
  have sent := (Statement.sent h.settled.onSession h.settled.inTransaction s).after
  obtain ⟨es, count, route, turn⟩ := sent.turns h.settled
  refine h.step turn fun s' same => ⟨count, ?_⟩
  cases same
  exact route

theorem run (activity : Activity Action.Answer) :
    (activity.run Action.run Course.part).Maintains (Orderly c) := by
  refine activity.run_maintains (fun a => ?_) (within_part begin_turned nofun)
    (within_part commit_turned nofun) (within_part rollback_turned nofun)
    (within_part startPretending_turned nofun)
    fun logged => within_part (stopPretending_turned logged) nofun
  cases a with
  | statement s => exact statement_part s
  | begin => exact within_part begin_turned nofun
  | commit => exact within_part commit_turned nofun
  | rollback => exact within_part rollback_turned nofun
  | disconnect => exact within_part disconnect_turned nofun

end Orderly

/-- Whatever an activity does on a connection that was at rest, the books on its transactions agree:
the count is zero exactly while no transaction is held, nothing is asked of a transaction after its end,
none is begun while one is held, and a statement goes where the transaction that is held, or the lack of
one, sends it. Noting the steps changes nothing about where the activity ends. -/
theorem Channel.AtRest.bookkeeping {c : Channel} (rest : c.AtRest)
    (activity : Activity Action.Answer) :
    let k := activity.course Action.run c
    k.channel = ((activity.run Action.run fun _ => .whole).outcome c).2 ∧
    (∃ count, c.server.Sees k.news count k.channel.server) ∧
    (∀ e ∈ k.episodes, e.before.Balanced ∧ e.after.Balanced) ∧
    FinallyEnded k.news ∧
    (∀ e ∈ k.episodes, ∀ s, .transactionBegun s ∈ e.news → e.before.connection.transaction = none) ∧
    ∀ e ∈ k.episodes, ∀ s, e.mark = .act (.statement s) → ∃ count, e.before.Routes s e.news count := by
  have h : Orderly c (activity.course Action.run c) := Orderly.run activity _ (.of_atRest rest)
  exact ⟨activity.course_channel Action.run c, h.sees,
    fun e he => ⟨(h.kept e he).before, (h.kept e he).after⟩, h.ended,
    fun e he => (h.kept e he).begun, fun e he => (h.kept e he).routed⟩

/-- After a failure inside has been caught, the outer transaction is gone: what follows is read outside
of any, and there is nothing left to commit. -/
theorem Channel.AtRest.bookkeeping_caught :
    let c := Channel.facing [("rollback", [.failure ⟨.runtime, "lost"⟩])]
    let k := Activity.course Action.run (.transaction
      (.transaction (.act (.statement (.insert (.text "CREATE (n)") .null)) fun _ =>
        .fail .noReconnector) fun _ =>
          .act (.statement (.select (.text "MATCH (n) RETURN n") .null)) fun _ => .finish .null)
      fun _ => .act .disconnect fun _ => .finish .null) c
    c.AtRest ∧
    k.news.map Event.asked? = [none, some 0, some 0, none] ∧
    k.news.map Event.ended? = [none, none, some 0, none] ∧
    FinallyEnded k.news :=
  ⟨atRest_facing _, by decide +kernel, by decide +kernel, (bookkeeping (atRest_facing _) _).2.2.2.1⟩

end GraphQuery
