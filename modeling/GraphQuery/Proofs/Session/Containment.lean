import GraphQuery.Proofs.Session.Bookkeeping

/-! # Statements inside a transaction

A callback of `transaction` runs statements and further transactions, and may catch their failures.  Its
statements go into the transaction that the outermost call has opened, up to the point where a
transaction inside has failed: that rolls back all of them (`Episode.Collapses`), and what the callback
does afterwards is in no transaction any more.

* `transaction_contained` : up to there every statement goes into the transaction of the outermost call;
  so no write has a transaction of its own if nothing inside has failed.
* `transaction_left` : a callback that catches a failure inside and goes on writing. -/

namespace GraphQuery

/-- A transaction inside another one is rolled back, and with it all of them. -/
def Episode.Collapses {A : Type} (e : Episode A) : Prop :=
  (∃ depth : Nat, e.before.connection.level = .int (depth + 2)) ∧ e.after.connection.level = .int 0

/-- A statement goes into a transaction that the connection holds, unless the connection pretends or the
parameters cannot be prepared. -/
structure Episode.GoesInto (t : Nat) (s : Statement) (e : Episode Statement) : Prop where
  held : e.before.Holds t
  sent : ((e.before.connection.isPretending.isTruthy = true ∨
      ∃ f, s.parameters e.before = .error f) ∧ e.news = []) ∨
    ∃ ps, s.parameters e.before = .ok ps ∧ e.news = [.statementRun (.transaction t) s.text ps]

/-- Before anything has collapsed, all statements go into one transaction. -/
def Contained (t : Nat) (es : List (Episode Statement)) : Prop :=
  GoodUntil Episode.Collapses (fun e => ∀ s, e.mark = .act s → e.GoesInto t s) es

namespace Channel

variable {c c' : Channel} {t n : Nat}

/-- The connection is in this transaction, and counts so many inside it. -/
structure Deep (c : Channel) (t n : Nat) : Prop where
  level : c.connection.level = .int (n + 1)
  held : c.Holds t
  onSession : c.OnSession

theorem Deep.settled (h : c.Deep t n) : c.Settled := .inside h.level h.held h.onSession

theorem Deep.congr (h : c.Deep t n) (level : c'.connection.level = c.connection.level)
    (held : c'.connection.transaction = c.connection.transaction)
    (onSession : c.OnSession → c'.OnSession) : c'.Deep t n :=
  ⟨level.trans h.level, held.trans h.held, onSession h.onSession⟩

/-- Inside a transaction a statement can only go there. -/
theorem Routes.goesInto {s : Statement} {count : Nat} {mark : Mark Statement}
    (route : c.Routes s (Episode.news ⟨mark, c, c'⟩) count) (held : c.Holds t) :
    Episode.GoesInto t s ⟨mark, c, c'⟩ := by
  have taken : c.connection.transaction ≠ none := fun free =>
    Option.some_ne_none _ (held.symm.trans free)
  generalize news : Episode.news ⟨mark, c, c'⟩ = es at route
  refine ⟨held, ?_⟩
  rw [news]
  cases route with
  | unsent why =>
    rcases why with pretends | fails | free
    · exact Or.inl ⟨Or.inl pretends, rfl⟩
    · exact Or.inl ⟨Or.inr fails, rfl⟩
    · exact (taken free).elim
  | inside _ held' given =>
    obtain rfl : _ = t := by simpa using held'.symm.trans held
    exact Or.inr ⟨_, given, rfl⟩
  | read _ free | refused _ free | write _ free => exact (taken free).elim

end Channel

open Channel

/-! ### Callbacks -/

/-- What a callback keeps at some depth: its statements are contained, and the connection is still in
the transaction unless something has collapsed. -/
structure Confined (t n : Nat) (k : Course Statement) : Prop where
  contained : Contained t k.episodes
  state : (∃ f ∈ k.episodes, f.Collapses) ∨ k.channel.Deep t n

namespace Confined

variable {α : Type} {t m n n' : Nat} {k : Course Statement} {mark : Mark Statement}
  {step : Exec Channel α}

/-- After a collapse nothing more is said. -/
theorem of_collapsed (h : Contained t k.episodes) (collapsed : ∃ f ∈ k.episodes, f.Collapses)
    (c : Channel) : Confined t n ((Course.part mark).put c k) := by
  refine ⟨h.snoc (Or.inl collapsed), Or.inl ?_⟩
  obtain ⟨f, hf, collapses⟩ := collapsed
  exact ⟨f, List.mem_append_left _ hf, collapses⟩

/-- A step that is no statement changes the depth, or makes everything collapse. -/
theorem part (h : Confined t m k) (other : ∀ s, mark ≠ .act s)
    (deep : k.channel.Deep t m → step.Ends k.channel
      (fun _ c' => c'.Deep t n ∨ Episode.Collapses ⟨mark, k.channel, c'⟩)
      fun c' => c'.Deep t n' ∨ Episode.Collapses ⟨mark, k.channel, c'⟩) :
    (step.within (Course.part mark)).Ends k (fun _ => Confined t n) (Confined t n') := by
  rcases h.state with collapsed | inside
  · exact .of_outcome rfl (fun _ _ => of_collapsed h.contained collapsed _)
      fun _ _ => of_collapsed h.contained collapsed _
  · have noted {n : Nat} (c' : Channel)
        (after : c'.Deep t n ∨ Episode.Collapses ⟨mark, k.channel, c'⟩) :
        Confined t n ((Course.part mark).put c' k) := by
      refine ⟨h.contained.snoc (Or.inr fun s same => (other s same).elim), ?_⟩
      rcases after with inside | collapses
      · exact Or.inr inside
      · exact Or.inl ⟨_, List.mem_append_right _ (List.mem_singleton_self _), collapses⟩
    exact .within ((deep inside).imp (fun _ => noted) noted)

theorem statement_part (h : Confined t n k) (s : Statement) :
    Confined t n ((s.run.within (Course.part (.act s))).outcome k).2 := by
  rcases h.state with collapsed | inside
  · exact of_collapsed h.contained collapsed _
  · have settled := inside.settled
    have sent := (Statement.sent settled.onSession settled.inTransaction s).after
    obtain ⟨es, count, route, seen⟩ := sent.events
    refine ⟨h.contained.snoc (Or.inr fun s' same => ?_), Or.inr ?_⟩
    · cases same
      exact Routes.goesInto (seen.news ▸ route) inside.held
    · exact inside.congr sent.level sent.transaction sent.onSession

theorem begin_part (h : Confined t n k) :
    (begin.within (Course.part .transaction)).Ends k (fun _ => Confined t (n + 1))
      (Confined t n) :=
  h.part nofun fun inside => (begin_inside inside.level).imp (fun _ _ becomes => Or.inl
    ⟨becomes.level, becomes.held.trans inside.held, becomes.onSession inside.onSession⟩)
    fun _ => False.elim

theorem commit_part (h : Confined t (n + 1) k) :
    (commit.within (Course.part .transaction)).Ends k (fun _ => Confined t n)
      (Confined t (n + 1)) :=
  h.part nofun fun inside => (commit_inside inside.level).imp (fun _ _ becomes => Or.inl
    ⟨becomes.level, becomes.held.trans inside.held, becomes.onSession inside.onSession⟩)
    fun _ => False.elim

theorem rollback_part (h : Confined t (n + 1) k) :
    (rollback.within (Course.part .transaction)).Ends k (fun _ => Confined t n)
      (Confined t n) :=
  h.part nofun fun inside => by
    have collapses {c' : Channel} (becomes : k.channel.Becomes 0 none [.rolledBack t] 0 c') :
        Episode.Collapses (A := Statement) ⟨.transaction, k.channel, c'⟩ :=
      ⟨⟨n, inside.level⟩, becomes.level⟩
    exact (rollback_inside inside.level inside.held).imp (fun _ _ b => Or.inr (collapses b))
      fun _ b => Or.inr (collapses b)

theorem transaction {body : Exec (Course Statement) α}
    (confined : body.Maintains (Confined t (n + 1))) :
    (GraphQuery.transaction (Course.part .transaction) body).Maintains (Confined t n) := by
  refine .of_ends fun k h => ?_
  unfold GraphQuery.transaction transactionFrom
  refine .bind (h.begin_part.imp (fun _ k₁ h₁ => ?_) fun _ => id)
  have undone {k : Course Statement} (h : Confined t (n + 1) k) (e : Error) :
      (rollback.within (Course.part .transaction) >>= fun _ => (Exec.fail e : Exec _ α)).Ends k
        (fun _ => Confined t n) (Confined t n) :=
    .bind (h.rollback_part.imp (fun _ _ => .fail) fun _ => id)
  refine .bind (.attempt (.bind ((confined.ends h₁).imp (fun a k₂ h₂ => ?_)
    fun k₂ h₂ => undone h₂)))
  refine .bind (h₂.commit_part.imp (fun _ k₃ h₃ => .of_pure ?_) fun k₃ h₃ => undone h₃)
  exact .of_pure h₃

theorem pretend {body : Exec (Course Statement) α} (confined : body.Maintains (Confined t n)) :
    (GraphQuery.pretend (Course.part .pretence) body).Maintains (Confined t n) := by
  refine pretend_maintains (.of_ends fun k h => ?_) (fun logged => .of_ends fun k h => ?_) confined
  · exact h.part nofun fun inside => .bind (.of_get (.bind (change_ends (.of_pure
      (Or.inl (inside.congr rfl rfl id))))))
  · exact h.part nofun fun inside => change_ends (Or.inl (inside.congr rfl rfl id))

theorem run : ∀ (body : Activity Statement.Answer) (n : Nat),
    (body.run Statement.run Course.part).Maintains (Confined t n)
  | .finish v, _ => .of_pure v
  | .fail e, _ => .fail e
  | .act s next, n => (Exec.Maintains.attempt fun _ h => h.statement_part s).bind fun r =>
    run (next r) n
  | .transaction body next, n => (transaction (run body (n + 1))).attempt.bind fun r =>
    run (next r) n
  | .pretend body next, n => (pretend (run body n)).attempt.bind fun r => run (next r) n

end Confined

/-! ### The outermost call -/

/-- The first step of a course has opened this transaction. -/
def Course.Opened (t : Nat) (k : Course Statement) : Prop :=
  ∃ first later m, k.episodes = first :: later ∧ first.news = [.transactionBegun m] ∧
    first.after.Holds t

/-- Whatever follows, the first step stays the first. -/
theorem Course.opened_part {α : Type} {t : Nat} (mark : Mark Statement) (step : Exec Channel α) :
    (step.within (Course.part mark)).Maintains (Course.Opened t) := by
  refine .within fun k ⟨first, later, m, es, news, holds⟩ => ?_
  refine ⟨first, later ++ [⟨mark, k.channel, (step.outcome k.channel).2⟩], m, ?_, news, holds⟩
  exact (congrArg (· ++ [_]) es).trans (List.cons_append ..)

/-- What the outermost call keeps once it has opened a transaction. -/
structure Encloses (t : Nat) (k : Course Statement) : Prop where
  opened : k.Opened t
  contained : Contained t k.episodes

theorem Encloses.part {α : Type} {t : Nat} (step : Exec Channel α) :
    (step.within (Course.part .transaction)).Maintains (Encloses t) := fun k h =>
  ⟨Course.opened_part .transaction step k h.opened, h.contained.snoc (Or.inr fun _ same => by cases same)⟩

theorem Encloses.run {t : Nat} {k : Course Statement} (opened : k.Opened t)
    (confined : Confined t 0 k) (body : Activity Statement.Answer) :
    (body.run Statement.run Course.part).Ends k (fun _ => Encloses t) (Encloses t) := by
  have opens : (body.run Statement.run Course.part).Maintains (Course.Opened t) :=
    body.run_maintains (fun _ => Course.opened_part _ _) (Course.opened_part _ _)
      (Course.opened_part _ _) (Course.opened_part _ _) (Course.opened_part _ _)
      fun _ => Course.opened_part _ _
  have both : (body.run Statement.run Course.part).Maintains fun k => k.Opened t ∧ Confined t 0 k :=
    fun k h => ⟨opens k h.1, Confined.run body 0 k h.2⟩
  exact (both.ends ⟨opened, confined⟩).imp (fun _ _ h => ⟨h.1, h.2.contained⟩)
    fun _ h => ⟨h.1, h.2.contained⟩

/-- A callback in a transaction of its own, with every step noted. -/
def enclosed (body : Activity Statement.Answer) : Exec (Course Statement) Value :=
  transaction (Course.part .transaction) (body.run Statement.run Course.part)

/-- The outermost call encloses its callback, or it cannot open a transaction and does nothing else. -/
theorem transaction_encloses {c : Channel} (rest : c.AtRest) (body : Activity Statement.Answer) :
    let result (k : Course Statement) := Encloses c.server.transactions k ∨
      ∃ e, k.episodes = [e] ∧ e.mark = .transaction
    (enclosed body).Ends ⟨c, []⟩ (fun _ => result) result := by
  intro result
  have undone {k : Course Statement} (h : Encloses c.server.transactions k) (e : Error) :
      (rollback.within (Course.part .transaction) >>= fun _ => (Exec.fail e : Exec _ Value)).Ends k
        (fun _ => result) result :=
    .bind (((Encloses.part rollback).ends h).imp (fun _ _ h => .fail (Or.inl h)) fun _ => Or.inl)
  unfold enclosed transaction transactionFrom
  refine .bind (.within ((begin_outside rest.level rest.free).imp (fun _ c₁ begun => ?_)
    fun c₁ _ => Or.inr ⟨_, rfl, rfl⟩))
  obtain ⟨m, becomes⟩ := begun
  have opened : Course.Opened c.server.transactions
      ⟨c₁, [⟨.transaction, c, c₁⟩]⟩ := ⟨_, [], m, rfl, becomes.server.news, becomes.held⟩
  have confined : Confined c.server.transactions 0 ⟨c₁, [⟨.transaction, c, c₁⟩]⟩ :=
    ⟨GoodUntil.nil.snoc (Or.inr fun _ same => by cases same),
      Or.inr ⟨becomes.level, becomes.held, becomes.onSession rest.onSession⟩⟩
  refine .bind (.attempt (.bind ((Encloses.run opened confined body).imp (fun a k₂ h₂ => ?_)
    fun k₂ h₂ => undone h₂)))
  refine .bind (((Encloses.part commit).ends h₂).imp (fun _ k₃ h₃ => .of_pure ?_)
    fun k₃ h₃ => undone h₃)
  exact .of_pure (Or.inl h₃)

/-- A callback of the outermost transaction; noting its steps changes nothing about where it ends. Unless
the call fails to open a transaction, and does nothing else, its statements go into the transaction that
it has opened, as long as nothing inside has collapsed. So if nothing inside collapses no statement is
given a transaction of its own, whether the call succeeds or fails. -/
theorem transaction_contained {c : Channel} (rest : c.AtRest) (body : Activity Statement.Answer) :
    let k := ((enclosed body).outcome ⟨c, []⟩).2
    k.channel = ((transaction .whole (body.run Statement.run fun _ => .whole)).outcome c).2 ∧
    (k.Opened c.server.transactions ∨ ∃ e, k.episodes = [e] ∧ e.mark = .transaction) ∧
    Contained c.server.transactions k.episodes ∧
    ((∀ e ∈ k.episodes, ¬ e.Collapses) → ∀ e ∈ k.episodes, ∀ s, e.mark = .act s →
      ∀ n, .writeExecuted n ∉ e.news) := by
  intro k
  have contained : Contained c.server.transactions k.episodes := by
    rcases (transaction_encloses rest body).after with encloses | ⟨e, single, marked⟩
    · exact encloses.contained
    · rw [show k.episodes = [e] from single]
      exact GoodUntil.nil.snoc (Or.inr fun _ same => by cases marked.symm.trans same)
  have unnoted := mirrors_transaction (body.run_course Statement.run) ⟨c, []⟩
  refine ⟨(congrArg Prod.snd unnoted).symm,
    (transaction_encloses rest body).after.imp Encloses.opened id, contained, ?_⟩
  intro whole e he s marked n written
  rcases (contained.all whole e he s marked).sent with ⟨_, unsent⟩ | ⟨ps, _, sent⟩
  · rw [unsent] at written
    cases written
  · rw [sent] at written
    cases List.mem_singleton.mp written

/-- A write inside another transaction goes into the outermost one, too, and is rolled back with it. -/
theorem transaction_contained_nested :
    let c := Channel.facing []
    let k := ((enclosed (.transaction
      (.act (.change (.text "CREATE (n)") .null) fun _ => .finish .null) fun _ =>
        .act (.select (.text "MATCH (n) RETURN n") .null) fun _ => .fail .noReconnector)).outcome
      ⟨c, []⟩).2
    c.AtRest ∧ k.news.map Event.asked? = [none, some 0, some 0, some 0] ∧
    Contained c.server.transactions k.episodes :=
  ⟨Channel.atRest_facing _, by decide +kernel,
    (transaction_contained (Channel.atRest_facing _) _).2.2.1⟩

/-- After a failure inside has been caught, a write has a transaction of its own. It stays, although the
outermost call fails. -/
theorem transaction_left :
    let r := (enclosed (.transaction (.fail .noReconnector) fun _ =>
      .act (.change (.text "CREATE (n)") .null) fun _ => .fail .noReconnector)).outcome
        ⟨Channel.facing [], []⟩
    r.1.toOption.isNone ∧ r.2.news.map Event.asked? = [none, some 0, none, some 1] ∧
    ∃ e ∈ r.2.news, ∃ n, e = .writeExecuted n := by
  have own (es : List Event) (h : es.any (· matches .writeExecuted _) = true) :
      ∃ e ∈ es, ∃ n, e = .writeExecuted n := by
    obtain ⟨e, he, own⟩ := List.any_eq_true.mp h
    refine ⟨e, he, ?_⟩
    cases e <;> first | exact ⟨_, rfl⟩ | cases own
  exact ⟨by decide +kernel, by decide +kernel, own _ (by decide +kernel)⟩

end GraphQuery
