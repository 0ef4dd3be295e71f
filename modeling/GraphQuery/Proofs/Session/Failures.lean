import GraphQuery.Proofs.Session.Bookkeeping
import GraphQuery.Proofs.Session.Replies

/-! # How statements fail

A statement makes its requests one after another (`Channel.requests`): those that open a session, unless
there is one, then perhaps one for a transaction of its own, then the statement itself.  It succeeds if
all of them are granted and the answer to the last one can be read.  Otherwise it fails with the text, the
parameters that were prepared for it, and the failure that it met with (`Statement.Meets`); either way the
count of transactions and the one that is held stay as they were, and the statement is in the query log
once if there is one.

A new connection is regular (`Channel.Regular`), and no activity makes it otherwise, whatever the server
refuses (`Channel.Regular.run`).
`Statement.run_yields` says what every statement comes to, and `Channel.Regular.statement_failures` tells
its successes and failures apart. -/

namespace GraphQuery

open Exec

/-! ### Connections stay regular -/

namespace Channel

theorem regular_new (config : ConnectionConfig) (server : Server) (pattern : String) :
    Regular ⟨.new config, .ofConfig config, server, some pattern⟩ where
  onSession _ found := (Option.some_ne_none _ found.symm).elim
  inTransaction _ found := (Option.some_ne_none _ found.symm).elim
  instead := rfl
  pattern := ⟨pattern, rfl⟩
  queryLog := ⟨[], none, rfl⟩
  sound on := absurd on (by simp [Engine.ofConfig, Engine.new, Value.isTruthy])

variable {α : Type} {c c' : Channel}

theorem After.regular (h : c.Regular) {ks : List Request} (after : c.After ks c') : c'.Regular where
  onSession := after.onSession
  inTransaction := by
    unfold InTransaction
    rw [after.connection]
    exact h.inTransaction
  instead := by
    rw [after.connection]
    exact h.instead
  pattern := after.datePattern ▸ h.pattern
  queryLog := by
    rw [after.connection]
    exact h.queryLog
  sound := after.sound

theorem ask_regular (step : Exec Server α) : (ask step).Maintains Regular := fun _ h =>
  ⟨h.onSession, h.inTransaction, h.instead, h.pattern, h.queryLog, h.sound⟩

theorem client_regular : client.Maintains Regular := by
  intro c h
  have opened : (client >>= fun _ => pure ()).Yields c
      (c.link.tried c.openings >>= fun _ => .ok ()) Regular :=
    client_yields h (fun n c' after => .of_pure (after.regular h)) fun c' after => after.regular h
  have after := opened.after
  rw [outcome_bind] at after
  cases e : client.outcome c with
  | mk r c' =>
    rw [e] at after
    cases r <;> exact after

theorem count_regular (step : Int) : (count step).Maintains Regular :=
  Maintains.of_get.bind fun _ => (Maintains.ofResult _).bind fun _ => .of_modify fun _ h =>
    ⟨h.onSession, h.inTransaction, h.instead, h.pattern, h.queryLog, h.sound⟩

theorem openTransaction_holds : openTransaction.Maintains Regular ∧
    ∀ c, openTransaction.Ends c (fun held _ => ∃ t, held = some (.on (.transaction t))) fun _ => True := by
  refine ⟨?_, fun c => ?_⟩
  · refine Maintains.bind (client_regular.bind fun _ => .ofResult _) fun _ => ?_
    exact (ask_regular _).bind fun _ => .of_pure _
  · refine openTransaction_reaches.imp (fun held _ reached => ?_) fun _ _ => trivial
    exact ⟨_, reached.1⟩

theorem begin_regular : begin.Maintains Regular := by
  refine Maintains.bind ((count_regular 1).bind fun _ => Maintains.of_get.bind fun _ => .of_pure _)
    fun outermost => .ite (fun _ => ?_) fun _ => .of_pure _
  refine .of_ends fun c h => .bind (.attempt ?_)
  have opened : openTransaction.Ends c
      (fun held c' => c'.Regular ∧ ∃ t, held = some (.on (.transaction t))) Regular := by
    have regular := openTransaction_holds.1.ends h
    have held := openTransaction_holds.2 c
    exact ⟨fun a c' e => ⟨regular.1 a c' e, held.1 a c' e⟩, regular.2⟩
  refine opened.imp (fun held c' ⟨regular, t, transaction⟩ => ?_) fun c' regular e => ?_
  · subst transaction
    refine .bind (.of_modify ((ask_regular _).ends ?_))
    refine { regular with inTransaction := fun x found => ?_ }
    exact ⟨t, (Option.some.inj found).symm⟩
  · exact ((count_regular (-1)).bind fun _ => .fail _).ends regular

theorem Regular.released (h : c.Regular) (level : Value) :
    Regular { c with connection := { c.connection with transaction := none, level } } :=
  { h with inTransaction := fun _ found => (Option.some_ne_none _ found.symm).elim }

theorem wrapStep_regular {name : String} {step : Exec Channel α} (h : step.Maintains Regular) :
    (wrapStep name step).Maintains Regular := by
  refine h.attempt.bind fun r => ?_
  cases r with
  | ok a => exact .of_pure a
  | error e => exact .fail _

theorem releaseTransaction_regular : releaseTransaction.Maintains Regular :=
  Maintains.of_get.bind fun _ => Maintains.bind (.of_modify fun c h => h.released c.connection.level)
    fun _ => .of_pure _

theorem end_regular {name action message : String} {finish : Nat → Exec Server Unit} (t : Client) :
    (do wrapStep name do ask (finish (← Exec.ofResult (t.transaction action)))
        logStep message : Exec Channel Unit).Maintains Regular :=
  (wrapStep_regular ((Maintains.ofResult _).bind fun _ => ask_regular _)).bind fun _ => ask_regular _

theorem commit_regular : commit.Maintains Regular := by
  refine Maintains.of_get.bind fun _ => .ite (fun _ => .of_ends fun _ h => .bind (.fail h)) fun _ => ?_
  refine (count_regular (-1)).bind fun _ => Maintains.of_get.bind fun _ =>
    .ite (fun _ => .of_pure _) fun _ => ?_
  refine releaseTransaction_regular.bind fun held => ?_
  cases held with
  | none => exact .of_pure _
  | some t => exact end_regular t

theorem rollback_regular : rollback.Maintains Regular := by
  refine Maintains.of_get.bind fun _ => .ite (fun _ => .of_pure _) fun _ => ?_
  refine releaseTransaction_regular.bind fun held => .bind (.of_modify fun _ h => ?_) fun _ => ?_
  · exact { h with }
  cases held with
  | none => exact .of_pure _
  | some t => exact end_regular t

theorem disconnect_regular : disconnect.Maintains Regular := by
  refine Maintains.of_get.bind fun c => .bind (.of_modify fun c h => ?_) fun _ => ?_
  · exact { h.released (.int 0) with onSession := fun _ found => (Option.some_ne_none _ found.symm).elim }
  split
  · exact ask_regular _
  · exact (Maintains.ofResult _).bind fun _ => ask_regular _
  · exact .of_pure _

theorem startPretending_regular : startPretending.Maintains Regular := by
  refine Maintains.of_get.bind fun _ => .bind (.of_modify fun _ h => ?_) fun _ => .of_pure _
  exact { h with queryLog := ⟨[], none, rfl⟩ }

theorem stopPretending_regular (logged : Value) : (stopPretending logged).Maintains Regular :=
  .of_modify fun _ h => { h with }

theorem runOn_regular (x : Client) (text : Value) (ps : Properties) :
    (runOn x text ps).Maintains Regular := (Maintains.ofResult _).bind fun _ => ask_regular _

theorem read_regular (text : Value) (ps : Properties) : (read text ps).Maintains Regular := by
  refine Maintains.of_get.bind fun _ => ?_
  split
  · exact runOn_regular _ _ _
  · exact client_regular.bind fun _ => runOn_regular _ _ _

theorem write_regular (text : Value) (ps : Properties) : (write text ps).Maintains Regular := by
  refine Maintains.of_get.bind fun _ => ?_
  split
  · exact runOn_regular _ _ _
  · exact (client_regular.bind fun _ => .ofResult _).bind fun _ => ask_regular _

/-- Statements keep a connection regular, also if their bindings are no map. -/
theorem statement_regular (s : Statement) : s.run.Maintains Regular :=
  statement_maintains (fun _ _ _ h => { h with queryLog := ⟨_, _, rfl⟩ }) read_regular write_regular s

/-- Whatever an activity does on a regular connection, it leaves it regular. -/
theorem Regular.run (h : c.Regular) (activity : Activity Action.Answer) :
    ((activity.run Action.run fun _ => .whole).outcome c).2.Regular := by
  have action (a : Action) : a.run.Maintains Regular := by
    cases a with
    | statement s => exact statement_regular s
    | begin => exact begin_regular
    | commit => exact commit_regular
    | rollback => exact rollback_regular
    | disconnect => exact disconnect_regular
  exact Activity.run_maintains_whole action begin_regular commit_regular rollback_regular
    startPretending_regular stopPretending_regular activity c h

end Channel

/-! ### Requests -/

namespace Station

variable {t : Station}

theorem tried_append (t : Station) (ks : List Request) (k : Request) (js : List Request) :
    t.tried (ks ++ k :: js) = t.tried ks >>= fun _ => t.tried (k :: js) := by
  unfold tried
  simp only [List.foldlM_append, List.foldlM_cons]

theorem tried_run (t : Station) : t.tried [.run] = t.server.reply .run := by
  unfold tried
  simp only [List.foldlM_cons, List.foldlM_nil, bind_pure]
  show (t.server.reply .run).mapError id = _
  cases t.server.reply .run <;> rfl

theorem tried_write (t : Station) :
    t.tried [.executeWrite, .run] = t.server.reply .executeWrite >>= fun _ => t.server.reply .run := by
  rw [← tried_run t]
  show (t.server.reply .executeWrite).mapError id >>= _ = _
  cases t.server.reply .executeWrite <;> rfl

/-- Requests fail when one of them is refused after all before it have been granted. -/
theorem tried_eq_error_iff {e : Error} {ks : List Request} : t.tried ks = .error e ↔
    ∃ earlier k later cause, ks = earlier ++ k :: later ∧ (∀ j ∈ earlier, ∃ rows, t.reply j = .ok rows) ∧
      t.reply k = .error cause ∧ e = t.engine.reason k cause := by
  unfold tried
  generalize ([] : List Row) = rows
  induction ks generalizing rows with
  | nil => simp [pure, Except.pure]
  | cons k ks ih =>
    rw [List.foldlM_cons]
    cases replied : t.reply k with
    | error cause =>
      constructor
      · intro failed
        exact ⟨[], k, ks, cause, rfl, by simp, replied, (Except.error.inj failed).symm⟩
      · rintro ⟨earlier, k', later, cause', split, granted, refused, rfl⟩
        cases earlier with
        | nil =>
          obtain ⟨rfl, rfl⟩ := List.cons.inj split
          obtain rfl := Except.error.inj (replied.symm.trans refused)
          rfl
        | cons j earlier =>
          obtain ⟨rfl, -⟩ := List.cons.inj split
          obtain ⟨rows, fine⟩ := granted k List.mem_cons_self
          cases replied.symm.trans fine
    | ok answer =>
      refine Iff.trans (ih answer) ⟨?_, ?_⟩
      · rintro ⟨earlier, k', later, cause, rfl, granted, refused⟩
        exact ⟨k :: earlier, k', later, cause, rfl,
          List.forall_mem_cons.mpr ⟨⟨answer, replied⟩, granted⟩, refused⟩
      · rintro ⟨earlier, k', later, cause, split, granted, refused, reason⟩
        cases earlier with
        | nil =>
          obtain ⟨rfl, -⟩ := List.cons.inj split
          cases replied.symm.trans refused
        | cons j earlier =>
          obtain ⟨rfl, rfl⟩ := List.cons.inj split
          exact ⟨earlier, k', later, cause, rfl, (List.forall_mem_cons.mp granted).2, refused, reason⟩

end Station

namespace Statement

/-- The bindings that a statement is given. -/
def bindings : Statement → Value
  | select _ bindings | selectOne _ bindings | insert _ bindings | change _ bindings
  | affecting _ bindings => bindings
  | unprepared _ => .null

/-- Whether a statement is given a map of bindings, or none. -/
def IsMapped (s : Statement) : Prop := s.bindings = .null ∨ s.bindings.entries?.isSome = true

/-- What the rows that a statement is answered with are read as. -/
def reading : (s : Statement) → List Row → Result s.Answer
  | select .., rows | insert .., rows => .ok rows
  | selectOne .., rows => .ok ((rows.head?.map Channel.rowValue).getD .null)
  | affecting .., rows => Channel.affectedCount rows
  | change .., _ | unprepared _, _ => .ok ()

end Statement

namespace Channel

variable {c c' : Channel}

/-- The requests that a statement makes, one after another as long as they are granted. -/
def requests (c : Channel) (s : Statement) : List Request :=
  if c.connection.isPretending.isTruthy then []
  else match c.connection.transaction with
    | some _ => [.run]
    | none => c.openings ++ if s.writes then [.executeWrite, .run] else [.run]

/-- What a statement adds to the query log: an entry with its bindings as they were given, if there is a
log. -/
def notes (c : Channel) (s : Statement) : List Value :=
  if c.connection.logsQueries.isTruthy then
    [logEntry s.text (if s.bindings.isTruthy then s.bindings else .ofPairs []) noTime]
  else []

/-- The requests that a statement may make. -/
abbrev asking : List Request := opening ++ [.executeWrite, .run]

/-- Opening a session does not touch the queues of other requests. -/
theorem After.reply {ks : List Request} (h : c.Regular) (after : c.After ks c') {k : Request}
    (out : k ∉ ks) (other : k ∉ [.openDriver, .verify]) : c'.server.reply k = c.link.server.reply k :=
  (after.server k out).trans
    ((Station.settled_past (t := stationPart.get c) h.sound).server k other).symm

theorem ask_yields {α : Type} {step : Exec Server α} {r : Result α} {js ks : List Request}
    (after : c.After ks c') (h : step.Yields c'.server r (c'.server.Past js)) (sub : js ⊆ ks) :
    (ask step).Yields c' r (c.After ks) := by
  refine .within (.within (h.imp fun u past => ?_))
  exact ⟨after.connection, after.datePattern, after.onSession, after.sound,
    after.server.trans (past.mono sub)⟩

theorem runOn_yields (h : c.Regular) (after : c.After opening c') (runner : Runner) (text : Value)
    (ps : Properties) :
    (runOn (.on runner) text ps).Yields c' (c.link.server.reply .run) (c.After asking) := by
  rw [← after.reply h (k := .run) (by simp) (by simp)]
  exact .bind_ok (.ofResult (ask_yields (after.mono (by simp)) (Server.run_yields ..) (by simp)))

theorem runInside_yields (h : c.Regular) {x : Client} (held : c.connection.transaction = some x)
    (text : Value) (ps : Properties) :
    (runOn x text ps).Yields c (c.link.tried [.run]) (c.After asking) := by
  obtain ⟨t, rfl⟩ := h.inTransaction x held
  rw [Station.tried_run]
  exact runOn_yields h (.refl h _) (.transaction t) text ps

theorem read_yields (h : c.Regular) {s : Statement} (reads : s.writes = false)
    (dry : c.connection.isPretending.isTruthy = false) (text : Value) (ps : Properties) :
    (read text ps).Yields c (c.link.tried (c.requests s)) (c.After asking) := by
  unfold read requests
  rw [dry, reads]
  refine .bind_get ?_
  cases held : c.connection.transaction with
  | some x => exact runInside_yields h held text ps
  | none =>
    have outside := client_yields h (f := fun x => runOn x text ps)
      (fun n c' after => runOn_yields h after (.session n) text ps) fun c' after => after.mono (by simp)
    rw [← Station.tried_run, ← Station.tried_append] at outside
    exact outside

theorem write_yields (h : c.Regular) {s : Statement} (writes : s.writes = true)
    (dry : c.connection.isPretending.isTruthy = false) (text : Value) (ps : Properties) :
    (write text ps).Yields c (c.link.tried (c.requests s)) (c.After asking) := by
  unfold write requests
  rw [dry, writes]
  refine .bind_get ?_
  cases held : c.connection.transaction with
  | some x => exact runInside_yields h held text ps
  | none =>
    unfold sessionFor
    simp only [bind_assoc]
    have outside : (client >>= fun x => Exec.ofResult (x.session "execute_write") >>= fun s =>
        ask (Server.executeWrite s text ps)).Yields c
        (c.link.tried c.openings >>= fun _ => c.link.tried [.executeWrite, .run]) (c.After asking) := by
      refine client_yields h (fun n c' after => ?_) fun c' after => after.mono (by simp)
      rw [Station.tried_write, ← after.reply h (k := .run) (by simp) (by simp),
        ← after.reply h (k := .executeWrite) (by simp) (by simp)]
      exact .bind_ok (.ofResult
        (ask_yields (after.mono (by simp)) (Server.executeWrite_yields ..) (by simp)))
    rw [← Station.tried_append] at outside
    exact outside

/-! ### Bindings -/

theorem prepared_yields (h : c.Regular) (bindings : Value) :
    (prepared bindings).Yields c (parametersUnder c.datePattern bindings) (· = c) := by
  have sent : (Exec.ofResult (parametersUnder c.datePattern bindings)).Yields c _ (· = c) :=
    .ofResult rfl
  unfold prepared
  split
  · refine .bind_get ?_
    rw [ask_instead h]
    exact .bind_ok (a := ()) (.ofResult (.bind_get sent))
  · exact .bind_get sent

theorem bindingEntries_of_entries {bindings : Value} {entries : List (Value × Value)}
    (h : bindings.entries? = some entries) : bindingEntries bindings = .ok entries := by
  unfold bindingEntries
  split
  · cases h
  · cases h
  · rw [h]

theorem Regular.exists_parameters (h : c.Regular) {s : Statement} (mapped : s.IsMapped) :
    ∃ ps, parametersUnder c.datePattern s.bindings = .ok ps := by
  obtain ⟨pattern, dates⟩ := h.pattern
  rw [dates]
  show ∃ ps, prepareParameters pattern s.bindings = .ok ps
  rcases mapped with none | entries
  · rw [none]
    exact ⟨[], rfl⟩
  · obtain ⟨entries, given⟩ := Option.isSome_iff_exists.mp entries
    unfold prepareParameters
    rw [bindingEntries_of_entries given]
    split
    · exact ⟨[], rfl⟩
    · exact ⟨_, rfl⟩

theorem Regular.parameters_eq (h : c.Regular) (s : Statement) :
    s.parameters c = parametersUnder c.datePattern s.bindings := by
  cases s with
  | unprepared text =>
    obtain ⟨pattern, dates⟩ := h.pattern
    rw [dates]
    rfl
  | _ => exact (prepared_yields h _).result

/-! ### Running a statement -/

/-- A later state, when a statement has been run: of the connection itself only the session and the query
log have changed. -/
structure Ran (c : Channel) (s : Statement) (c' : Channel) : Prop where
  connection : c'.connection = { c.connection with
    client := c'.connection.client, queryLog := c'.connection.queryLog }
  queryLog : ∀ entries mark, c.connection.queryLog = .list entries mark →
    c'.connection.queryLog = .list (entries ++ c.notes s) mark

theorem logQuery_yields (h : c.Regular) (s : Statement) (after : c.After asking c') :
    (logQuery s.text s.bindings noTime).Yields c' (.ok ()) (c.Ran s) := by
  obtain ⟨entries, mark, log⟩ := h.queryLog
  have kept : c'.connection.logsQueries = c.connection.logsQueries := by rw [after.connection]
  have same : c'.connection.queryLog = c.connection.queryLog := by rw [after.connection]
  unfold logQuery
  refine .bind_get ?_
  dsimp only
  rw [kept, same, log]
  split
  · next on =>
    refine .of_modify ⟨?_, fun entries' mark' log' => ?_⟩
    · dsimp only
      rw [after.connection]
    · obtain ⟨rfl, rfl⟩ := Value.list.inj (log.symm.trans log')
      rw [notes, if_pos on]
  · next off =>
    refine .of_pure ⟨?_, fun entries' mark' log' => ?_⟩
    · rw [same]
      exact after.connection
    · rw [notes, if_neg off, List.append_nil, same, log']

/-- A statement comes to what its requests come to, or to their failure, with its text and its
parameters. -/
theorem run_yields {α : Type} (h : c.Regular) (s : Statement) {ps : Properties}
    (given : parametersUnder c.datePattern s.bindings = .ok ps) {pretended : α} {step : Exec Channel α}
    {r : Result α} (pretend : c.connection.isPretending.isTruthy = true → r = .ok pretended)
    (sent : c.connection.isPretending.isTruthy = false → step.Yields c r (c.After asking)) :
    (run s.text s.bindings pretended step).Yields c (r.mapError (.execution s.text ps)) (c.Ran s) := by
  have tried : (do
      if (← get).connection.isPretending.isTruthy then return pretended
      step : Exec Channel α).Yields c r (c.After asking) := by
    refine .bind_get ?_
    split
    · next pretends => exact pretend pretends ▸ .of_pure (.refl h _)
    · next sends => exact sent (Bool.not_eq_true _ ▸ sends)
  unfold run wrapFailure
  refine .ensuring (.bind_ok (tried.attempt.imp fun c₁ after => ?_)) fun c₂ after =>
    logQuery_yields h s after
  cases r with
  | ok a => exact .of_pure after
  | error cause =>
    have again := prepared_yields (after.regular h) s.bindings
    rw [after.datePattern, given] at again
    exact .bind_ok (again.imp fun c₂ same => .ofResult (same ▸ after))

theorem prepared_run {α : Type} (h : c.Regular) (s : Statement) {ps : Properties}
    (given : parametersUnder c.datePattern s.bindings = .ok ps) {pretended : α}
    {step : Properties → Exec Channel α} {r : Result α}
    (pretend : c.connection.isPretending.isTruthy = true → r = .ok pretended)
    (sent : c.connection.isPretending.isTruthy = false → (step ps).Yields c r (c.After asking)) :
    (run s.text s.bindings pretended (prepared s.bindings >>= step)).Yields c
      (r.mapError (.execution s.text ps)) (c.Ran s) := by
  refine run_yields h s given pretend fun dry => ?_
  have ready := prepared_yields h s.bindings
  rw [given] at ready
  exact .bind_ok (ready.imp fun c₁ same => same ▸ sent dry)

theorem tried_pretending (s : Statement) (h : c.connection.isPretending.isTruthy = true) :
    c.link.tried (c.requests s) = .ok [] := by
  unfold requests
  rw [if_pos h]
  rfl

theorem select_yields (h : c.Regular) (s : Statement) (reads : s.writes = false) {ps : Properties}
    (given : parametersUnder c.datePattern s.bindings = .ok ps) :
    (select s.text s.bindings).Yields c
      ((c.link.tried (c.requests s)).mapError (.execution s.text ps)) (c.Ran s) :=
  prepared_run h s given (tried_pretending s) fun dry => read_yields h reads dry _ _

end Channel

open Channel in
/-- What every statement comes to: its requests, made one after another, and the answer to the last of
them as it is read. -/
theorem Statement.run_yields {c : Channel} (h : c.Regular) (s : Statement) {ps : Properties}
    (given : parametersUnder c.datePattern s.bindings = .ok ps) :
    s.run.Yields c ((c.link.tried (c.requests s) >>= s.reading).mapError (.execution s.text ps))
      (c.Ran s) := by
  have pretend (pretends : c.connection.isPretending.isTruthy = true) :
      c.link.tried (c.requests s) >>= s.reading = s.reading [] := by
    rw [tried_pretending s pretends]
    rfl
  cases s with
  | select text bindings =>
    have rows := select_yields h (.select text bindings) rfl given
    rw [← bind_pure (c.link.tried _)] at rows
    exact rows
  | selectOne text bindings =>
    have row := (select_yields h (.selectOne text bindings) rfl given).bind_map
      (fun rows _ ran => .of_pure (a := (rows.head?.map rowValue).getD .null) ran) fun _ => id
    cases e : c.link.tried (c.requests (.selectOne text bindings)) <;> rw [e] at row <;> exact row
  | insert text bindings =>
    refine prepared_run h (.insert text bindings) given pretend fun dry => ?_
    have rows := write_yields h (s := .insert text bindings) rfl dry text ps
    rw [← bind_pure (c.link.tried _)] at rows
    exact rows
  | change text bindings =>
    refine prepared_run h (.change text bindings) given pretend fun dry => ?_
    have done := (write_yields h (s := .change text bindings) rfl dry text ps).discard
    cases e : c.link.tried (c.requests (.change text bindings)) <;> rw [e] at done <;> exact done
  | affecting text bindings =>
    refine prepared_run h (.affecting text bindings) given pretend fun dry => ?_
    exact (write_yields h rfl dry _ _).bind (fun rows c₁ _ after => .ofResult after) fun _ => id
  | unprepared text =>
    refine Channel.run_yields h (.unprepared text) given pretend fun dry => ?_
    have done := (write_yields h (s := .unprepared text) rfl dry text []).discard
    cases e : c.link.tried (c.requests (.unprepared text)) <;> rw [e] at done <;> exact done

/-! ### Failures -/

/-- The failures that a statement meets with: a request that is refused when all before it have been
granted, or an answer that cannot be read. -/
inductive Statement.Meets (c : Channel) (s : Statement) : Error → Prop
  | refused {earlier later : List Request} {k : Request} {cause : Error} :
      c.requests s = earlier ++ k :: later → (∀ j ∈ earlier, ∃ rows, c.link.reply j = .ok rows) →
      c.link.reply k = .error cause → Meets c s (c.link.engine.reason k cause)
  | unread {rows : List Row} {cause : Error} : c.link.tried (c.requests s) = .ok rows →
      s.reading rows = .error cause → Meets c s cause

theorem Statement.meets_iff {c : Channel} {s : Statement} {e : Error} :
    s.Meets c e ↔ c.link.tried (c.requests s) >>= s.reading = .error e := by
  constructor
  · rintro (⟨split, granted, refused⟩ | ⟨answered, unread⟩)
    · have failed := Station.tried_eq_error_iff.mpr ⟨_, _, _, _, split, granted, refused, rfl⟩
      rw [failed]
      rfl
    · rw [answered]
      exact unread
  · intro failed
    cases tried : c.link.tried (c.requests s) with
    | error cause =>
      rw [tried] at failed
      obtain rfl := Except.error.inj failed
      obtain ⟨earlier, k, later, cause, split, granted, refused, rfl⟩ :=
        Station.tried_eq_error_iff.mp tried
      exact .refused split granted refused
    | ok rows =>
      rw [tried] at failed
      exact .unread tried failed

open Channel in
/-- Every statement with a map of bindings on a regular connection: it fails exactly with the failures it
meets with, with its text and the parameters prepared for it; the count of transactions and the one that is
held stay as they were; and it is noted in the query log once if there is one. -/
theorem Channel.Regular.statement_failures {c : Channel} (h : c.Regular) {s : Statement}
    (mapped : s.IsMapped) :
    ∃ ps, s.parameters c = .ok ps ∧
      (∀ e, s.Meets c e → (s.run.outcome c).1 = .error (.execution s.text ps e)) ∧
      (∀ e, (s.run.outcome c).1 = .error e → ∃ cause, s.Meets c cause ∧ e = .execution s.text ps cause) ∧
      (s.run.outcome c).2.connection.level = c.connection.level ∧
      (s.run.outcome c).2.connection.transaction = c.connection.transaction ∧
      ∀ entries mark, c.connection.queryLog = .list entries mark →
        (s.run.outcome c).2.connection.queryLog = .list (entries ++ c.notes s) mark := by
  obtain ⟨ps, given⟩ := h.exists_parameters mapped
  have yields := s.run_yields h given
  have ran := yields.after
  refine ⟨ps, (h.parameters_eq s).trans given, fun e met => ?_, fun e failed => ?_, ?_, ?_,
    ran.queryLog⟩
  · rw [yields.result, Statement.meets_iff.mp met]
    rfl
  · rw [yields.result] at failed
    cases tried : c.link.tried (c.requests s) >>= s.reading with
    | ok a =>
      rw [tried] at failed
      cases failed
    | error cause =>
      rw [tried] at failed
      exact ⟨cause, Statement.meets_iff.mpr tried, (Except.error.inj failed).symm⟩
  · rw [ran.connection]
  · rw [ran.connection]

/-- A statement that the server refuses, on a connection that logs its queries, behind a commit that has
failed since there was nothing to commit. -/
theorem Channel.Regular.statement_failures_logged :
    let f : Failure := ⟨.unavailable, "Invalid input"⟩
    let start := { Channel.facing [("run", [.failure f])] with
      connection := { Connection.new .standard with logsQueries := .bool true } }
    let caught : Activity Action.Answer := .act .commit fun _ => .finish .null
    let c := ((caught.run Action.run fun _ => .whole).outcome start).2
    let s := Statement.select (.text "MATC (n) RETURN n") (.ofPairs [(.text "name", .text "jd")])
    c.Regular ∧ s.IsMapped ∧ c.requests s = [.openDriver, .verify, .openSession, .run] ∧
      (s.run.outcome c).1 = .error (.execution s.text [("name", .text "jd")] (.failure f)) ∧
      (s.run.outcome c).2.connection.queryLog =
        .list [logEntry s.text (.ofPairs [(.text "name", .text "jd")]) noTime] none := by
  intro f start caught c s
  have fresh : start.Regular := { regular_new .standard start.server standardPattern with }
  have regular : c.Regular := fresh.run caught
  have mapped : s.IsMapped := Or.inr rfl
  obtain ⟨ps, given, fails, -, -, -, noted⟩ := statement_failures regular mapped
  have granted : ∀ j ∈ [Request.openDriver, .verify, .openSession],
      ∃ rows, c.link.reply j = .ok rows := by
    intro j member
    simp only [List.mem_cons, List.not_mem_nil, or_false] at member
    rcases member with rfl | rfl | rfl <;> exact ⟨[], rfl⟩
  have asked : c.requests s = [.openDriver, .verify, .openSession] ++ .run :: [] := rfl
  have met : s.Meets c (.failure f) := .refused asked granted rfl
  obtain rfl : [("name", Value.text "jd")] = ps := Except.ok.inj given
  exact ⟨regular, mapped, rfl, fails _ met, noted [] none rfl⟩

/-- When no driver can be opened, the cause is that the server is out of reach, and not the failure of
opening it. -/
theorem Channel.Regular.statement_failures_unreachable :
    let f : Failure := ⟨.runtime, "refused"⟩
    let c := Channel.facing [("open", [.failure f])]
    let s := Statement.change (.text "CREATE (n:User)") .null
    c.Regular ∧ s.IsMapped ∧ c.link.reply .openDriver = .error (.failure f) ∧
      (s.run.outcome c).1 =
        .error (.execution s.text [] (.unreachable (.text "bolt://localhost:7687") (.failure f))) ∧
      (s.run.outcome c).1 ≠ .error (.execution s.text [] (.failure f)) := by
  intro f c s
  have comes : (s.run.outcome c).1 =
      .error (.execution s.text [] (.unreachable (.text "bolt://localhost:7687") (.failure f))) := rfl
  refine ⟨regular_new .., Or.inl rfl, rfl, comes, fun other => ?_⟩
  cases comes.symm.trans other

end GraphQuery
