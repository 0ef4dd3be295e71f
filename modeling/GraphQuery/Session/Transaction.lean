import GraphQuery.Session.Connection

/-! # Transactions, pretending and reconnecting

* `Channel.begin`, `commit` and `rollback` keep count of nested transactions; only the outermost one
  reaches the server, and a rollback ends all of them.
* `transaction` runs a callback inside a transaction, and `pretend` without touching the server.

These callbacks are steps on a state that has the channel as a part. -/

namespace GraphQuery

namespace Channel

/-- Gives the failure of a transaction step the name of that step. -/
def wrapStep {α : Type} (name : String) (step : Exec Channel α) : Exec Channel α := do
  match ← step.attempt with
  | .ok a => return a
  | .error cause => Exec.fail (.execution (.text name) [] cause)

/-- A log entry about a transaction. -/
def logStep (message : String) : Exec Channel Unit := ask (Server.log .debug message)

/-- Counts transactions up or down. What stands for the count has to be a number. -/
def count (step : Int) : Exec Channel Unit := do
  let level ← Exec.ofResult (Result.ofFailure ((← get).connection.level.plus step))
  change fun c => { c with level }

/-- Whether no transaction is counted. -/
def isOutside (c : Connection) : Bool := c.level.same (.int 0)

/-- Whether more transactions are counted than this. -/
def isDeeper (depth : Int) (c : Connection) : Bool :=
  c.level.numeral?.any fun n => Value.Numeral.isAtMost (.exact depth) n && !n.isAtMost (.exact depth)

/-- Begins a transaction on the server. -/
def openTransaction : Exec Channel (Option Client) := do
  let s ← sessionFor "begin_transaction"
  return some (.on (.transaction (← ask (Server.begin s))))

/-- Counts one more transaction, and tells whether it is the outermost one. -/
def enter : Exec Channel Bool := do
  count 1
  return !isDeeper 1 (← get).connection

/-- Takes over the transaction that was opened; if that has failed it is not counted. -/
def takeOver (opened : Result (Option Client)) : Exec Channel Unit := do
  match opened with
  | .ok transaction =>
    change fun c => { c with transaction }
    logStep "Transaction started"
  | .error cause =>
    count (-1)
    Exec.fail (.execution (.text "BEGIN") [] cause)

/-- Begins a transaction; one inside another is only counted. -/
def begin : Exec Channel Unit := do
  if ← enter then takeOver (← openTransaction.attempt)

/-- Gives the transaction up and tells which one it was. -/
def releaseTransaction : Exec Channel (Option Client) := do
  let t := (← get).connection.transaction
  change fun c => { c with transaction := none }
  return t

/-- Ends a transaction. The outermost one is committed; without any this is a mistake. -/
def commit : Exec Channel Unit := do
  if isOutside (← get).connection then Exec.fail .nothingToCommit
  count (-1)
  if isDeeper 0 (← get).connection then pure ()
  else
    match ← releaseTransaction with
    | none => pure ()
    | some t =>
      wrapStep "COMMIT" do ask (Server.commit (← Exec.ofResult (t.transaction "commit")))
      logStep "Transaction committed"

/-- Rolls back, however deep the transactions are nested. -/
def rollback : Exec Channel Unit := do
  if isOutside (← get).connection then pure ()
  else
    let t ← releaseTransaction
    change fun c => { c with level := .int 0 }
    match t with
    | none => pure ()
    | some t =>
      wrapStep "ROLLBACK" do ask (Server.rollback (← Exec.ofResult (t.transaction "rollback")))
      logStep "Transaction rolled back"

/-- Starts to pretend, with an empty log, and tells whether queries were logged before. -/
def startPretending : Exec Channel Value := do
  let before := (← get).connection.logsQueries
  change fun c =>
    { c with logsQueries := .bool true, isPretending := .bool true, queryLog := .ofList [] }
  return before

/-- Stops pretending. -/
def stopPretending (logged : Value) : Exec Channel Unit :=
  change fun c => { c with isPretending := .bool false, logsQueries := logged }

end Channel

variable {σ α : Type}

/-- Runs a callback inside a transaction, which `start` begins: it is committed if the callback
succeeds, and rolled back if the callback or the commit fails. -/
def transactionFrom (start : Exec σ Unit) (channel : Focus σ Channel) (body : Exec σ α) :
    Exec σ α := do
  start
  let done ← (do
    let a ← body
    Channel.commit.within channel
    return a : Exec σ α).attempt
  match done with
  | .ok a => return a
  | .error e =>
    Channel.rollback.within channel
    Exec.fail e

/-- Runs a callback inside a transaction. -/
def transaction (channel : Focus σ Channel) (body : Exec σ α) : Exec σ α :=
  transactionFrom (Channel.begin.within channel) channel body

/-- Runs a callback without touching the server, and gives the statements it would have run. -/
def pretend (channel : Focus σ Channel) (body : Exec σ α) : Exec σ Value := do
  let logged ← Channel.startPretending.within channel
  let _ ← body.ensuring ((Channel.stopPretending logged).within channel)
  return (channel.get (← get)).connection.queryLog

/-- Brings a lost connection back by the callback that was set for it. -/
def reconnect (channel : Focus σ Channel) (callback : Value → Exec σ α) : Exec σ α := do
  match (channel.get (← get)).connection.reconnector with
  | some v => callback v
  | none => Exec.fail .noReconnector

end GraphQuery
