import GraphQuery.Session.Engine
import GraphQuery.Session.Parameters

/-! # Connections

A `Connection` runs statements in a session. It counts nested transactions, can pretend to run
statements, and keeps a log of them.

`Channel` is a connection together with its engine and the server. `Channel.session` opens the
session on first use, `Channel.run` runs a statement, logs it and wraps its failure. -/

namespace GraphQuery

/-- An entry of the query log: a statement, the bindings it was given, and how long it took. -/
def logEntry (statement bindings elapsed : Value) : Value :=
  .ofProperties [("query", statement), ("bindings", bindings), ("time", elapsed)]

/-- The time that a statement takes. There is no clock here, and so it takes none. -/
def noTime : Value := .double (Number.Double.ofIntRatio 0 1)

/-- What statements run on. -/
inductive Client where
  | on (runner : Runner)
  /-- something that was given for a session or a transaction and is none -/
  | foreign (v : Value)

namespace Client

/-- What a value is as a client; null is none. -/
def ofValue : Value → Option Client
  | .null => none
  | .handle "Session" => some (.on (.session 0))
  | .handle "Transaction" => some (.on (.transaction 0))
  | v => some (.foreign v)

/-- A client as a value. -/
def value : Client → Value
  | .on (.session _) => .handle "Session"
  | .on (.transaction _) => .handle "Transaction"
  | .foreign v => v

/-- A client that cannot do what is asked of it. -/
def refuses {α : Type} (c : Client) (action : String) : Result α :=
  .error (.noAttribute c.value action)

/-- What a client runs statements on. -/
def runner : Client → Result Runner
  | .on r => .ok r
  | c => c.refuses "run"

/-- The session that a client is, for an action that only a session has. -/
def session (action : String) : Client → Result Nat
  | .on (.session s) => .ok s
  | c => c.refuses action

/-- The transaction that a client is, for an action that only a transaction has. -/
def transaction (action : String) : Client → Result Nat
  | .on (.transaction t) => .ok t
  | c => c.refuses action

end Client

/-- A connection. `level` counts the transactions that have been begun and not ended; `reconnector`
is the callback that brings a lost connection back. The level is a count, the query log is a list, and
whether the connection pretends or logs are truth values, unless a caller has put something else in
their places. What has been put in the places of its settings, its engine or its grammar is in
`instead`, by the name of the place. -/
structure Connection where
  config : ConnectionConfig
  client : Option Client
  transaction : Option Client
  level : Value
  isPretending : Value
  logsQueries : Value
  queryLog : Value
  reconnector : Option Value
  instead : Properties

/-- A connection that has not run anything. -/
def Connection.new (config : ConnectionConfig) : Connection :=
  ⟨config, none, none, .int 0, .bool false, .bool false, .ofList [], none, []⟩

/-- Refuses what has been put in a place of a connection and cannot do what is asked of it. -/
def Connection.ask (c : Connection) (place action : String) : Result Unit :=
  (lookup? place c.instead).forM fun v => .error (.noAttribute v action)

/-- The name of the driver that connections use. -/
def driverName : String := "neo4j"

/-- A connection with its engine and the server. Dates are sent under the pattern; without one they
cannot be sent. -/
structure Channel where
  connection : Connection
  engine : Engine
  server : Server
  datePattern : Option String

namespace Channel

/-- The engine of a channel, with the server. -/
def stationPart : Focus Channel Station :=
  ⟨fun c => ⟨c.engine, c.server⟩, fun s c => { c with engine := s.engine, server := s.server }⟩

/-- A step of the engine. -/
def onStation {α : Type} (step : Exec Station α) : Exec Channel α := step.within stationPart

/-- A step of the server. -/
def ask {α : Type} (step : Exec Server α) : Exec Channel α := onStation (Station.ask step)

/-- Changes the connection. -/
def change (f : Connection → Connection) : Exec Channel Unit :=
  modify fun c => { c with connection := f c.connection }

/-- What statements run on: a session, opened on first use. -/
def client : Exec Channel Client := do
  let c := (← get).connection
  match c.client with
  | some client => return client
  | none =>
    Exec.ofResult (c.ask "engine" "connect")
    onStation Station.connect
    Exec.ofResult (c.ask "config" "database")
    let s ← onStation (Station.openSession (.text c.config.database))
    change fun c => { c with client := some (.on (.session s)) }
    return .on (.session s)

/-- The session that an action needs. -/
def sessionFor (action : String) : Exec Channel Nat := do
  Exec.ofResult ((← client).session action)

/-- Lets go of the session and of a transaction. The next statement opens another session. -/
def letGo : Exec Channel Unit :=
  change fun c => { c with client := none, transaction := none, level := .int 0 }

/-- Lets go of the session and closes it. What stands for one is closed if that is a driver. -/
def disconnect : Exec Channel Unit := do
  let c := (← get).connection
  letGo
  match c.client with
  | some (.foreign (.handle "Driver")) => ask (Server.closeDriver 0)
  | some client => ask (Server.closeSession (← Exec.ofResult (client.session "close")))
  | none => pure ()

/-! ### Single statements -/

/-- Runs a statement on a client. -/
def runOn (c : Client) (text : Value) (parameters : Properties) : Exec Channel (List Row) := do
  ask (Server.run (← Exec.ofResult c.runner) text parameters)

/-- Runs a read in the open transaction, or in the session. -/
def read (text : Value) (parameters : Properties) : Exec Channel (List Row) := do
  match (← get).connection.transaction with
  | some t => runOn t text parameters
  | none => runOn (← client) text parameters

/-- Runs a write in the open transaction, or in one of its own. -/
def write (text : Value) (parameters : Properties) : Exec Channel (List Row) := do
  match (← get).connection.transaction with
  | some t => runOn t text parameters
  | none => do
    let s ← sessionFor "execute_write"
    ask (Server.executeWrite s text parameters)

/-- Notes a statement in the query log, if there is one. -/
def logQuery (statement bindings elapsed : Value) : Exec Channel Unit := do
  let c := (← get).connection
  if c.logsQueries.isTruthy then
    match c.queryLog with
    | .list entries mark =>
      let entry := logEntry statement (if bindings.isTruthy then bindings else .ofPairs []) elapsed
      change fun c => { c with queryLog := .list (entries ++ [entry]) mark }
    | log => Exec.fail (.noAttribute log "append")

/-- Bindings as the parameters that are sent. -/
def prepared (bindings : Value) : Exec Channel Properties := do
  if needsGrammar bindings then
    Exec.ofResult ((← get).connection.ask "query_grammar" "date_format")
  Exec.ofResult (parametersUnder (← get).datePattern bindings)

/-- Gives a failure the statement it belongs to, with its parameters. -/
def wrapFailure {α : Type} (statement bindings : Value) (step : Exec Channel α) :
    Exec Channel α := do
  match ← step.attempt with
  | .ok a => return a
  | .error cause =>
    let parameters ← prepared bindings
    Exec.fail (.execution statement parameters cause)

/-- Runs a statement: with `pretended` for its result while the connection pretends, otherwise by
the given step. It is logged in any case. -/
def run {α : Type} (statement bindings : Value) (pretended : α)
    (step : Exec Channel α) : Exec Channel α :=
  (wrapFailure statement bindings (do
    if (← get).connection.isPretending.isTruthy then return pretended
    step)).ensuring (logQuery statement bindings noTime)

/-- A row as a value. -/
def rowValue (row : Row) : Value := .ofPairs row

/-- Runs a statement that reads, and gives its rows. -/
def select (statement bindings : Value) : Exec Channel (List Row) :=
  run statement bindings [] do
    read statement (← prepared bindings)

/-- Runs a statement that reads, and gives its first row. -/
def selectOne (statement bindings : Value) : Exec Channel Value := do
  return ((← select statement bindings).head?.map rowValue).getD .null

/-- Runs a statement that creates, and gives its rows. -/
def insert (statement bindings : Value) : Exec Channel (List Row) :=
  run statement bindings [] do
    write statement (← prepared bindings)

/-- Runs a statement that writes. -/
def statement (statement bindings : Value) : Exec Channel Unit :=
  run statement bindings () do
    discard (write statement (← prepared bindings))

/-- The number of nodes that a write touched: what its first row says, or the number of rows. -/
def affectedCount (rows : List Row) : Result Int :=
  match rows.head?.bind fun row => entryAt? (.text "affected") row with
  | some v => Result.ofFailure v.countOrZero
  | none => .ok rows.length

/-- Runs a statement that writes, and gives the number of nodes it touched. -/
def affecting (statement bindings : Value) : Exec Channel Int :=
  run statement bindings 0 do
    let rows ← write statement (← prepared bindings)
    Exec.ofResult (affectedCount rows)

/-- Runs a statement without any parameters. -/
def unprepared (statement : Value) : Exec Channel Unit :=
  run statement .null () (discard (write statement []))

end Channel

end GraphQuery
