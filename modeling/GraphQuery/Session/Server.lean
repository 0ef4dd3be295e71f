import GraphQuery.Exec

/-! # The server

A `Server` is what is on the other side: it answers each kind of request from a script, and what it
does not have in the script it answers with success and no rows. It keeps the `Event`s that reached
it, together with what was logged.

Drivers, sessions and transactions are known by numbers, in the order in which they were handed
out. -/

namespace GraphQuery

/-- The kinds of requests. -/
inductive Request where
  | openDriver
  | verify
  | openSession
  | closeDriver
  | run
  | executeWrite
  | begin
  | commit
  | rollback
  | closeSession
deriving DecidableEq, Repr

/-- The name of a kind of request in scripts. -/
def Request.name : Request → String
  | openDriver => "open"
  | verify => "verify"
  | openSession => "session"
  | closeDriver => "driver_close"
  | run => "run"
  | executeWrite => "execute_write"
  | begin => "begin"
  | commit => "commit"
  | rollback => "rollback"
  | closeSession => "close"

/-- What a server answers: rows, or a failure. -/
inductive Response where
  | rows (rows : List Row)
  | failure (f : Failure)

/-- Where a statement runs. -/
inductive Runner where
  | session (number : Nat)
  | transaction (number : Nat)
deriving DecidableEq, Repr

/-- How important a log entry is. -/
inductive LogLevel where
  | debug
  | info
  | warning
  | error
deriving DecidableEq, Repr

/-- The name of a level. -/
def LogLevel.name : LogLevel → String
  | debug => "DEBUG"
  | info => "INFO"
  | warning => "WARNING"
  | error => "ERROR"

/-- What reached the server or the log. -/
inductive Event where
  | driverOpened (driver : Nat) (uri auth : Value) (config : Properties)
  | verified (driver : Nat)
  | sessionOpened (driver session : Nat) (database : Value)
  | driverClosed (driver : Nat)
  | statementRun (runner : Runner) (text : Value) (parameters : Properties)
  | writeExecuted (session : Nat)
  | transactionBegun (session : Nat)
  | committed (transaction : Nat)
  | rolledBack (transaction : Nat)
  | sessionClosed (session : Nat)
  | logged (level : LogLevel) (message : String)
deriving Repr

/-- The server with what is left of its script. -/
structure Server where
  script : List (String × List Response)
  events : List Event
  drivers : Nat
  sessions : Nat
  transactions : Nat

namespace Server

/-- A server without a script that nothing has reached yet. -/
def idle : Server := ⟨[], [], 0, 0, 0⟩

/-- Adds responses at the end of the queue of a kind. -/
def extend (s : Server) (kind : String) (responses : List Response) : Server :=
  { s with script := put kind ((lookup? kind s.script).getD [] ++ responses) s.script }

/-- Notes an event. -/
def note (e : Event) : Exec Server Unit := modify fun s => { s with events := s.events ++ [e] }

/-- Notes a log entry. -/
def log (level : LogLevel) (message : String) : Exec Server Unit := note (.logged level message)

/-- The next answer to a kind of request. -/
def answer (kind : Request) : Exec Server (List Row) := Exec.ofOutcome fun s =>
  match lookup? kind.name s.script with
  | some (response :: rest) =>
    let s := { s with script := put kind.name rest s.script }
    match response with
    | .rows rows => (.ok rows, s)
    | .failure f => (.error (.failure f), s)
  | _ => (.ok [], s)

/-- Notes an event, and then answers. -/
def request (kind : Request) (e : Event) : Exec Server (List Row) := do
  note e
  answer kind

/-- Hands out a driver. -/
def openDriver (uri auth : Value) (config : Properties) : Exec Server Nat := do
  let number := (← get).drivers
  let _ ← request .openDriver (.driverOpened number uri auth config)
  modify fun s => { s with drivers := number + 1 }
  return number

/-- Checks that the server answers a driver. -/
def verify (driver : Nat) : Exec Server Unit := discard (request .verify (.verified driver))

/-- Closes a driver. -/
def closeDriver (driver : Nat) : Exec Server Unit :=
  discard (request .closeDriver (.driverClosed driver))

/-- Hands out a session. -/
def openSession (driver : Nat) (database : Value) : Exec Server Nat := do
  let number := (← get).sessions
  let _ ← request .openSession (.sessionOpened driver number database)
  modify fun s => { s with sessions := number + 1 }
  return number

/-- Closes a session. -/
def closeSession (session : Nat) : Exec Server Unit :=
  discard (request .closeSession (.sessionClosed session))

/-- Runs a statement. -/
def run (runner : Runner) (text : Value) (parameters : Properties) : Exec Server (List Row) :=
  request .run (.statementRun runner text parameters)

/-- A number for a new transaction. -/
def newTransaction : Exec Server Nat := do
  let number := (← get).transactions
  modify fun s => { s with transactions := number + 1 }
  return number

/-- Runs a statement in a transaction that lasts as long as the statement. -/
def executeWrite (session : Nat) (text : Value) (parameters : Properties) :
    Exec Server (List Row) := do
  let _ ← request .executeWrite (.writeExecuted session)
  let transaction ← newTransaction
  run (.transaction transaction) text parameters

/-- Begins a transaction. -/
def begin (session : Nat) : Exec Server Nat := do
  let _ ← request .begin (.transactionBegun session)
  newTransaction

/-- Commits a transaction. -/
def commit (transaction : Nat) : Exec Server Unit :=
  discard (request .commit (.committed transaction))

/-- Rolls a transaction back. -/
def rollback (transaction : Nat) : Exec Server Unit :=
  discard (request .rollback (.rolledBack transaction))

end Server

end GraphQuery
