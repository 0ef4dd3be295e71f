import GraphQuery.Session.Config
import GraphQuery.Session.Server
import GraphQuery.Value.Equality

/-! # Engines

An `Engine` owns the driver for one server: it opens it on demand, checks that the server answers,
and hands out sessions. `Station` is an engine together with the server it talks to. -/

namespace GraphQuery

/-- What sessions are opened with. -/
inductive DriverRef where
  | opened (number : Nat)
  /-- something that was put in the place of a driver -/
  | foreign (v : Value)

namespace DriverRef

/-- What a value is as a driver; null is none. -/
def ofValue : Value → Option DriverRef
  | .null => none
  | .handle "Driver" => some (.opened 0)
  | v => some (.foreign v)

/-- A driver as a value. -/
def value : DriverRef → Value
  | .opened _ => .handle "Driver"
  | .foreign v => v

/-- The number of a driver; anything else cannot do what is asked of it. -/
def need (action : String) : DriverRef → Result Nat
  | .opened n => .ok n
  | .foreign v => .error (.noAttribute v action)

end DriverRef

/-- An engine: the address of a server, how to open a driver for it, and the driver it has. Whether it
is connected is a truth value, unless a caller has put something else there. `waiting` counts the
attempts to connect that nobody waits for any more and that have not had their turn. -/
structure Engine where
  uri : Value
  auth : Value
  database : Value
  driverConfig : Row
  driver : Option DriverRef
  isConnected : Value
  waiting : Nat

/-- What a driver is opened with unless something else is asked for. -/
def driverDefaults : Row :=
  [(.text "max_connection_lifetime", .int 2592000), (.text "keep_alive", .bool true),
    (.text "user_agent", .text "neoquery/0.1.0")]

namespace Engine

/-- An engine that has not been opened. -/
def new (uri auth database : Value) (driverConfig : Row) : Engine :=
  ⟨uri, auth, database, ofEntries (driverDefaults ++ driverConfig), none, .bool false, 0⟩

/-- The engine for the settings of a connection. -/
def ofConfig (c : ConnectionConfig) : Engine := 
  new (.text c.uri) c.auth (.text c.database) (c.driverConfig.map fun p => (.text p.1, p.2))

/-- The driver, once the engine is connected. -/
def driver? (e : Engine) : Result DriverRef :=
  match e.driver, e.isConnected.isTruthy with
  | some d, true => .ok d
  | _, _ => .error (.notConnected e.uri)

/-- What can be read of an engine by name, the driver apart. -/
def attributes (e : Engine) : Properties :=
  [("uri", e.uri), ("auth", e.auth), ("default_database", e.database),
    ("driver_config", .ofPairs e.driverConfig), ("connected", e.isConnected)]

/-- The settings of a driver by name; a name that is no text is refused. -/
def driverSettings (e : Engine) : Result Properties :=
  e.driverConfig.mapM fun p => match p.1 with
    | .text name => .ok (name, p.2)
    | _ => .error (.wrongType "keywords must be strings")

end Engine

/-- An engine with the server it talks to. -/
structure Station where
  engine : Engine
  server : Server

namespace Station

/-- The server of a station. -/
def serverPart : Focus Station Server := ⟨(·.server), fun s t => { t with server := s }⟩

/-- A step of the server. -/
def ask {α : Type} (step : Exec Server α) : Exec Station α := step.within serverPart

/-- Notes a log entry. -/
def log (level : LogLevel) (message : String) : Exec Station Unit := ask (Server.log level message)

/-- Opens a driver. -/
def openDriver : Exec Station Nat := do
  let e := (← get).engine
  let settings ← Exec.ofResult e.driverSettings
  ask (Server.openDriver e.uri e.auth settings)

/-- What an attempt to connect comes to. -/
inductive Turn where
  /-- the engine is connected -/
  | connected
  /-- no driver could be opened -/
  | refused (e : Error)
  /-- the server did not answer the driver -/
  | unanswered (e : Error)

/-- Gives up an attempt to connect. -/
def giveUp (cause : Error) : Exec Station Error := do
  modify fun s => { s with engine := { s.engine with driver := none } }
  let uri := (← get).engine.uri
  log .error ("Connection to " ++ uri.plainText ++ " failed: " ++ cause.text)
  return .unreachable uri cause

/-- Whether a driver has to be opened; an attempt to do so is noted. -/
def startTurn : Exec Station Bool := do
  let e := (← get).engine
  if e.isConnected.isTruthy then return false
  log .info ("Connecting to " ++ e.uri.plainText ++ " (database '" ++ e.database.plainText ++ "')")
  return true

/-- Checks that the server answers a new driver, and takes it then. -/
def checkDriver (d : Nat) : Exec Station Turn := do
  match ← (ask (Server.verify d)).attempt with
  | .error cause => return .unanswered (← giveUp cause)
  | .ok _ =>
    modify fun s => { s with engine := { s.engine with driver := some (.opened d), isConnected := .bool true } }
    log .info ("Connected to " ++ (← get).engine.uri.plainText)
    return .connected

/-- Opens the driver and checks that the server answers it, unless that has been done. -/
def takeTurn : Exec Station Turn := do
  if ← startTurn then
    match ← openDriver.attempt with
    | .error cause => return .refused (← giveUp cause)
    | .ok d => checkDriver d
  else return .connected

/-- Gives some attempts to connect their turns. What they come to is not asked for. -/
def takeTurns : Nat → Exec Station Unit
  | 0 => pure ()
  | n + 1 => do
    discard takeTurn
    takeTurns n

/-- Gives the attempts to connect that are waiting their turns. -/
def settleWaiting : Exec Station Unit := do
  let waiting := (← get).engine.waiting
  modify fun s => { s with engine := { s.engine with waiting := 0 } }
  takeTurns waiting

/-- Opens the driver, unless that has been done. -/
def connect : Exec Station Unit := do
  settleWaiting
  match ← takeTurn with
  | .connected => pure ()
  | .refused e | .unanswered e => Exec.fail e

/-- Gives attempts to connect their turns until a failure has become known, and tells how many of them
are left, with the first failure. A failure is not known before an attempt has waited for the server;
the one after it has had its turn by then, and one more if that one was refused at once. -/
def takeTurnsTogether : (left : Nat) → (first : Option Error) → (more : Option Nat) →
    Exec Station (Nat × Option Error)
  | 0, first, _ => return (0, first)
  | left + 1, first, some 0 => return (left + 1, first)
  | left + 1, first, more => do
    match ← takeTurn with
    | .connected => return (0, first)
    | .refused e => takeTurnsTogether left (some (first.getD e)) (more.map (· - 1))
    | .unanswered e =>
      match first with
      | none => takeTurnsTogether left (some e) (some 2)
      | some first => return (left, some first)

/-- Several attempts to connect at once. Those that are left when one has failed go on waiting. -/
def connectAll (count : Nat) : Exec Station Unit := do
  settleWaiting
  let (left, first) ← takeTurnsTogether count none none
  modify fun s => { s with engine := { s.engine with waiting := left } }
  match first with
  | none => pure ()
  | some e => Exec.fail e

/-- Closes a driver, or a session that stands for one. -/
def closeDriver : DriverRef → Exec Station Unit
  | .foreign (.handle "Session") => ask (Server.closeSession 0)
  | d => do ask (Server.closeDriver (← Exec.ofResult (d.need "close")))

/-- Lets go of the driver, and gives it if there was one. -/
def releaseDriver : Exec Station (Option DriverRef) := do
  let e := (← get).engine
  set { (← get) with engine := { e with driver := none, isConnected := .bool false } }
  match e.driver with
  | none => return none
  | some d =>
    if e.isConnected.isTruthy then log .info ("Closing connection to " ++ e.uri.plainText)
    else log .warning ("Closing driver for " ++ e.uri.plainText ++ " that never finished connecting")
    return some d

/-- Closes the driver, if there is one. -/
def close : Exec Station Unit := do
  settleWaiting
  match ← releaseDriver with
  | none => pure ()
  | some d => closeDriver d

/-- A new session, on the database of the engine unless another one is named. -/
def openSession (database : Value) : Exec Station Nat := do
  let e := (← get).engine
  let d ← Exec.ofResult (e.driver?.bind (DriverRef.need "session"))
  ask (Server.openSession d (if database.isTruthy then database else e.database))

end Station

/-- Runs a step with the engine connected, and closes the engine afterwards. -/
def withEngine {σ α : Type} (station : Focus σ Station) (body : Exec σ α) : Exec σ α := do
  Station.connect.within station
  body.ensuring (Station.close.within station)

end GraphQuery
