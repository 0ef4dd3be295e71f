import GraphQuery.Command.Attribute

/-! # Commands on connections and engines

`connection?` and `engine?` give the command that a name stands for, except for those that run a
callback. -/

namespace GraphQuery.Command

/-- The query log as pairs of statements and bindings. -/
def logPairs (log : Value) : Result Value := do
  let entries ← Result.ofFailure log.members
  return .ofList (← entries.mapM fun e => do
    return .ofList [← Result.ofFailure (e.item (.text "query")),
      ← Result.ofFailure (e.item (.text "bindings"))])

/-- A command that runs a statement on a connection. -/
def runs (step : (statement bindings : Value) → Exec Channel Reply) :
    Option (Operation (Exec Channel Reply)) :=
  some (takes ["query", "bindings"] 1 fun f => step (f.value 0) (f.value 1))

/-- The command on a connection that runs a statement. -/
def running? : String → Option (Operation (Exec Channel Reply))
  | "select" => runs fun text bindings => do return .rows (← Channel.select text bindings)
  | "select_one" => runs fun text bindings => do return .value (← Channel.selectOne text bindings)
  | "insert" => runs fun text bindings => do return .rows (← Channel.insert text bindings)
  | "update" | "delete" | "affecting_statement" => runs fun text bindings => do
    return .count (← Channel.affecting text bindings)
  | "statement" => some (takes ["query", "bindings", "raw_results"] 1 fun f => do
    if f.isTrue 2 false then return .rows (← Channel.insert (f.value 0) (f.value 1))
    Channel.statement (f.value 0) (f.value 1)
    return .truth true)
  | "unprepared" => some (takes ["query"] 1 fun f => do
    Channel.unprepared (f.value 0)
    return .truth true)
  | _ => none

/-- A command without parameters that changes a connection. -/
def changes (step : Exec Channel Unit) : Option (Operation (Exec Channel Reply)) :=
  some (takesNothing do
    step
    return .nothing)

/-- The command on a connection that keeps the session, the transaction or the log. -/
def keeping? : String → Option (Operation (Exec Channel Reply))
  | "get_client" => some (takesNothing do return .value (← Channel.client).value)
  | "set_client" => some (takes ["client"] 1 fun f => do
    Channel.change fun c => { c with client := Client.ofValue (f.value 0) }
    return .itself)
  | "set_reconnector" => some (takes ["reconnector"] 1 fun f => do
    let v := f.value 0
    Channel.change fun c => { c with reconnector := if v.isNull then none else some v }
    return .itself)
  | "commit" => changes Channel.commit
  | "rollback" => changes Channel.rollback
  | "log_query" => some (takes ["query", "bindings", "elapsed"] 1 fun f => do
    Channel.logQuery (f.value 0) (f.value 1) (f.value 2)
    return .nothing)
  | "enable_query_log" => changes (Channel.change fun c => { c with logsQueries := .bool true })
  | "disable_query_log" => changes (Channel.change fun c => { c with logsQueries := .bool false })
  | "flush_query_log" => changes (Channel.change fun c => { c with queryLog := .ofList [] })
  | _ => none

/-- A command without parameters that looks at a connection. -/
def shows (look : Connection → Reply) : Option (Operation (Exec Channel Reply)) :=
  some (takesNothing do return look (← get).connection)

/-- The command on a connection that looks at it, or at what it would send. -/
def showing? : String → Option (Operation (Exec Channel Reply))
  | "transaction_level" => shows fun c => .value c.level
  | "pretending" => shows fun c => .value c.isPretending
  | "logging_queries" => shows fun c => .value c.logsQueries
  | "get_driver_name" => shows fun _ => .text driverName
  | "get_query_log" => shows fun c => .value c.queryLog
  | "prepare_bindings" => some (takes ["bindings"] 1 fun f => do
    return .named (← Channel.prepared (f.value 0)))
  | "is_binding" => some (takes ["binding"] 1 fun f => return .truth (isNamedBindings (f.value 0)))
  | "get_cypher_query" => some (takes ["statement", "bindings"] 1 fun f => do
    return .value (statementPair (f.value 0) (← Channel.prepared (f.value 1))))
  | _ => none

/-- The commands on settings. -/
def configCommands : List String := "from_mapping" :: "normalize_scheme" :: modelCommands

/-- The settings that a command on a connection gives. -/
def settingNames : List (String × String) :=
  [("get_scheme", "scheme"), ("get_host", "host"), ("get_port", "port"),
    ("get_username", "username"), ("get_password", "password"), ("get_name", "name"),
    ("get_database", "database")]

/-- What a connection has for its settings. -/
def settings (n : Nat) : Exec Workspace Value := do
  match ← objectAttribute? (.connection n) "config" with
  | some v => return v
  | none => return .null

/-- A setting of a connection. -/
def setting (n : Nat) (name : String) : Exec Workspace Value := do
  let v ← settings n
  let command := if v matches .object ⟨.config _, _, _, _, _⟩ then
    if name ∈ configCommands then some "method" else none else none
  read v name command

/-- The command on a connection that starts a builder or a transaction, or gives what belongs to it. -/
def starting? (n : Nat) : String → Option (Operation Step)
  | "table" => some (takes ["labels"] 1 fun f => do
    gives (.builder (← Workspace.addTargeting n (f.value 0))))
  | "query" => some (takesNothing do
    gives (.builder (← Workspace.addBuilder Query.empty (some n))))
  | "begin_transaction" => some (takesNothing do
    Workspace.begin n
    return .nothing)
  | "disconnect" => some (takesNothing do
    Workspace.disconnect n
    return .nothing)
  | "get_query_grammar" => some (takesNothing do
    return .value ((← objectAttribute? (.connection n) "query_grammar").getD .null))
  | "get_config" => some (takes ["option"] 0 fun f => do
    match f.value 0 with
    | .null =>
      match ← settings n with
      | .object ⟨.config c, _, _, _, _⟩ => do
        let fields := ((← get).config c).fields
        answer do return .named (← plainProperties fields)
      | v => Exec.ofResult (lacks v "model_dump")
    | .text name => do
      match ← (setting n name).attempt with
      | .ok v => return .value v
      | .error _ => return .nothing
    | _ => Exec.fail (.wrongType "attribute name must be string"))
  | name => (lookup? name settingNames).map fun name => takesNothing do return .value (← setting n name)

/-- The command on a connection with a number that a name stands for. -/
def connection? (n : Nat) (name : String) : Option (Operation Step) :=
  match (running? name).or ((keeping? name).or (showing? name)) with
  | some run => some fun a => (run a).map fun step => step.within (Workspace.channelPart n)
  | none => starting? n name

/-- Takes in a connection with settings, an engine and a grammar; the last two are its own unless they
are given. -/
def startConnection (config : Nat) (engine grammar : Value) : Exec Workspace Nat := do
  let n ← Workspace.addConnection config
  [("engine", engine), ("query_grammar", grammar)].forM fun p => do
    if p.2.isTruthy then assignConnection n p.1 p.2
  return n

/-- Takes in a builder with what it is given for a connection, a grammar and bindings. Its grammar is
that of the connection unless one is given. -/
def startBuilder (connection grammar bindings : Value) : Exec Workspace Nat := do
  let number? := match connection with
    | .object ⟨.connection n, _, _, _, _⟩ => some n
    | _ => none
  if number?.isNone && !connection.isNull && grammar.isNull then
    Exec.ofResult (lacks connection "get_query_grammar")
  let n ← Workspace.addBuilder Query.empty number?
  [("connection", connection), ("grammar", grammar), ("bindings", bindings)].forM fun p => do
    if !p.2.isNull then assignBuilder n p.1 p.2
  return n

/-- Takes in an engine for settings. -/
def engineOfConfig (settings : Value) : Step := do
  match settings with
  | .object ⟨.config n, _, _, _, _⟩ =>
    gives (.engine (← Workspace.addEngine (Engine.ofConfig ((← get).config n))))
  | v => Exec.fail (.noAttribute v "uri")

/-- The command on an engine with a number that a name stands for. -/
def engine? (n : Nat) (name : String) : Option (Operation Step) :=
  if name = "from_config" then some (takes ["config"] 1 fun f => engineOfConfig (f.value 0))
  else (run? name).map fun run a => (run a).map fun step => step.within (Workspace.stationPart n)
where
  run? : String → Option (Operation (Exec Station Reply))
    | "connect" => some (takesNothing do
      Station.connect
      return .nothing)
    | "close" => some (takesNothing do
      Station.close
      return .nothing)
    | "get_session" => some (takes ["database"] 0 fun f => do
      discard (Station.openSession (f.value 0))
      return .value (.handle "Session"))
    | _ => none

end GraphQuery.Command
