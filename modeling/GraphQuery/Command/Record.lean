import GraphQuery.Command.Arguments
import GraphQuery.Command.Collection
import GraphQuery.Command.Model

/-! # Commands on records and on what the server has handed out

* `handout?` gives the command on a driver, a session or a transaction that a name stands for.
* `value?` gives the command on a record, an edge or an entity, and `class?` the one on an entity
  class. -/

namespace GraphQuery.Command

open GraphQuery.Schema

/-- The server of a workspace, as a part. -/
def serverPart : Focus Workspace Server := ⟨(·.server), fun s w => { w with server := s }⟩

/-- A command without parameters that asks the server for something. -/
def asks (request : Exec Server Unit) (result : Value) : Option (Operation Step) :=
  some (takesNothing do
    request.within serverPart
    return .value result)

/-- A command that runs a statement. -/
def runsOn (runner : Runner) : Option (Operation Step) :=
  some (takes ["query", "parameters"] 1 fun f => do
    let parameters := textEntries ((f.value 1).entries?.getD [])
    discard ((Server.run runner (f.value 0) parameters).within serverPart)
    return .value (.handle "Result"))

/-- The command on something handed out by the server, by its kind, that a name stands for. -/
def handout? (kind name : String) : Option (Operation Step) :=
  match kind, name with
  | "Session", "run" => runsOn (.session 0)
  | "Session", "begin_transaction" => asks (discard (Server.begin 0)) (.handle "Transaction")
  | "Session", "close" => asks (Server.closeSession 0) .null
  | "Transaction", "run" => runsOn (.transaction 0)
  | "Transaction", "commit" => asks (Server.commit 0) .null
  | "Transaction", "rollback" => asks (Server.rollback 0) .null
  | "Driver", "verify_connectivity" => asks (Server.verify 0) .null
  | "Driver", "session" => some (takes ["database"] 0 fun f => do
    discard ((Server.openSession 0 (f.value 0)).within serverPart)
    return .value (.handle "Session"))
  | "Driver", "close" => asks (Server.closeDriver 0) .null
  | _, _ => none

end GraphQuery.Command

/-! ### Commands on records, edges, entities and their classes

`value?` gives the command on a value that a name stands for, and `class?` the command on an entity
class. A command that changes a value gives what it has become. An entity can be asked what its class
can be asked. -/

namespace GraphQuery.Command

/-- A look at entries, with a default. -/
def looksUp (entries : Row) (param : String) : Option (Operation Step) :=
  some (takes [param, "default"] 1 fun f => answer do
    let key ← f.key 0
    return .value ((entryAt? key entries).getD (f.value 1)))

/-- A command that attaches related records under a name. -/
def attaches (parent : Value) : Option (Operation Step) :=
  some (takes ["name", "value"] 2 fun f => answer do
    return .changed (← setRelation parent (f.value 0) (f.value 1)))

/-- A command that checks a value as a field would be checked, and gives what would be stored. -/
def checks (check : Value → Result Value) : Option (Operation Step) :=
  some (takes ["v"] 1 fun f => answer do return .value (← check (f.value 0)))

/-- A map as it is, if its keys are texts. -/
def namedProperties (v : Value) : Result Value :=
  match v.entries? with
  | none => .error (.noAttribute v "keys")
  | some entries =>
    if entries.all fun e => e.1.text?.isSome then .ok v
    else .error (.failure (.value "Property keys must be strings"))

/-- A type of a relationship without the blanks around it. -/
def relationshipType : Value → Result Value
  | .text s =>
    match readRelationshipType (.text s) with
    | .ok type => .ok (.text type)
    | .error _ => .error (.failure (.value "A relationship needs a type"))
  | v => .error (.noAttribute v "strip")

/-- The command on a record that a name stands for. -/
def record? (w : Workspace) (r : Record) : String → Option (Operation Step)
  | "has_label" => some (takes ["label"] 1 fun f => return .truth (Record.hasLabel r (f.value 0)))
  | "has_property" => some (takes ["key"] 1 fun f => answer do
    return .truth (entryAt? (← f.key 0) (namedEntries r.properties)).isSome)
  | "get_property" => looksUp (namedEntries r.properties) "key"
  | "get_relation" => looksUp r.relations "name"
  | "set_relation" => attaches (.record r)
  | "coerce_labels" => some (takes ["v"] 1 fun f => do
    return .value (← Exec.ofResult (givenLabels (← Workspace.useUp (f.value 0)))))
  | "validate_properties" => checks namedProperties
  | name => model? w (.record r) (Record.fields r) name

/-- The command on an edge that a name stands for. -/
def edge? (w : Workspace) (e : Edge) : String → Option (Operation Step)
  | "get_property" => looksUp (namedEntries e.properties) "key"
  | "connects" => some (takes ["node_id"] 1 fun f => return .truth (Edge.connects e (f.value 0)))
  | "validate_relationship_type" => checks relationshipType
  | "validate_properties" => checks namedProperties
  | name => model? w (.edge e) (Edge.fields e) name

/-! ### Entity classes -/

/-- The labels of an entity class. -/
def classLabels (c : EntityClass) : Step := do
  let w ← get
  match w.registry.labels? c.id with
  | some labels => return .value (.tuple labels)
  | none => answer (.error (.noAttribute (w.classValue c) "_entity_config"))

/-- The connection that a value is. -/
def connectionOf : Value → Result Nat
  | .object ⟨.connection n, _, _, _, _⟩ => .ok n
  | v => .error (.noAttribute v "table")

/-- A step with a new builder on the connection that the first argument is. -/
def onConnection (f : Fitted) (step : Exec LiveQuery Reply) : Step := do
  let n ← Exec.ofResult (connectionOf (f.value 0))
  Workspace.onNewBuilder n step

/-- A builder for the nodes of an entity class. -/
def classQuery (c : EntityClass) (connection : Value) : Exec Workspace Nat := do
  let n ← Exec.ofResult (connectionOf connection)
  Workspace.addTargeting n ((← get).classValue c)

/-- An attribute that a node has to have. -/
def nodeAttribute (v : Value) (name : String) : Result Value :=
  let found := match v with
    | .record r => lookup? name (Record.attributes r)
    | .edge e => lookup? name (Edge.attributes e)
    | .entity e => lookup? name (Entity.attributes e)
    | _ => none
  found.elim (.error (.noAttribute v name)) .ok

/-- The entity that a node becomes: its properties, its identity, and its relations. Anything that has
these counts as a node. -/
def entityOf (c : EntityClass) (v : Value) : Result Value := do
  let properties ← Result.ofFailure (← nodeAttribute v "properties").toEntries
  let id ← nodeAttribute v "id"
  let e ← c.ofEntries (putEntry (.text "id") id properties)
  let relations ← Result.ofFailure (← nodeAttribute v "relations").toEntries
  return .entity { e with relations }

/-- The command on an entity class that a name stands for. -/
def class? (r : Registry) (c : EntityClass) : String → Option (Operation Step)
  | "get_labels" => some (takesNothing (classLabels c))
  | "from_node" => some (takes ["node"] 1 fun f => answer do
    return .value (← entityOf c (f.value 0)))
  | "query" => some (takes ["connection"] 1 fun f => do
    gives (.builder (← classQuery c (f.value 0))))
  | "create" => some fun a =>
    let (own, fields) := a.named.partition fun p => p.1 == "connection"
    (Arguments.fit { a with named := own } ["connection"] 1).map fun f =>
      if (lookup? "cls" fields).isSome then Exec.fail (.wrongType "the arguments do not fit")
      else do
        Workspace.useUpNamed c.listNames fields
        let e ← Exec.ofResult (c.ofFields fields)
        onConnection f do return .value (.entity (← LiveQuery.createEntity c e))
  | "model_validate" => some (validatesEntity r c)
  | _ => none

/-- The commands of an entity that its class does not have. -/
def instanceCommands : List String :=
  ["to_properties", "get_relation", "set_relation", "model_dump", "model_copy"]

/-- The command on an entity that a name stands for. -/
def entity? (w : Workspace) (e : Entity) : String → Option (Operation Step)
  | "to_properties" => some (takesNothing (answer do return .named (← Entity.properties e)))
  | "get_relation" => looksUp e.relations "name"
  | "set_relation" => attaches (.entity e)
  | name => model? w (.entity e) (("id", e.id) :: (e.fields ++ e.extras)) name

/-- The command on a value that a name stands for. An instance of a class that can be given first to
a command of the class is the target of that command. -/
def value? (w : Workspace) (v : Value) (name : String) : Option (Operation Step) :=
  match v with
  | .record r => record? w r name
  | .edge e => edge? w e name
  | .entity e => (entity? w e name).or ((w.registry.find? e.entityClass).bind fun c => class? w.registry c name)
  | .entityClass c => (w.registry.find? c.id).bind fun c => (class? w.registry c name).or (unbound name)
  | .column c => model? w (.column c) (c.attributes.filter (·.1 ≠ "qualified")) name
  | .handle kind => handout? kind name
  | v => collection? v name
where
  /-- The command of an instance, with the instance as the first argument. -/
  unbound (name : String) : Option (Operation Step) :=
    if name ∈ instanceCommands then
      some fun a =>
        match a.positional with
        | .entity e :: rest =>
          match entity? w e name with
          | some command => command { a with positional := rest }
          | none => Arguments.misfit
        | _ => Arguments.misfit
    else none

end GraphQuery.Command
