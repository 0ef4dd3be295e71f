import GraphQuery.Command.Record
import GraphQuery.Workspace.Sharing

/-! # Attributes

Every value can be asked for an attribute by name, and many can be given one.

* `read` gives an attribute. A clause of a query is shelved in the workspace when it is looked at.
* `assign` sets one. Records, edges, entities and settings check what their fields are given; a name
  with a low line in front is kept beside the fields and is not checked. -/

namespace GraphQuery.Command

/-- A failure to find an attribute. -/
def lacks {α : Type} (v : Value) (name : String) : Result α := .error (.noAttribute v name)

/-- The name of an attribute. -/
def attributeName : Value → Result String
  | .text name => .ok name
  | _ => .error (.wrongType "attribute name must be string")

/-- Whether a name is kept beside the fields. -/
def isHidden (name : String) : Bool := "_".toList.isPrefixOf name.toList

/-! ### Reading -/

/-- The attributes of a driver value. -/
def driverAttribute? (v : Value) (name : String) : Option Value :=
  let ends : Option (NodeData Value) → Value
    | some n => .node n
    | none => .null
  match v, name with
  | .node n, "element_id" => some n.elementId
  | .node n, "id" => some n.legacyId
  | .node n, "labels" => some (.set (n.labels.map .text))
  | .link l, "element_id" => some l.elementId
  | .link l, "id" => some l.legacyId
  | .link l, "type" => some (.text l.type)
  | .link l, "start_node" => some (ends l.start)
  | .link l, "end_node" => some (ends l.stop)
  | .link l, "nodes" => some (.tuple [ends l.start, ends l.stop])
  | .path nodes _, "start_node" => nodes.head?.map ends
  | .path nodes _, "end_node" => nodes.getLast?.map ends
  | .path nodes _, "nodes" => some (.tuple (nodes.map ends))
  | .path _ links, "relationships" => some (.tuple (links.map .link))
  | _, _ => none

/-- The attributes of a value that are known without the workspace. -/
def valueAttribute? (v : Value) (name : String) : Option Value :=
  match v with
  | .record r => lookup? name (Record.attributes r)
  | .edge e => lookup? name (Edge.attributes e)
  | .entity e => if name = "_relations" then some (.map e.relations e.relationsMark) else lookup? name (Entity.attributes e)
  | .column c => lookup? name c.attributes
  | v => driverAttribute? v name

/-- Shelves clauses and gives them as a list. -/
def shelveAll (builder : Option Nat) (clauses : List Clause) : Exec Workspace Value := do
  return .ofList (← clauses.mapM (Workspace.shelve builder))

/-- The sub-query of a clause as a builder. One that belongs to its place alone is copied, and uses
the table of the builder that the clause was taken from. -/
def shelveQuery (builder : Option Nat) (s : SubQuery) : Exec Workspace Value := do
  match s, builder with
  | .own q, some n => do
    let slot := (← get).slot n
    let m ← Workspace.addBuilderOn slot.table slot.grammar q slot.connection
    return (← get).object (.builder m)
  | s, _ => return (← get).current s.value

/-- The attribute of a shelved clause. -/
def clauseAttribute? (slot : ClauseSlot) (name : String) : Exec Workspace (Option Value) := do
  let shelved : Clause → Exec Workspace (Option Value) := fun c =>
    some <$> Workspace.shelve slot.builder c
  let query : SubQuery → Exec Workspace (Option Value) := fun s => some <$> shelveQuery slot.builder s
  match slot.clause, name with
  | .pattern p, "parent" => shelved (.node p.parent)
  | .pattern ⟨_, .node far _, _, _, _, _⟩, "related" => shelved (.node far)
  | .predicate (.nested _ wheres), "wheres" =>
    some <$> shelveAll slot.builder (wheres.map .predicate)
  | .predicate (.comparedRow _ _ _ s), "query" | .predicate (.amongRows _ _ s _), "query"
  | .predicate (.present _ s _), "query" | .branch ⟨s, _⟩, "query" => query s
  | c, name => return lookup? name c.fields

/-- The lists of a builder by name. -/
def listNames : List (String × QueryPart) :=
  [("matches", .patterns), ("wheres", .wheres), ("withs", .stages), ("groups", .groups),
    ("havings", .havings), ("orders", .sortKeys), ("unions", .branches)]

/-- The attribute of a builder. -/
def builderAttribute? (n : Nat) (name : String) : Exec Workspace (Option Value) := do
  let w ← get
  let q := w.query n
  let slot := w.slot n
  let orElse (part : QueryPart) (v : Value) := return some ((q.standIn? part).getD v)
  match name with
  | "alias" => return some (.ofText? (← Exec.ofResult q.placeholder?))
  | "labels" => return some q.labels
  | "entity" => return some (w.current q.entity)
  | "connection" =>
    orElse .connection ((slot.connection.map fun c => w.object (.connection c)).getD .null)
  | "grammar" => orElse .grammar (w.object (.grammar slot.grammar))
  | "bindings" => orElse .bindings (w.object (.table slot.table))
  | "columns" => return some q.columns
  | "limit_value" => return some q.limit
  | "offset_value" => return some q.offset
  | "is_distinct" => return some q.isDistinct
  | "aggregate_clause" =>
    match q.aggregate with
    | some a => some <$> Workspace.shelveMember n .aggregate a
    | none => return some .null
  | "operators" => return some (.tuple (operators.map .text))
  | name => (lookup? name listNames).mapM (Workspace.readList n)

/-- What a connection keeps for itself, by name. -/
def connectionAttributes (c : Connection) : Properties :=
  [("_client", (c.client.map (·.value)).getD .null),
    ("_transaction", (c.transaction.map (·.value)).getD .null), ("_transactions", c.level),
    ("_pretending", c.isPretending), ("_logging_queries", c.logsQueries), ("_query_log", c.queryLog),
    ("_reconnector", c.reconnector.getD .null)]

/-- The buckets of a table by name. -/
def bucketMap (t : BindingTable) : Value :=
  .ofProperties (Bucket.all.map fun b => (b.name, .ofPairs (t.bucket b)))

/-- The table that a map of all buckets stands for. -/
def tableOfBuckets? (buckets : Row) : Option BindingTable :=
  Bucket.all.foldlM
    (fun t b => do
      match ← entryAt? (.text b.name) buckets with
      | .map rows _ => some (t.withBucket rows b)
      | _ => none)
    .empty

/-- The settings, the engine or the grammar of a connection. -/
def connectionPart? (w : Workspace) (slot : ConnectionSlot) (name : String) : Option Value :=
  (lookup? name slot.connection.instead).map w.current |>.or
    (match name with
      | "config" => some (w.object (.config slot.config))
      | "engine" => some (w.object (.engine slot.engine))
      | "query_grammar" => some (w.object (.grammar slot.grammar))
      | _ => none)

/-- The attribute of an object that lives in the workspace. The driver of an engine can be read while
it is connected. -/
def objectAttribute? (ref : ObjectRef) (name : String) : Exec Workspace (Option Value) := do
  let w ← get
  match ref, name with
  | .builder n, _ => builderAttribute? n name
  | .connection n, "config" | .connection n, "engine" | .connection n, "query_grammar" =>
    return connectionPart? w (w.connectionSlot n) name
  | .engine n, "driver" => return some (← Exec.ofResult (w.engine n).driver?).value
  | .connection n, _ => return lookup? name (connectionAttributes (w.channel n).connection)
  | .engine n, "_driver" =>
    return some (((w.engine n).driver.map (·.value)).getD .null)
  | .engine n, "_is_connected" => return some (w.engine n).isConnected
  | .engine n, _ => return lookup? name (w.engine n).attributes
  | .table n, "_buckets" => return some (bucketMap (w.table n))
  | .config n, _ => return lookup? name (w.config n).attributes
  | .page n, _ => Exec.ofResult ((w.page n).attribute? name)
  | .clause n, _ =>
    match w.clauses[n]? with
    | some slot => clauseAttribute? slot name
    | none => return none
  | .grammar n, "date_format" => return some (w.dateFormat n)
  | _, _ => return none

/-- Whether a name stands for something undeclared that an entity holds. -/
def isExtra (v : Value) (name : String) : Bool :=
  match v with
  | .entity e => name ≠ "id" && (lookup? name e.fields).isNone && (lookup? name e.extras).isSome
  | _ => false

/-- An attribute of a value. If a command has that name, `command` says what it is; what an entity
holds undeclared stands behind it. -/
def read (v : Value) (name : String) (command : Option String) : Exec Workspace Value := do
  let w ← get
  match w.note? v name with
  | some x => return x
  | none =>
    let found ← match v with
      | .object o => objectAttribute? o.ref name
      | v => pure (valueAttribute? v name)
    let found := found.or (modelAttribute? w v name)
    match found.filter fun _ => command.isNone || !isExtra v name, command with
    | some x, _ => return x
    | none, some kind => return .handle kind
    | none, none => Exec.ofResult (lacks v name)

/-! ### Assigning -/

/-- Changes the query of a builder. -/
def onQuery (n : Nat) (f : Query → Query) : Exec Workspace Unit :=
  (Build.change f).within (Workspace.builderPart n)

/-- Puts something in the place of a part of a builder, or back into it. -/
def standIn (n : Nat) (part : QueryPart) (v : Option Value) : Exec Workspace Unit :=
  onQuery n fun q => q.withStandIn part v

/-- Assigns an attribute of a builder. Nothing is checked. -/
def assignBuilder (n : Nat) (name : String) (v : Value) : Exec Workspace Unit := do
  let w ← get
  match lookup? name listNames with
  | some part => Workspace.assignList n part v
  | none =>
    match name, v with
    | "alias", _ => Exec.ofResult (lacks (w.object (.builder n)) name)
    | "labels", _ => onQuery n fun q => { q with labels := v }
    | "entity", _ => onQuery n fun q => { q with entity := v }
    | "columns", _ => onQuery n fun q => { q with columns := v }
    | "limit_value", _ => onQuery n fun q => { q with limit := v }
    | "offset_value", _ => onQuery n fun q => { q with offset := v }
    | "is_distinct", _ => onQuery n fun q => { q with isDistinct := v }
    | "aggregate_clause", _ => onQuery n fun q => { q with aggregate := aggregateOf w v }
    | "connection", .object ⟨.connection c, _, _, _, _⟩ => do
      standIn n .connection none
      Workspace.onSlot n fun slot => { slot with connection := some c }
    | "connection", _ => do
      standIn n .connection (some v |>.filter (!·.isNull))
      Workspace.onSlot n fun slot => { slot with connection := none }
    | "grammar", .object ⟨.grammar g, _, _, _, _⟩ => do
      standIn n .grammar none
      Workspace.onSlot n fun slot => { slot with grammar := g }
    | "grammar", _ => standIn n .grammar (some v)
    | "bindings", .object ⟨.table t, _, _, _, _⟩ => do
      standIn n .bindings none
      Workspace.onSlot n fun slot => { slot with table := t }
    | "bindings", _ => standIn n .bindings (some v)
    | _, _ => Workspace.setNote (w.object (.builder n)) name v
where
  aggregateOf (w : Workspace) (v : Value) : Option (Member Aggregate) :=
    match w.clauseOf? v, v with
    | some (.aggregate a), _ => some (.clause a)
    | _, .null => none
    | _, v => some (.foreign v)

/-- Changes an engine. -/
def onEngine (n : Nat) (f : Engine → Engine) : Exec Workspace Unit :=
  (modify (fun s => { s with engine := f s.engine }) : Exec Station Unit).within
    (Workspace.stationPart n)

/-- Changes the place of a connection. -/
def onConnectionSlot (n : Nat) (f : ConnectionSlot → ConnectionSlot) : Exec Workspace Unit :=
  modify fun w => { w with connections := w.connections.set n (f (w.connectionSlot n)) }

/-- A connection with something else for what it keeps for itself under a name. -/
def keptBy (name : String) (v : Value) (c : Connection) : Option Connection :=
  match name, v with
  | "_client", v => some { c with client := Client.ofValue v }
  | "_transactions", v => some { c with level := v }
  | "_pretending", v => some { c with isPretending := v }
  | "_logging_queries", v => some { c with logsQueries := v }
  | "_query_log", v => some { c with queryLog := v }
  | "_reconnector", v => some { c with reconnector := if v.isNull then none else some v }
  | "_transaction", v => some { c with transaction := Client.ofValue v }
  | _, _ => none

/-- A connection with settings, an engine or a grammar, or with something else in the place of one. -/
def placeIn (name : String) (v : Value) (slot : ConnectionSlot) : ConnectionSlot :=
  let instead := slot.connection.instead.filter (·.1 ≠ name)
  let back : ConnectionSlot := { slot with connection := { slot.connection with instead } }
  match name, v with
  | "config", .object ⟨.config c, _, _, _, _⟩ => { back with config := c }
  | "engine", .object ⟨.engine e, _, _, _, _⟩ => { back with engine := e }
  | "query_grammar", .object ⟨.grammar g, _, _, _, _⟩ => { back with grammar := g }
  | _, v => { slot with connection := { slot.connection with instead := put name v instead } }

/-- Assigns an attribute of a connection. -/
def assignConnection (n : Nat) (name : String) (v : Value) : Exec Workspace Unit := do
  if name ∈ ["config", "engine", "query_grammar"] then onConnectionSlot n (placeIn name v)
  else match keptBy name v ((← get).connectionSlot n).connection with
  | some c => onConnectionSlot n fun slot => { slot with connection := c }
  | none => do Workspace.setNote ((← get).object (.connection n)) name v

/-- Assigns an attribute of an object that lives in the workspace. -/
def assignObject (o : ObjectData Value) (name : String) (v : Value) : Exec Workspace Unit := do
  let w ← get
  match o.ref, name, v with
  | .builder n, _, _ => assignBuilder n name v
  | .engine n, "uri", _ => onEngine n fun e => { e with uri := v }
  | .engine n, "auth", _ => onEngine n fun e => { e with auth := v }
  | .engine n, "default_database", _ => onEngine n fun e => { e with database := v }
  | .engine n, "driver_config", .map es _ => onEngine n fun e => { e with driverConfig := es }
  | .engine _, "connected", _ | .engine _, "driver", _ => Exec.ofResult (lacks (.object o) name)
  | .connection n, _, _ => assignConnection n name v
  | .engine n, "_driver", _ => onEngine n fun e => { e with driver := DriverRef.ofValue v }
  | .engine n, "_is_connected", _ => onEngine n fun e => { e with isConnected := v }
  | .table n, "_buckets", .map buckets _ =>
    match tableOfBuckets? buckets with
    | some t => set { w with tables := w.tables.set n t }
    | none => Workspace.setNote (.object o) name v
  | .grammar n, "date_format", _ => set { w with grammars := w.grammars.set n v }
  | .config n, _, _ =>
    if isHidden name then Workspace.setNote (.object o) name v
    else do
      let c ← Exec.ofResult ((w.config n).assign name v)
      set { w with configs := w.configs.set n c }
  | .page n, _, _ =>
    if isHidden name then Workspace.setNote (.object o) name v
    else do
      let p ← Exec.ofResult ((w.page n).assign name v)
      set { w with pages := w.pages.set n p }
  | .clause n, _, _ =>
    if isHidden name then Workspace.setNote (.object o) name v
    else
      match w.clauses[n]? with
      | some ⟨.related r, builder⟩ => do
        let r ← Exec.ofResult (r.assign name v)
        set { w with clauses := w.clauses.set n ⟨.related r, builder⟩ }
      | _ => Exec.fail (.invalid [⟨.frozen, [name], none⟩])
  | _, _, _ => Workspace.setNote (.object o) name v

/-- What entities share with their class and cannot be assigned. -/
def classAttributes : List String := ["_entity_config", "_registered_at", "_entity_registry"]

/-- The relations that an entity is given as a whole. -/
def assignRelations (e : Entity) (v : Value) : Entity :=
  { e with relations := v.entries?.getD [], relationsMark := v.mark? }

/-- Assigns an attribute. What an entity has been given beside its fields is kept among them as soon as
one of these is assigned. Gives what the value has become, if it is one that carries its fields. -/
def assign (v : Value) (name : String) (x : Value) : Exec Workspace Reply := do
  match v with
  | .object o => do
    assignObject o name x
    return .nothing
  | .entity e =>
    if name = "_relations" then return .changed (.entity (assignRelations e x))
    else if name ∈ classAttributes || isDerivedAttribute name then Exec.ofResult (lacks v name)
    else if isHidden name then hide
    else do
      match (← get).registry.find? e.entityClass with
      | some c =>
        let hidden := (← get).notesOf v
        let e := { e with extras := putAll hidden e.extras }
        Workspace.useUpNamed c.listNames [(name, x)]
        let e ← Exec.ofResult (c.assign e name x)
        Workspace.clearNotes v
        return .changed (.entity e)
      | none => Exec.ofResult (lacks v name)
  | .record r =>
    if isDerivedAttribute name then Exec.ofResult (lacks v name)
    else if isHidden name then hide
    else do
      Workspace.useUpNamed ["labels"] [(name, x)]
      return .changed (.record (← Exec.ofResult (Record.assign r name x)))
  | .edge e =>
    if isDerivedAttribute name then Exec.ofResult (lacks v name)
    else if isHidden name then hide
    else return .changed (.edge (← Exec.ofResult (Edge.assign e name x)))
  | .column _ =>
    if isHidden name then return .nothing
    else Exec.fail (.invalid [⟨.frozen, [name], none⟩])
  | .builtinClass _ => Exec.fail (.wrongType "a class of this kind cannot be given attributes")
  | .node _ | .link _ | .path _ _ =>
    if (driverAttribute? v name).isSome then Exec.ofResult (lacks v name) else return .nothing
  | .series _ => return .nothing
  | .entityClass c => do
    if name = "_registered_at" then
      x.place?.forM fun rank => modify fun w => { w with registry := w.registry.rerank c.id rank }
    hide
  | v => Exec.ofResult (lacks v name)
where
  hide : Exec Workspace Reply := do
    Workspace.setNote v name x
    return .nothing

/-! ### What can be done with any value -/

/-- How a value is written down. -/
def literalOf (w : Workspace) (v : Value) : Result String :=
  match v with
  | .object ⟨.builder n, _, _, _, _⟩ => Cypher.queryLiteral (w.query n)
  | v => .ok (w.current v).literal

end GraphQuery.Command
