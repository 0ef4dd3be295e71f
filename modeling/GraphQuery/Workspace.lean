import GraphQuery.Builder.Inspection
import GraphQuery.Execution.Creation
import GraphQuery.Execution.Page
import GraphQuery.Query.Link
import GraphQuery.Record.Eager
import GraphQuery.Session.Transaction

/-! # Workspaces

A `Workspace` holds tables, builders, engines, connections, settings and pages that belong together,
each under its number, with the entity classes, the server, and the values that callers have named.
Builders can share a table and a connection, and connections can share an engine; sub-queries can be
builders that are still changed.

* `object` is a part of the workspace as a value, as it is at the moment.
* `builderPart`, `tablePart`, `channelPart`, `stationPart` and `livePart` pick out a part on which a
  step can run.
* `addBuilder` and the other `add` functions take something new in and give its number.
* `subBuilder`, `groupBuilder`, `newBuilder` and `cloneBuilder` make a builder out of another one.
* `keep` marks what can change in a value; `useUp`, `useThrough` and `search` go through one and note
  what is left of a stream. -/

namespace GraphQuery

/-- A list that is known outside the builder too: its mark, and its members as they were seen
last. -/
structure SharedList where
  mark : Nat
  members : List Value

/-- A builder in a workspace: its query, and the numbers of its table, its connection and its
grammar. `shared` holds the lists of the query that are known elsewhere. -/
structure BuilderSlot where
  query : Query
  table : Nat
  connection : Option Nat
  grammar : Nat
  shared : List (QueryPart × SharedList)

/-- A connection in a workspace, with the numbers of its engine, its settings and its grammar. -/
structure ConnectionSlot where
  connection : Connection
  engine : Nat
  config : Nat
  grammar : Nat

/-- A clause that is looked at on its own, with the number of the builder it was taken from. -/
structure ClauseSlot where
  clause : Clause
  builder : Option Nat

/-- A callback: the calls it makes on a builder, if nothing else happens in it. -/
structure Callback where
  calls : Option (List Call)

/-- What attributes of its own can be given to. -/
inductive Owner where
  | marked (mark : Nat)
  | object (ref : ObjectRef)
  | entityClass (id : ClassId)
deriving DecidableEq

/-- Everything that belongs together, by number or by name. -/
structure Workspace where
  server : Server
  registry : Registry
  tables : List BindingTable
  builders : List BuilderSlot
  engines : List Engine
  connections : List ConnectionSlot
  configs : List ConnectionConfig
  pages : List Page
  /-- the patterns under which grammars write dates -/
  grammars : List Value
  clauses : List ClauseSlot
  callbacks : List Callback
  named : List (String × Value)
  /-- attributes that are no fields, by owner and name -/
  notes : List ((Owner × String) × Value)
  /-- the next free mark -/
  marks : Nat
  /-- what is left of streams that have been gone through -/
  used : Remains

namespace Workspace

/-- The workspace that holds nothing but a grammar. -/
def empty : Workspace :=
  ⟨Server.idle, Registry.empty, [], [], [], [], [], [], [.text standardPattern], [], [], [], [], 0, []⟩

/-! ### Looking at things -/

/-- The table with a number. -/
def table (w : Workspace) (number : Nat) : BindingTable :=
  (w.tables[number]?).getD BindingTable.empty

/-- The place of the builder with a number. -/
def slot (w : Workspace) (number : Nat) : BuilderSlot :=
  (w.builders[number]?).getD ⟨Query.empty, 0, none, 0, []⟩

/-- What a grammar has for a pattern under which it writes dates. -/
def dateFormat (w : Workspace) (grammar : Nat) : Value :=
  (w.grammars[grammar]?).getD (.text standardPattern)

/-- The pattern under which a grammar writes dates, if it is a text. -/
def datePattern (w : Workspace) (grammar : Nat) : Option String := (w.dateFormat grammar).text?

/-- The settings with a number. -/
def config (w : Workspace) (number : Nat) : ConnectionConfig :=
  (w.configs[number]?).getD ConnectionConfig.standard

/-- The page with a number. -/
def page (w : Workspace) (number : Nat) : Page :=
  (w.pages[number]?).getD ⟨.ofList [], .int 0, .int 1, .int 1⟩

/-- The query with a number, as it was left. -/
def storedQuery? (w : Workspace) (number : Nat) : Option Query :=
  (w.builders[number]?).map (·.query)

/-- The query with a number, with all that it is linked to. -/
def query (w : Workspace) (number : Nat) : Query :=
  Query.refresh w.storedQuery? w.builders.length number (w.slot number).query

/-- The builder with a number. -/
def builder (w : Workspace) (number : Nat) : Builder :=
  let slot := w.slot number
  ⟨w.query number, w.table slot.table, slot.table, w.used⟩

/-- The builder with a number as a query to be taken in. -/
def incoming (w : Workspace) (number : Nat) : Incoming :=
  let b := w.builder number
  ⟨number, b.tableNumber, b.query, b.table⟩

/-- The engine with a number. -/
def engine (w : Workspace) (number : Nat) : Engine :=
  (w.engines[number]?).getD (Engine.ofConfig ConnectionConfig.standard)

/-- The engine with a number, with the server. -/
def station (w : Workspace) (number : Nat) : Station := ⟨w.engine number, w.server⟩

/-- The place of the connection with a number. -/
def connectionSlot (w : Workspace) (number : Nat) : ConnectionSlot :=
  (w.connections[number]?).getD ⟨Connection.new ConnectionConfig.standard, 0, 0, 0⟩

/-- The connection with a number, with its engine and the server. -/
def channel (w : Workspace) (number : Nat) : Channel :=
  let slot := w.connectionSlot number
  ⟨{ slot.connection with config := w.config slot.config }, w.engine slot.engine, w.server,
    w.datePattern slot.grammar⟩

/-- The builder with a number, with its connection and the entity classes. -/
def live (w : Workspace) (number : Nat) : LiveQuery :=
  let slot := w.slot number
  ⟨w.builder number, number, slot.connection.map w.channel, w.registry, w.datePattern slot.grammar⟩

/-! ### Parts as values -/

/-- A part of the workspace as it is at the moment. -/
def view (w : Workspace) (ref : ObjectRef) : ObjectData Value :=
  match ref with
  | .table n =>
    let t := w.table n
    ⟨ref, "BindingTable", some (t.flatten.map (·.1)), some t.names.length, some t.literal⟩
  | .builder n => ⟨ref, "Builder", none, none, (Cypher.queryLiteral (w.query n)).toOption⟩
  | .connection _ => ⟨ref, "GraphConnection", none, none, none⟩
  | .engine _ => ⟨ref, "GraphEngine", none, none, none⟩
  | .config n => modelObject ref "ConnectionConfig" (w.config n).fields
  | .page n => modelObject ref "Page" (w.page n).fields
  | .grammar _ => ⟨ref, "CypherGrammar", none, none, none⟩
  | .clause n => ((w.clauses[n]?).map (·.clause.view n)).getD ⟨ref, "object", none, none, none⟩
  | .callback _ => ⟨ref, "function", none, none, none⟩
  | .loose => ⟨ref, "object", none, none, none⟩

/-- A part of the workspace as a value. -/
def object (w : Workspace) (ref : ObjectRef) : Value := .object (w.view ref)

/-- An entity class as a value. -/
def classValue (w : Workspace) (c : EntityClass) : Value := .entityClass (w.registry.ref c)

/-- A value as it is at the moment. -/
def current (w : Workspace) : Value → Value
  | .object o => if o.ref = .loose then .object o else w.object o.ref
  | .entityClass c => ((w.registry.find? c.id).map w.classValue).getD (.entityClass c)
  | v => v

/-- The clause that a value is. -/
def clauseOf? (w : Workspace) : Value → Option Clause
  | .object ⟨.clause n, _, _, _, _⟩ => (w.clauses[n]?).map (·.clause)
  | _ => none

/-- The value with a name. -/
def named? (w : Workspace) (name : String) : Option Value :=
  (lookup? name w.named).map w.current

/-! ### Changing things -/

/-- Puts another table under a number. -/
def setTable (w : Workspace) (number : Nat) (t : BindingTable) : Workspace :=
  { w with tables := w.tables.set number t }

/-- Puts another query and another table under the number of a builder. -/
def setBuilder (w : Workspace) (number : Nat) (b : Builder) : Workspace :=
  let slot := w.slot number
  { w.setTable slot.table b.table with
    builders := w.builders.set number { slot with query := b.query }
    used := b.used }

/-- Puts another engine under a number, together with what the server has become. -/
def setStation (w : Workspace) (number : Nat) (s : Station) : Workspace :=
  { w with engines := w.engines.set number s.engine, server := s.server }

/-- Puts another connection under a number, together with what its engine and the server have
become. -/
def setChannel (w : Workspace) (number : Nat) (c : Channel) : Workspace :=
  let slot := w.connectionSlot number
  { w.setStation slot.engine ⟨c.engine, c.server⟩ with
    connections := w.connections.set number { slot with connection := c.connection } }

/-- Puts another builder under a number, together with what its connection has become. -/
def setLive (w : Workspace) (number : Nat) (l : LiveQuery) : Workspace :=
  let w := w.setBuilder number l.builder
  match (w.slot number).connection, l.channel with
  | some connection, some c => w.setChannel connection c
  | _, _ => w

/-- The table with a number, as a part. -/
def tablePart (number : Nat) : Focus Workspace BindingTable :=
  ⟨(·.table number), fun t w => w.setTable number t⟩

/-- The builder with a number, as a part. -/
def builderPart (number : Nat) : Focus Workspace Builder :=
  ⟨(·.builder number), fun b w => w.setBuilder number b⟩

/-- The engine with a number and the server, as a part. -/
def stationPart (number : Nat) : Focus Workspace Station :=
  ⟨(·.station number), fun s w => w.setStation number s⟩

/-- The connection with a number, its engine and the server, as a part. -/
def channelPart (number : Nat) : Focus Workspace Channel :=
  ⟨(·.channel number), fun c w => w.setChannel number c⟩

/-- The builder with a number and its connection, as a part. -/
def livePart (number : Nat) : Focus Workspace LiveQuery :=
  ⟨(·.live number), fun l w => w.setLive number l⟩

/-! ### Taking things in -/

/-- Takes a table in. -/
def addTable (t : BindingTable) : Exec Workspace Nat := do
  let w ← get
  set { w with tables := w.tables ++ [t] }
  return w.tables.length

/-- Takes a grammar in that writes dates as usual. -/
def addGrammar : Exec Workspace Nat := do
  let w ← get
  set { w with grammars := w.grammars ++ [Value.text standardPattern] }
  return w.grammars.length

/-- The grammar for a builder: that of its connection, or a new one. -/
def grammarFor (connection : Option Nat) : Exec Workspace Nat := do
  match connection with
  | some n => return ((← get).connectionSlot n).grammar
  | none => addGrammar

/-- Takes a builder in that uses the table and the grammar with these numbers. -/
def addBuilderOn (table grammar : Nat) (q : Query) (connection : Option Nat) :
    Exec Workspace Nat := do
  let w ← get
  let slot : BuilderSlot := ⟨q, table, connection, grammar, []⟩
  set { w with builders := w.builders ++ [slot] }
  return w.builders.length

/-- What has been put in the place of the grammar of a connection. -/
def grammarInstead? (w : Workspace) (connection : Option Nat) : Option Value :=
  connection.bind fun n => lookup? "query_grammar" (w.connectionSlot n).connection.instead

/-- Takes a builder in, with a table of its own. It uses what its connection has for a grammar. -/
def addBuilder (q : Query) (connection : Option Nat) : Exec Workspace Nat := do
  let table ← addTable BindingTable.empty
  let grammar ← grammarFor connection
  let q := match (← get).grammarInstead? connection with
    | some v => q.withStandIn .grammar (some v)
    | none => q
  addBuilderOn table grammar q connection

/-- Takes an engine in. -/
def addEngine (e : Engine) : Exec Workspace Nat := do
  let w ← get
  set { w with engines := w.engines ++ [e] }
  return w.engines.length

/-- Takes settings in. -/
def addConfig (c : ConnectionConfig) : Exec Workspace Nat := do
  let w ← get
  set { w with configs := w.configs ++ [c] }
  return w.configs.length

/-- Takes a connection in that uses the settings with a number, with an engine and a grammar of its
own. -/
def addConnection (config : Nat) : Exec Workspace Nat := do
  let engine ← addEngine (Engine.ofConfig ((← get).config config))
  let grammar ← addGrammar
  let w ← get
  let slot : ConnectionSlot := ⟨Connection.new (w.config config), engine, config, grammar⟩
  set { w with connections := w.connections ++ [slot] }
  return w.connections.length

/-- Gives a connection a session that was opened elsewhere. -/
def lendSession (connection : Nat) : Exec Workspace Unit := do
  let w ← get
  let session := w.server.sessions
  set { w with server := { w.server with sessions := session + 1 } }
  ((Channel.change fun c => { c with client := some (.on (.session session)) }).within
    (channelPart connection))

/-- Takes a clause in. -/
def addClause (c : Clause) (builder : Option Nat) : Exec Workspace Nat := do
  let w ← get
  let slot : ClauseSlot := ⟨c, builder⟩
  set { w with clauses := w.clauses ++ [slot] }
  return w.clauses.length

/-- Takes a callback in. -/
def addCallback (c : Callback) : Exec Workspace Nat := do
  let w ← get
  set { w with callbacks := w.callbacks ++ [c] }
  return w.callbacks.length

/-- Gives a value a name. -/
def setNamed (name : String) (v : Value) : Exec Workspace Unit :=
  modify fun w => { w with named := put name v w.named }

/-! ### What stands for a session -/

/-- Begins a transaction on a connection. Another connection that stands for its session begins one
itself, and then there is nothing to commit. `passes` bounds how many connections stand for each
other. -/
def beginThrough : (passes : Nat) → (connection : Nat) → Exec Workspace Unit
  | 0, _ => Exec.fail (.failure .selfContained)
  | passes + 1, n => do
    if ← Channel.enter.within (channelPart n) then
      let opened ← (match ((← get).channel n).connection.client with
        | some (.foreign (.object ⟨.connection m, _, _, _, _⟩)) => do
          beginThrough passes m
          return none
        | _ => Channel.openTransaction.within (channelPart n) :
          Exec Workspace (Option Client)).attempt
      (Channel.takeOver opened).within (channelPart n)

/-- Begins a transaction on the connection with a number. -/
def begin (connection : Nat) : Exec Workspace Unit := do
  beginThrough ((← get).connections.length + 1) connection

/-- Closes the session of a connection, or the engine that stands for it. -/
def disconnect (connection : Nat) : Exec Workspace Unit := do
  match ((← get).channel connection).connection.client with
  | some (.foreign (.object ⟨.engine n, _, _, _, _⟩)) =>
    Channel.letGo.within (channelPart connection)
    Station.close.within (stationPart n)
  | _ => Channel.disconnect.within (channelPart connection)

/-! ### Records that change -/

/-- Marks what can change in a value. -/
def keep (v : Value) : Exec Workspace Value := do
  let w ← get
  let (v, marks) := v.marked.run w.marks
  set { w with marks }
  return v

/-- A copy of a value of which nothing is known elsewhere. -/
def detach (v : Value) : Exec Workspace Value := do
  let w ← get
  let (v, marks) := v.detached.run w.marks
  set { w with marks }
  return v

/-- Takes a page in. -/
def addPage (p : Page) : Exec Workspace Nat := do
  let w ← get
  set { w with pages := w.pages ++ [p] }
  return w.pages.length

/-! ### Streams that are gone through -/

/-- A value that is gone through now. -/
def useUp (v : Value) : Exec Workspace Value := do
  let w ← get
  let (v, used) := w.used.useUp v
  set { w with used }
  return v

/-- Notes what is left of a value, if it is a stream. -/
def leave (v left : Value) : Exec Workspace Unit := do
  match v, left with
  | .stream _ mark, .stream xs _ => modify fun w => { w with used := w.used.leave mark xs }
  | _, _ => pure ()

/-- Goes through the values under some names. -/
def useUpNamed (names : List String) (given : Properties) : Exec Workspace Unit :=
  given.forM fun p => do
    if p.1 ∈ names then discard (useUp p.2)

/-- How many members are gone through until a step on them fails: all of them unless it does. -/
def reach {α : Type} (step : List Value → Result α) (members : List Value) : Nat :=
  ((List.range members.length).find? fun n => !(step (members.take (n + 1))).isOk).elim
    members.length (· + 1)

/-- Goes through a value, with a step that stops at the first member it fails at. -/
def useThrough {α : Type} (v : Value) (step : List Value → Result α) : Exec Workspace α := do
  let members ← Exec.ofResult (Result.ofFailure v.members)
  match v with
  | .stream xs mark => do
    let w ← get
    let members := w.used.of xs mark
    set { w with used := w.used.leave mark (members.drop (reach step members)) }
    Exec.ofResult (step members)
  | _ => Exec.ofResult (step members)

/-- Looks for a member of a value; a stream is gone through up to it. -/
def search (whole part : Value) : Exec Workspace Bool := do
  match whole with
  | .stream xs mark =>
    modify fun w => { w with used := w.used.leave mark (streamAfter part (w.used.of xs mark)) }
  | _ => pure ()
  Exec.ofResult (Result.ofFailure (whole.holds part))

/-! ### Attributes of their own -/

/-- What attributes of its own a value can be given as. -/
def ownerOf? : Value → Option Owner
  | .object o => some (.object o.ref)
  | .entityClass c => some (.entityClass c.id)
  | v => v.mark?.map .marked

/-- The attribute of its own with a name. -/
def note? (w : Workspace) (v : Value) (name : String) : Option Value :=
  (ownerOf? v).bind fun owner => (w.notes.find? fun n => n.1 == (owner, name)).map (·.2)

/-- The attributes of its own, in the order in which they were given first. -/
def notesOf (w : Workspace) (v : Value) : Properties :=
  w.notes.filterMap fun n => if some n.1.1 = ownerOf? v then some (n.1.2, n.2) else none

/-- Gives a value an attribute of its own. -/
def setNote (v : Value) (name : String) (x : Value) : Exec Workspace Unit :=
  modify fun w =>
    match ownerOf? v with
    | some owner =>
      if (w.note? v name).isSome then
        { w with notes := w.notes.map fun n => if n.1 = (owner, name) then (n.1, x) else n }
      else { w with notes := w.notes ++ [((owner, name), x)] }
    | none => w

/-- Takes all attributes of its own from a value. -/
def clearNotes (v : Value) : Exec Workspace Unit :=
  modify fun w => { w with notes := w.notes.filter fun n => some n.1.1 ≠ ownerOf? v }

/-! ### Targets and classes -/

/-- A builder for nodes with these labels. -/
def addTargeting (connection : Nat) (labels : Value) : Exec Workspace Nat := do
  let number ← addBuilder Query.empty (some connection)
  (Build.target labels).within (builderPart number)
  return number

/-- Defines an entity class. -/
def defineClass (name : String) (base : Option ClassId) (fields : List Schema.Field)
    (labels : Option (List Value)) : Exec Workspace EntityClass := do
  let w ← get
  let (c, registry) := w.registry.define name base fields labels
  set { w with registry }
  return c

/-- Gives an entity class other labels: several, or one, or its name. -/
def relabelClass (c : EntityClass) (label labels : Value) : Exec Workspace Unit := do
  let labels ← Exec.ofResult (Registry.chosenLabels c.name label labels)
  modify fun w => { w with registry := w.registry.relabel c.id labels }

/-- Runs a step on a new builder. -/
def onNewBuilder {α : Type} (connection : Nat) (step : Exec LiveQuery α) : Exec Workspace α := do
  let number ← addBuilder Query.empty (some connection)
  step.within (livePart number)

/-! ### Builders out of builders -/

/-- The grammar that a builder passes on; where nothing stands for it, it is chosen anew. -/
def grammarOf (slot : BuilderSlot) : Exec Workspace Nat :=
  if (slot.query.standIn? .grammar).any (·.isNull) then grammarFor slot.connection
  else pure slot.grammar

/-- An empty builder on the same connection. -/
def newBuilder (number : Nat) : Exec Workspace Nat := do
  let slot := (← get).slot number
  let table ← addTable BindingTable.empty
  addBuilderOn table (← grammarOf slot) ((Build.subStart slot.query).withStandIn .bindings none)
    slot.connection

/-- A builder with this query on the same connection and the same table. -/
def addBeside (number : Nat) (q : Query) : Exec Workspace Nat := do
  let slot := (← get).slot number
  let table ←
    if (slot.query.standIn? .bindings).any (·.isNull) then addTable BindingTable.empty
    else pure slot.table
  addBuilderOn table (← grammarOf slot) q slot.connection

/-- An empty builder on the same connection and the same table. -/
def subBuilder (number : Nat) : Exec Workspace Nat := do
  addBeside number (Build.subStart ((← get).slot number).query)

/-- A builder for a group of predicates: the same nodes and the same table. -/
def groupBuilder (number : Nat) : Exec Workspace Nat := do
  addBeside number (← Exec.ofResult (Build.groupStart ((← get).slot number).query))

/-- A value that is told apart from the one it was copied from. What is in it is shared. -/
def unmarked : Value → Value
  | .list xs _ => .ofList xs
  | .map es _ => .ofPairs es
  | .record r => .record { r with mark := none }
  | .edge e => .edge { e with mark := none }
  | .entity e => .entity { e with mark := none }
  | v => v

/-- A copy of a builder that goes its own way from here on. -/
def cloneBuilder (number : Nat) : Exec Workspace Nat := do
  let w ← get
  let slot := w.slot number
  let q ← Exec.ofResult slot.query.copied
  let columns ← Exec.ofResult (copiedColumns q.columns)
  let table ← addTable (w.table slot.table)
  let bindings := (q.standIn? .bindings).map unmarked
  addBuilderOn table (← grammarOf slot) { q.withStandIn .bindings bindings with columns }
    slot.connection

/-- Moves the bindings of one table into another one, and gives the new names of those that were
renamed. A table is not moved into itself. -/
def absorbTable (number other : Nat) : Exec Workspace BindingTable.Renames := do
  if number = other then return []
  let w ← get
  let (t, renames) := (w.table number).absorb (w.table other)
  set (w.setTable number t)
  return renames

end Workspace

end GraphQuery
