import GraphQuery.Execution.Write
import GraphQuery.Record.Entity

/-! # Creating related nodes and entities

* `createWith` creates a node together with related ones, and attaches existing nodes to it.
* `createEntity` checks an entity, stores it, and gives it the identity of its node; `fetchEntity`
  finds one by its identity. -/

namespace GraphQuery

open GraphQuery.Binding GraphQuery.Cypher GraphQuery.Schema GraphQuery.Text

/-- The placeholder of related nodes under a name. -/
def relatedPlaceholder (name : String) : String := "with_" ++ lowercase (bindingName name)

/-- Binds the values of related nodes: first the identities to attach, and then the properties of
each new node. -/
def RelatedNodes.allocate (w : WriteFrame) (name : String) (r : RelatedNodes)
    (taken : Properties) : RelatedCreation × Properties :=
  let placeholder := relatedPlaceholder name
  let (attached, taken) :=
    if r.ids.isEmpty then ([], taken)
    else GraphQuery.allocate w [(placeholder ++ "_ids", .ofList (r.ids.map .int))] taken
  let (creates, taken) := allocateAll w r.values taken
  (⟨name, placeholder, r.labels, r.relationship, r.direction, creates, attached.head?.map (·.2)⟩, taken)

/-- Binds the values of a request that stands on its own. Its fields are looked at one after
another. -/
def RelatedRequest.allocate (w : WriteFrame) (name : String) (r : RelatedRequest)
    (taken : Properties) : Result (RelatedCreation × Properties) := do
  let placeholder := relatedPlaceholder name
  let ids ←
    if r.ids.isTruthy then do (← Result.ofFailure r.ids.members).mapM Build.identity else .ok []
  let (attached, taken) :=
    if r.ids.isTruthy then
      GraphQuery.allocate w [(placeholder ++ "_ids", .ofList (ids.map .int))] taken
    else ([], taken)
  let labels ← Result.ofFailure r.labels.members
  let records ← (← Result.ofFailure r.values.members).mapM fun v => mapEntries v >>= propertiesOf
  let (creates, taken) := allocateAll w records taken
  let creation ← Result.ofChecked (RelatedCreation.ofFields
    [("name", .text name), ("alias", .text placeholder), ("labels", .tuple labels),
      ("relationship", r.relationship), ("direction", r.direction),
      ("creates", .tuple (creates.map fun c => .ofProperties (c.map fun p => (p.1, .text p.2)))),
      ("attach_binding", .ofText? (attached.head?.map (·.2)))])
  return (creation, taken)

/-- Reads a request for related nodes, which may stand on its own. -/
def readRequest (options : Value) : Result (RelatedNodes ⊕ RelatedRequest) :=
  match RelatedRequest.ofValue? options with
  | some request => .ok (.inr request)
  | none => (Result.ofChecked (RelatedNodes.read options)).map .inl

/-- The name under which related nodes are asked for. -/
def relatedName : Value → Result String
  | .text name => .ok name
  | _ => .error (.wrongType "expected string or bytes-like object")

/-- Binds the values of a request that has been read. -/
def allocateRequest (w : WriteFrame) (name : String) (request : RelatedNodes ⊕ RelatedRequest)
    (taken : Properties) : Result (RelatedCreation × Properties) :=
  match request with
  | .inl nodes => .ok (nodes.allocate w name taken)
  | .inr request => request.allocate w name taken

/-- Reads requests for related nodes and binds their values, one after another. -/
def allocateRelated (w : WriteFrame) : List (Value × Value) → (taken : Properties) →
    Result (List RelatedCreation × Properties)
  | [], taken => .ok ([], taken)
  | (key, options) :: rest, taken => do
    let request ← readRequest options
    let name ← relatedName key
    let (creation, taken) ← allocateRequest w name request taken
    let (creations, taken) ← allocateRelated w rest taken
    return (creation :: creations, taken)

/-- The values of the new nodes among requests for related nodes. -/
def requestedValues (requests : List (Value × Value)) : List Value :=
  requests.flatMap fun e =>
    match RelatedRequest.ofValue? e.2 with
    | some r => (r.values.members?.getD []).flatMap fun v => (v.entries?.getD []).map (·.2)
    | none =>
      ((RelatedNodes.read e.2).toOption.map (·.values)).elim [] fun records =>
        records.flatMap fun r => r.map (·.2)

namespace LiveQuery

/-- The statement that creates a node together with related ones, with the values that are written. -/
def createWithStatement (l : LiveQuery) (values related : Value) :
    Result (String × Properties) := do
  let properties ← (mapEntries values).bind propertiesOf
  let frame ← l.writeFrame (properties.map (·.2))
  let (assigned, written) := allocate frame properties []
  let requests ← mapEntries related
  let (creations, written) ← allocateRelated frame requests written
  discard (l.writeFrame (requestedValues requests))
  l.query.ask .grammar writerName
  return (← createWithText l.query assigned creations, written)

/-- Creates a node together with related ones, and gives its record; null if nothing comes back. -/
def createWith (values related : Value) : Exec LiveQuery Value := do
  let l ← get
  let (text, written) ← Exec.ofResult (l.createWithStatement values related)
  let rows ← send Channel.insert text written
  return ((← Exec.ofResult (l.records l.query.entity (rows.take 1))).head?).getD .null

/-- Stores a new entity of a class and gives it with its identity. -/
def createEntity (c : EntityClass) (e : Entity) : Exec LiveQuery Entity := do
  build (Build.target (.entityClass ((← get).registry.ref c)))
  let properties ← Exec.ofResult e.properties
  let id ← insertOne (.ofProperties properties)
  Exec.ofResult (c.assign e "id" id)

/-- The entity of a class with an identity, null if there is none. -/
def fetchEntity (c : EntityClass) (id : Operand) : Exec LiveQuery Value := do
  build (Build.target (.entityClass ((← get).registry.ref c)))
  fetchById id (.tuple [star])

end LiveQuery

end GraphQuery
