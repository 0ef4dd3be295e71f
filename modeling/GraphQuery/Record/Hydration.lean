import GraphQuery.Record.Entity
import GraphQuery.Value.Equality

/-! # From driver values to records

* `parseIdentity` reads the integer identity at the end of an element id.
* `toRecord` turns driver nodes, relationships and paths into records, inside lists and maps too.
* `Registry.hydrate` turns a record into an entity, of a given class or of the class for its labels.
* `Registry.records` does this for the rows of a result. -/

namespace GraphQuery

open GraphQuery.Text GraphQuery.Number

/-! ### Identities -/

/-- Whether a text is made of digits after any number of minus signs. -/
def isIdentityTail (cs : List Char) : Bool :=
  let digits := cs.dropWhile (· == '-')
  !digits.isEmpty && digits.all isDigit

/-- The integer identity in an element id: what stands after the last colon, if it is made of
digits. -/
def parseIdentity (elementId : Value) : Result Value :=
  match elementId with
  | .null => .ok .null
  | .int n => .ok (.int n)
  | .bool b => .ok (.bool b)
  | v =>
    let tail := afterLast ':' v.plainText.toList
    if isIdentityTail tail then do
      return .int (← Result.ofFailure (Value.text (String.ofList tail)).toInteger)
    else .ok .null

/-- The identity of a driver value: the one in its element id, or else the older integer one. -/
def driverIdentity (elementId legacyId : Value) : Result Value := do
  let identity ← parseIdentity elementId
  return (if identity.isNull then legacyId else identity)

/-- The identity of anything that has one; null for everything else. -/
def identityOf : Value → Result Value
  | .node n => driverIdentity n.elementId n.legacyId
  | .link l => driverIdentity l.elementId l.legacyId
  | .record r => .ok (.ofInt? r.id)
  | .edge e => .ok (.ofInt? e.id)
  | .entity e => .ok e.id
  | _ => .ok .null

/-! ### Records -/

/-- A driver node as a record. -/
def recordOfNode (n : NodeData Value) : Result Record := do
  let id ← driverIdentity n.elementId n.legacyId
  Record.ofFields [("id", id), ("labels", .set (n.labels.map .text)),
    ("properties", .ofProperties n.properties)]

/-- A node of a path as a record; one that is unknown has no labels to read. -/
def recordOfPathNode : Option (NodeData Value) → Result Record
  | some n => recordOfNode n
  | none => .error (.noAttribute .null "labels")

/-- The identity of an end of a relationship. -/
def endIdentity : Option (NodeData Value) → Result Value
  | none => .ok .null
  | some n => driverIdentity n.elementId n.legacyId

/-- A driver relationship as an edge. -/
def edgeOfLink (l : LinkData Value) : Result Edge := do
  let id ← driverIdentity l.elementId l.legacyId
  let start ← endIdentity l.start
  let stop ← endIdentity l.stop
  Edge.ofFields [("id", id), ("start_id", start), ("end_id", stop),
    ("relationship_type", .text l.type), ("properties", .ofProperties l.properties)]

mutual
/-- A driver value as records, through lists and maps. -/
def toRecord : Value → Result Value
  | .node n => (recordOfNode n).map .record
  | .link l => (edgeOfLink l).map .edge
  | .path nodes links => do
    let nodes ← nodes.mapM recordOfPathNode
    let links ← links.mapM edgeOfLink
    return .ofProperties [("nodes", .ofList (nodes.map .record)),
      ("relationships", .ofList (links.map .edge))]
  | .list xs _ | .tuple xs => do return .ofList (← toRecords xs)
  | .map es _ => do return .ofPairs (← entriesToRecords es)
  | v => .ok v
/-- Driver values as records. -/
def toRecords : List Value → Result (List Value)
  | [] => .ok []
  | v :: vs => do return (← toRecord v) :: (← toRecords vs)
/-- The entries of a map as records. -/
def entriesToRecords : List (Value × Value) → Result (List (Value × Value))
  | [] => .ok []
  | (k, v) :: es => do return (k, ← toRecord v) :: (← entriesToRecords es)
end

/-! ### Entities -/

namespace Registry

/-- The class of a record: the chosen one, or else the one for its labels. An entity stands for its
class. -/
def classFor? (r : Registry) (chosen : Value) (labels : List String) : Result (Option EntityClass) :=
  match chosen with
  | .entityClass c => .ok (r.find? c.id)
  | .entity e => .ok (r.find? e.entityClass)
  | v =>
    if v.isTruthy then .error (.noAttribute v "from_node")
    else .ok (r.forLabels? (labels.map .text))

/-- A record as an entity, where there is a class for it. Any other value stays as it is. -/
def hydrate (r : Registry) (chosen : Value) : Value → Result Value
  | .record record => do
    match ← r.classFor? chosen record.labels with
    | some c => (c.ofRecord record).map .entity
    | none => return .record record
  | v => .ok v

/-- The name of a column, without the primary node in front of it. The name of that node is as long
as it says itself. -/
def shortName (primary key : Value) : Result Value :=
  if !primary.isTruthy then .ok key
  else
    match key with
    | .text s =>
      if (primary.plainText ++ ".").toList.isPrefixOf s.toList then do
        let size ← Result.ofFailure primary.size
        return .text (String.ofList (s.toList.drop (size + 1)))
      else .ok key
    | .bytes _ => .error (.wrongType "startswith first arg must be bytes, not str")
    | v => .error (.noAttribute v "startswith")

/-- The columns of a row, each as a record under its short name. A node under the primary name is
hydrated into the chosen class, any other one by its labels. -/
def columns (r : Registry) (primary : Value) (chosen : Value) : Row → Row →
    Result Row
  | done, [] => .ok done
  | done, (key, v) :: rest => do
    let v ← toRecord v
    let v ← r.hydrate (if key.same primary then chosen else .null) v
    let name ← shortName primary key
    columns r primary chosen (putEntry name v done) rest

/-- The record of a row. A row that holds a single node is that node. -/
def recordOfRow (r : Registry) (primary : Value) (chosen : Value) (row : Row) :
    Result Value := do
  match row with
  | [(_, v)] =>
    match ← toRecord v with
    | .record record => r.hydrate chosen (.record record)
    | _ => (r.columns primary chosen [] row).map .ofPairs
  | _ => (r.columns primary chosen [] row).map .ofPairs

/-- The entries of a row. -/
def rowEntries (row : Value) : Result Row :=
  match row.entries? with
  | some entries => .ok entries
  | none => .error (.noAttribute row "items")

/-- The entries of a row whose size is asked for first. -/
def sizedEntries (row : Value) : Result Row := do
  discard (Result.ofFailure row.size)
  rowEntries row

/-- The records of a result, one for each row. -/
def records (r : Registry) (primary : Value) (chosen : Value)
    (rows : List Value) : Result (List Value) :=
  rows.mapM fun row => do r.recordOfRow primary chosen (← sizedEntries row)

/-- Adds a value to the list that is kept under a key. -/
def appendAt (key v : Value) : List (Value × List Value) → List (Value × List Value)
  | [] => [(key, [v])]
  | (k, vs) :: rest => if key.same k then (k, vs ++ [v]) :: rest else (k, vs) :: appendAt key v rest

/-- Adds the columns of a row to their lists. -/
def collectRow : List (Value × List Value) → Row → Result (List (Value × List Value))
  | lists, [] => .ok lists
  | lists, (key, v) :: rest => do collectRow (appendAt key (← toRecord v) lists) rest

/-- Adds the columns of all rows to their lists. -/
def collectRows : List (Value × List Value) → List Value → Result (List (Value × List Value))
  | lists, [] => .ok lists
  | lists, row :: rest => do collectRows (← collectRow lists (← rowEntries row)) rest

/-- The columns of a result: under each name the values of all rows, in the order of the rows. -/
def byColumn (rows : List Value) : Result Value := do
  return .ofPairs ((← collectRows [] rows).map fun c => (c.1, .ofList c.2))

/-- The pair of parent and related record in a row; none if there is no parent column. -/
def pairOfRow (r : Registry) (parent related : Value) (row : Value) :
    Result (Option (Value × Value)) := do
  if !(← Result.ofFailure (row.holds parent)) then return none
  else
    let v ← Result.ofFailure (row.item parent)
    let parentRecord ← r.hydrate .null (← toRecord v)
    let row ← (row.entries?).elim (.error (.noAttribute row "get")) .ok
    Result.ofFailure related.needKey
    match (entryAt? related row).getD .null with
    | .null => return some (parentRecord, .null)
    | w => return some (parentRecord, ← r.hydrate .null (← toRecord w))

/-- The pairs of parent and related record in the rows of a result. -/
def pairs (r : Registry) (parent related : Value) : List Value → Result (List (Value × Value))
  | [] => .ok []
  | row :: rest => do
    let pair ← r.pairOfRow parent related row
    return pair.toList ++ (← r.pairs parent related rest)

end Registry

end GraphQuery
