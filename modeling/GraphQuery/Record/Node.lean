import GraphQuery.Error
import GraphQuery.Schema.Scalar
import GraphQuery.Text.Split
import GraphQuery.Value.Equality

/-! # Records and edges

A record is a node read back from the database, an edge a relationship read back. Both are checked
when they are made and again whenever one of their fields is assigned. -/

namespace GraphQuery

open GraphQuery.Text GraphQuery.Schema

/-- A record. -/
abbrev Record := RecordData Value

/-- An edge. -/
abbrev Edge := EdgeData Value

/-! ### Relations -/

/-- Relations with one more entry. -/
def putRelation (key v : Value) (relations : Row) : Result Row := do
  Result.ofFailure key.needKey
  return putEntry key v relations

/-- Relations out of a field: their names have to be texts there. -/
def readRelations (v : Value) : Checked Row :=
  (readProperties v).map fun properties => properties.map fun p => (.text p.1, p.2)

/-! ### Records -/

/-- The members of a set of labels one after another: texts in their order. -/
def orderedLabels (labels : List Value) : List Value :=
  match labels.mapM (·.text?) with
  | some names => (sortedNames names).map .text
  | none => labels

/-- Labels of a record as callers give them: nothing, one label, or anything with members. -/
def givenLabels : Value → Result Value
  | .null => .ok (.ofList [])
  | .text s => .ok (.ofList [.text s])
  | .set labels => .ok (.ofList (orderedLabels labels))
  | v => do return .ofList (← Result.ofFailure v.members)

/-- The labels among the fields of a record, ready to be checked. -/
def coerceLabels (fields : Properties) : Result Properties :=
  match lookup? "labels" fields with
  | some v => do return put "labels" (← givenLabels v) fields
  | none => .ok fields

/-- An identity that may be missing. -/
def readIdentity : Value → Checked (Option Int) := readOptional readInteger

namespace Record

/-- The names of the fields of a record. -/
def fieldNames : List String := ["id", "labels", "properties", "relations"]

/-- Checks the fields of a record. -/
def check (fields : Properties) : Checked Record :=
  let id := defaulted fields "id" none readIdentity
  let labels := defaulted fields "labels" [] readTexts
  let properties := defaulted fields "properties" [] readProperties
  let relations := defaulted fields "relations" [] readRelations
  ((id.and labels).and (properties.and relations)).map fun p =>
    ⟨p.1.1, p.1.2, p.2.1, p.2.2, none, none, givenNames fieldNames fields⟩

/-- A record from its fields. -/
def ofFields (fields : Properties) : Result Record := do
  Result.ofChecked (check (← coerceLabels fields))

/-- The first label. -/
def label? (r : Record) : Option String := r.labels.head?

/-- Whether a record has a label. -/
def hasLabel (r : Record) (label : Value) : Bool := label.text?.any r.labels.contains

/-- Attaches related records under a name. -/
def setRelation (r : Record) (name v : Value) : Result Record := do
  return { r with relations := ← putRelation name v r.relations }

/-- The fields of a record by name. -/
def fields (r : Record) : Properties :=
  [("id", .ofInt? r.id), ("labels", .ofTexts r.labels),
    ("properties", .ofProperties r.properties), ("relations", .map r.relations r.relationsMark)]

/-- What can be read of a record by name. -/
def attributes (r : Record) : Properties :=
  r.fields ++ [("label", .ofText? r.label?), ("property_count", .int r.properties.length)]

/-- A record with another field. -/
def withField (r : Record) (name : String) (v : Value) : Result Record :=
  match name with
  | "id" => do
    return { r with id := ← Result.ofChecked (Checked.inside name (readIdentity v)) }
  | "labels" => do
    let v ← givenLabels v
    return { r with labels := ← Result.ofChecked (Checked.inside name (readTexts v)) }
  | "properties" => do
    return { r with properties := ← Result.ofChecked (Checked.inside name (readProperties v)) }
  | "relations" => do
    let relations ← Result.ofChecked (Checked.inside name (readRelations v))
    return { r with relations, relationsMark := none }
  | "label" | "property_count" => .error (.noAttribute (.record r) name)
  | _ => .error (.invalid [⟨.unknownAttribute, [name], none⟩])

/-- Assigns a field. -/
def assign (r : Record) (name : String) (v : Value) : Result Record := do
  return { ← r.withField name v with given := withName name r.given }

end Record

/-! ### Edges -/

/-- The type of a relationship: blanks around it do not count, and something has to be left. -/
def readRelationshipType (v : Value) : Checked String := do
  let name ← readName v
  let type := trim name
  if type = "" then .refuse "Value error, A relationship needs a type" else .ok type

namespace Edge

/-- The names of the fields of an edge. -/
def fieldNames : List String := ["id", "start_id", "end_id", "relationship_type", "properties"]

/-- Checks the fields of an edge. -/
def check (fields : Properties) : Checked Edge :=
  let id := defaulted fields "id" none readIdentity
  let start := defaulted fields "start_id" none readIdentity
  let stop := defaulted fields "end_id" none readIdentity
  let type := required fields "relationship_type" readRelationshipType
  let properties := defaulted fields "properties" [] readProperties
  (((id.and start).and (stop.and type)).and properties).map fun p =>
    ⟨p.1.1.1, p.1.1.2, p.1.2.1, p.1.2.2, p.2, none, givenNames fieldNames fields⟩

/-- An edge from its fields. -/
def ofFields (fields : Properties) : Result Edge := Result.ofChecked (check fields)

/-- Whether an edge starts and ends at the same node. -/
def isLoop (e : Edge) : Bool := e.startId.isSome && e.startId == e.endId

/-- Whether a node is one of the ends. -/
def connects (e : Edge) (node : Value) : Bool :=
  node.isIn [.ofInt? e.startId, .ofInt? e.endId]

/-- The fields of an edge by name. -/
def fields (e : Edge) : Properties :=
  [("id", .ofInt? e.id), ("start_id", .ofInt? e.startId), ("end_id", .ofInt? e.endId),
    ("relationship_type", .text e.type), ("properties", .ofProperties e.properties)]

/-- What can be read of an edge by name. -/
def attributes (e : Edge) : Properties :=
  e.fields ++
    [("property_count", .int e.properties.length), ("is_self_loop", .bool e.isLoop)]

/-- An edge with another field. -/
def withField (e : Edge) (name : String) (v : Value) : Result Edge :=
  let identity := Result.ofChecked (Checked.inside name (readIdentity v))
  match name with
  | "id" => do return { e with id := ← identity }
  | "start_id" => do return { e with startId := ← identity }
  | "end_id" => do return { e with endId := ← identity }
  | "relationship_type" => do
    return { e with type := ← Result.ofChecked (Checked.inside name (readRelationshipType v)) }
  | "properties" => do
    return { e with properties := ← Result.ofChecked (Checked.inside name (readProperties v)) }
  | "property_count" | "is_self_loop" => .error (.noAttribute (.edge e) name)
  | _ => .error (.invalid [⟨.unknownAttribute, [name], none⟩])

/-- Assigns a field. -/
def assign (e : Edge) (name : String) (v : Value) : Result Edge := do
  return { ← e.withField name v with given := withName name e.given }

end Edge

end GraphQuery
