import GraphQuery.Query.Operator
import GraphQuery.Schema.Scalar

/-! # Related nodes of a new node

A node can be created together with related ones.

* `RelatedNodes` is what a caller asks for: nodes to create, and nodes to attach by identity.
* `RelatedRequest` is the same as something on its own, which can be assigned anything later.
* `RelatedCreation` is the same with the names under which the values are bound. -/

namespace GraphQuery

open GraphQuery.Schema

/-- Related nodes that a caller asks for. -/
structure RelatedNodes where
  labels : List String
  relationship : String
  direction : Direction
  values : List Properties
  ids : List Int
deriving Repr

/-- A request for related nodes that stands on its own. Its fields can be assigned anything. -/
structure RelatedRequest where
  labels : Value
  relationship : Value
  direction : Value
  values : Value
  ids : Value
deriving Repr

/-- Related nodes whose values are bound: for each new node the bindings of its properties, and the
binding of the identities to attach. -/
structure RelatedCreation where
  name : String
  placeholder : String
  labels : List String
  relationship : String
  direction : Direction
  creates : List (List (String × String))
  attach : Option String
deriving Repr

/-- A text on its own stands for a list of one. -/
def listOfText : Value → Value
  | .text s => .ofList [.text s]
  | v => v

/-- A map on its own stands for a list of one. -/
def listOfMap : Value → Value
  | .map es _ => .ofList [.ofPairs es]
  | v => v

/-- An integer or a text on its own stands for a list of one. -/
def listOfIdentity : Value → Value
  | .int n => .ofList [.int n]
  | .bool b => .ofList [.bool b]
  | .text s => .ofList [.text s]
  | v => v

namespace RelatedNodes

/-- Checks the fields of a request for related nodes. -/
def ofFields (fields : Properties) : Checked RelatedNodes :=
  let labels := required fields "labels" fun v =>
    readLimitedList readText (some 1) none (listOfText v)
  let relationship := required fields "relationship" readName
  let direction := defaulted fields "direction" .outgoing readDirection
  let values := defaulted fields "values" [] fun v =>
    readList readProperties .listType (listOfMap v)
  let ids := defaulted fields "ids" [] fun v => readList readInteger .listType (listOfIdentity v)
  ((labels.and relationship).and (direction.and (values.and ids))).map fun p =>
    ⟨p.1.1, p.1.2, p.2.1, p.2.2.1, p.2.2.2⟩

/-- A request as something on its own. -/
def request (r : RelatedNodes) : RelatedRequest :=
  ⟨.ofTexts r.labels, .text r.relationship, .text r.direction.name,
    .ofList (r.values.map .ofProperties), .ofList (r.ids.map .int)⟩

/-- Reads a request for related nodes. -/
def read (v : Value) : Checked RelatedNodes :=
  match v.entries? with
  | some entries => ofFields (textEntries entries)
  | none => .fail .modelType

end RelatedNodes

namespace RelatedRequest

/-- The name of the kind of such requests. -/
def kindName : String := "RelatedNodes"

/-- The fields of a request by name. -/
def fields (r : RelatedRequest) : Properties :=
  [("labels", r.labels), ("relationship", r.relationship), ("direction", r.direction),
    ("values", r.values), ("ids", r.ids)]

/-- Assigns a field, which is not checked. -/
def assign (r : RelatedRequest) (name : String) (v : Value) : Result RelatedRequest :=
  match name with
  | "labels" => .ok { r with labels := v }
  | "relationship" => .ok { r with relationship := v }
  | "direction" => .ok { r with direction := v }
  | "values" => .ok { r with values := v }
  | "ids" => .ok { r with ids := v }
  | _ =>
    .error (.failure (.value ("\"" ++ kindName ++ "\" object has no field \"" ++ name ++ "\"")))

/-- The request that a value is, by its fields. -/
def ofValue? : Value → Option RelatedRequest
  | .object ⟨_, kind, some [.tuple [_, labels], .tuple [_, relationship], .tuple [_, direction],
      .tuple [_, values], .tuple [_, ids]], _, _⟩ =>
    if kind = kindName then some ⟨labels, relationship, direction, values, ids⟩ else none
  | _ => none

/-- A request is found in its fields. -/
example (r : RelatedRequest) (ref : ObjectRef) :
    ofValue? (.object ⟨ref, kindName, some (r.fields.map fun f => Value.fieldPair f.1 f.2), none,
      none⟩) = some r := rfl

end RelatedRequest

/-- Checks the fields of related nodes whose values are bound. -/
def RelatedCreation.ofFields (fields : Properties) : Checked RelatedCreation :=
  let name := required fields "name" readText
  let placeholder := required fields "alias" readText
  let labels := required fields "labels" (readList readText .tupleType)
  let relationship := required fields "relationship" readText
  let direction := defaulted fields "direction" .outgoing readPlainDirection
  let creates := defaulted fields "creates" [] (readList readAssignments .tupleType)
  let attach := defaulted fields "attach_binding" none (readOptional readText)
  (((name.and placeholder).and (labels.and relationship)).and
    (direction.and (creates.and attach))).map fun p =>
      ⟨p.1.1.1, p.1.1.2, p.1.2.1, p.1.2.2, p.2.1, p.2.2.1, p.2.2.2⟩

end GraphQuery
