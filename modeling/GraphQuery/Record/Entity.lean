import GraphQuery.Record.Node
import GraphQuery.Schema.Field

/-! # Entities and their classes

An `EntityClass` declares the fields of typed records and the labels under which their nodes are
stored; undeclared properties are kept beside them. The `Registry` holds the classes in the order of
their definition.

* `Registry.define` adds a class, `Registry.relabel` gives one other labels.
* `Registry.forLabel?` and `Registry.forLabels?` find the class of a node by its labels.
* `Registry.make` checks the fields of an entity. -/

namespace GraphQuery

open GraphQuery.Schema

/-- An entity. -/
abbrev Entity := EntityData Value

/-- A class of entities. `fields` holds the inherited ones too; `labels` are its own labels, if it
has some. Classes are looked through in the order of their ranks. -/
structure EntityClass where
  id : ClassId
  name : String
  base : Option ClassId
  fields : List Field
  labels : Option (List Value)
  isRegistered : Bool
  rank : Int

/-- The rank of the first class. -/
def firstRank : Int := 1000

/-- The name that no class of its own is registered under. -/
def rootClassName : String := "GraphEntity"

/-- The field that every entity has: the identity of its node. -/
def identityField : Field := ⟨"id", .optional .integer, .none, some .null⟩

/-- Declares a field: in the place of an inherited one of that name, or at the end. -/
def declareField (field : Field) : List Field → List Field
  | [] => [field]
  | f :: rest => if f.name = field.name then field :: rest else f :: declareField field rest

/-- All classes in the order of their definition. -/
structure Registry where
  classes : List EntityClass

namespace Registry

/-- The registry without classes. -/
def empty : Registry := ⟨[]⟩

/-- The class with this place in the order. -/
def find? (r : Registry) (id : ClassId) : Option EntityClass := r.classes.find? (·.id == id)

/-- The labels of a class, its own or those of the nearest base that has some, at most `depth`
classes up. -/
def labelsUp (r : Registry) : (depth : Nat) → ClassId → Option (List Value)
  | 0, _ => none
  | depth + 1, id =>
    match r.find? id with
    | none => none
    | some c =>
      match c.labels with
      | some labels => some labels
      | none => c.base.bind (labelsUp r depth)

/-- The labels of a class. -/
def labels? (r : Registry) (id : ClassId) : Option (List Value) := r.labelsUp r.classes.length id

/-- A class as a value. -/
def ref (r : Registry) (c : EntityClass) : ClassRef Value := ⟨c.id, c.name, r.labels? c.id⟩

/-- The fields that a class inherits. -/
def inherited (r : Registry) (base : Option ClassId) : List Field :=
  match base.bind r.find? with
  | some c => c.fields
  | none => [identityField]

/-- Defines a class. Its labels are the given ones, or else its name. -/
def define (r : Registry) (name : String) (base : Option ClassId) (fields : List Field)
    (labels : Option (List Value)) : EntityClass × Registry :=
  let isRoot := name == rootClassName
  let c : EntityClass :=
    { id := ⟨r.classes.length⟩
      name, base
      fields := fields.foldl (fun declared f => declareField f declared) (r.inherited base)
      labels := if isRoot then none else some (labels.getD [.text name])
      isRegistered := !isRoot
      rank := firstRank + r.classes.length }
  (c, ⟨r.classes ++ [c]⟩)

/-- Gives a class other labels. -/
def relabel (r : Registry) (id : ClassId) (labels : List Value) : Registry :=
  ⟨r.classes.map fun c => if c.id = id then { c with labels := some labels } else c⟩

/-- Gives a class another rank. -/
def rerank (r : Registry) (id : ClassId) (rank : Int) : Registry :=
  ⟨r.classes.map fun c => if c.id = id then { c with rank } else c⟩

/-- The labels that a class is given: several, or one, or its name. -/
def chosenLabels (name : String) (label labels : Value) : Result (List Value) :=
  if labels.isTruthy then Result.ofFailure labels.members
  else .ok [if label.isTruthy then label else .text name]

/-! ### Finding the class of a node -/

/-- Whether a class is another one or is derived from it, at most `depth` classes up. -/
def derives (r : Registry) (base : ClassId) : (depth : Nat) → ClassId → Bool
  | 0, _ => false
  | depth + 1, id =>
    id == base || (((r.find? id).bind (·.base)).any (derives r base depth))

/-- Whether a class is another one or is derived from it. -/
def isKindOf (r : Registry) (id base : ClassId) : Bool := r.derives base r.classes.length id

/-- The classes that can be found, with their labels, by rank. -/
def registered (r : Registry) : List (EntityClass × List Value) :=
  ((r.classes.filter (·.isRegistered)).mergeSort fun c d => c.rank ≤ d.rank).map fun c => (c, (r.labels? c.id).getD [])

/-- The class for a label. A class with this label alone wins over classes that have it among
others; of several the earliest is taken. -/
def forLabel? (r : Registry) (label : Value) : Option EntityClass :=
  let candidates := r.registered.filter fun c => label.isIn c.2
  ((candidates.find? fun c => sameList c.2 [label]).or candidates.head?).map (·.1)

/-- Whether two lists hold the same labels. -/
def sameLabels (a b : List Value) : Bool := a.all (·.isIn b) && b.all (·.isIn a)

/-- The class for the labels of a node. A class with exactly these labels wins; otherwise the first
label that has a class decides. -/
def forLabels? (r : Registry) (labels : List Value) : Option EntityClass :=
  if labels.isEmpty then none
  else
    match r.registered.find? fun c => sameLabels c.2 labels with
    | some c => some c.1
    | none => labels.findSome? r.forLabel?

/-- The names of the classes that can be found. -/
def registeredClasses (r : Registry) : List EntityClass := r.registered.map (·.1)

end Registry

/-! ### Making and changing entities -/

namespace EntityClass

/-- The names of the fields that are lists. -/
def listNames (c : EntityClass) : List String :=
  (c.fields.filter fun f => f.type matches .texts).map (·.name)

/-- Checks the fields of an entity. What is not declared is kept as it is. -/
def make (c : EntityClass) (given : Properties) : Checked Entity := do
  let fields ← readFields given c.fields
  let extras := given.filter fun p => !(c.fields.any fun f => f.name == p.1)
  return ⟨c.id, c.name, (lookup? "id" fields).getD .null, fields.filter (·.1 ≠ "id"), extras, [],
    none, none, given.map (·.1)⟩

/-- An entity from its fields. -/
def ofFields (c : EntityClass) (given : Properties) : Result Entity :=
  Result.ofChecked (c.make given)

/-- Names of fields have to be texts. -/
def checkNames : List (Value × Value) → Checked Unit
  | [] => .ok ()
  | (.text _, _) :: rest => checkNames rest
  | (key, _) :: rest =>
    ((Checked.inside (keyStep key) (.fail .keyType : Checked Unit)).and (checkNames rest)).map fun _ => ()

/-- An entity from the entries of a map. -/
def ofEntries (c : EntityClass) (entries : List (Value × Value)) : Result Entity :=
  Result.ofChecked (((c.make (textEntries entries)).and (checkNames entries)).map (·.1))

/-- An entity from a record: its properties, its identity, and its relations. The identity wins over
a property that happens to be called `id`. -/
def ofRecord (c : EntityClass) (r : Record) : Result Entity := do
  let e ← c.ofFields (put "id" (.ofInt? r.id) r.properties)
  return { e with relations := r.relations }

/-- An entity with another field, which is not checked. -/
def withField (c : EntityClass) (e : Entity) (name : String) (v : Value) : Entity :=
  let given := withName name e.given
  if name = "id" then { e with id := v, given }
  else if c.fields.any (·.name == name) then { e with fields := put name v e.fields, given }
  else { e with extras := put name v e.extras, given }

/-- Assigns a field of an entity; a name that is not declared is kept beside the fields. -/
def assign (c : EntityClass) (e : Entity) (name : String) (v : Value) : Result Entity :=
  let given := withName name e.given
  if name = "relations" then .error (.noAttribute (.entity e) name)
  else
    match c.fields.find? (·.name == name) with
    | none => .ok { e with extras := put name v e.extras, given }
    | some field => do
      let v ← Result.ofChecked (Checked.inside name (field.type.read field.limits v))
      return (if name = "id" then { e with id := v, given }
        else { e with fields := put name v e.fields, given })

end EntityClass

namespace Entity

/-- What can be read of an entity by name. -/
def attributes (e : Entity) : Properties :=
  ("relations", .ofPairs e.relations) :: ("id", e.id) :: (e.fields ++ e.extras)

/-- Attaches related records under a name. -/
def setRelation (e : Entity) (name v : Value) : Result Entity := do
  return { e with relations := ← putRelation name v e.relations }

end Entity

mutual
/-- A value with every record, edge, entity and column reference in it as a map. A column reference
cannot be the key of a map after that. -/
def Value.plain : Value → Result Value
  | .list xs _ => do return .ofList (← plainAll xs)
  | .tuple xs => do return .tuple (← plainAll xs)
  | .set xs => do
    let xs ← plainAll xs
    Result.ofFailure (xs.forM (·.needKey))
    return .set xs
  | .map es _ => do return .ofPairs (← plainEntries es)
  | .stream _ _ => .ok (.handle "SerializationIterator")
  | .column c =>
    .ok (.ofPairs [(.text "name", .text c.name), (.text "alias", .ofText? c.placeholder),
      (.text "identity", .bool c.identity)])
  | .record r => plainRecord r
  | .edge e => plainEdge e
  | .entity e => plainEntity e
  | v => .ok v
/-- Values without records in them. -/
def plainAll : List Value → Result (List Value)
  | [] => .ok []
  | v :: vs => do return (← v.plain) :: (← plainAll vs)
/-- Entries of a map without records in them. -/
def plainEntries : List (Value × Value) → Result (List (Value × Value))
  | [] => .ok []
  | (k, v) :: es => do
    let k ← k.plain
    Result.ofFailure k.needKey
    return (k, ← v.plain) :: (← plainEntries es)
/-- Named values without records in them. -/
def plainProperties : List (String × Value) → Result (List (String × Value))
  | [] => .ok []
  | (k, v) :: es => do return (k, ← v.plain) :: (← plainProperties es)
/-- A record as a map. -/
def plainRecord : RecordData Value → Result Value
  | ⟨id, labels, properties, relations, _, _, _⟩ => do
    return .ofProperties [("id", .ofInt? id), ("labels", .ofTexts labels),
      ("properties", .ofProperties (← plainProperties properties)),
      ("relations", .ofPairs (← plainEntries relations))]
/-- An edge as a map. -/
def plainEdge : EdgeData Value → Result Value
  | ⟨id, start, stop, type, properties, _, _⟩ => do
    return .ofProperties [("id", .ofInt? id), ("start_id", .ofInt? start), ("end_id", .ofInt? stop),
      ("relationship_type", .text type),
      ("properties", .ofProperties (← plainProperties properties))]
/-- An entity as a map. -/
def plainEntity : EntityData Value → Result Value
  | ⟨_, _, id, fields, extras, _, _, _, _⟩ => do
    return .ofProperties
      (("id", ← id.plain) :: ((← plainProperties fields) ++ (← plainProperties extras)))
end

/-- The properties that are stored for an entity: all but its identity. -/
def Entity.properties (e : Entity) : Result Properties := plainProperties (e.fields ++ e.extras)

end GraphQuery
