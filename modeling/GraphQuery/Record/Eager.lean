import GraphQuery.Exec
import GraphQuery.Record.Hydration
import GraphQuery.Value.Mark

/-! # Attaching related records

`attachRelated` attaches the related records in the rows of a result to the parents they belong to.
Parent and row are matched by identity.

A parent may stand at several places, and a copy of a record has the very map of relations that the
record has: `setParent` puts what is attached at one place wherever that map is known. -/

namespace GraphQuery

open GraphQuery.Text

/-- Attaches a relation to a record or an entity. -/
def setRelation (parent name v : Value) : Result Value :=
  match parent with
  | .record r => (Record.setRelation r name v).map .record
  | .entity e => (Entity.setRelation e name v).map .entity
  | .map es _ => .ok (.ofPairs (putEntry name v es))
  | v => .error (.wrongType ("'" ++ v.typeName ++ "' object does not support item assignment"))

/-- The relation of a record or an entity; null if there is none. -/
def getRelation (parent name : Value) : Value :=
  match parent with
  | .record r => (entryAt? name r.relations).getD .null
  | .entity e => (entryAt? name e.relations).getD .null
  | v => ((v.entries?.bind (entryAt? name)).getD .null)

/-- The mark of the map of relations of a record or an entity. -/
def Value.relationsMark? (v : Value) : Option Nat := v.relations?.bind Value.mark?

/-- The relations of a record or an entity. -/
def Value.relationRow (v : Value) : Row := (v.relations?.bind Value.entries?).getD []

/-- A record or an entity with other relations. -/
def Value.withRelations (relations : Row) : Value → Value
  | .record r => .record { r with relations }
  | .entity e => .entity { e with relations }
  | v => v

/-- Whether two values have one and the same map of relations. -/
def Value.sharesRelations (v w : Value) : Bool := isOneMark v.relationsMark? w.relationsMark?

/-- Puts what a parent has become at its place, and its relations wherever else they are known. -/
def setParent (place : Nat) (parent : Value) (parents : List Value) : List Value :=
  (parents.map fun v =>
    if parent.sharesRelations v then v.withRelations parent.relationRow else v).set place parent

/-- The place of a parent with its identity. -/
abbrev ParentIndex := List (Value × Nat)

/-- Notes the place of an identity; the last parent with an identity is the one that counts. -/
def notePlace (identity : Value) (place : Nat) : ParentIndex → ParentIndex
  | [] => [(identity, place)]
  | (k, p) :: rest =>
    if identity.same k then (k, place) :: rest else (k, p) :: notePlace identity place rest

/-- What a parent holds before its rows are seen. -/
def initialRelation (many : Bool) : Value := if many then .ofList [] else .null

/-- Gives the parents from a place on their initial relation, and notes their places. -/
def startParents (relation : Value) (many : Bool) : (place count : Nat) → ParentIndex →
    Exec (List Value) ParentIndex
  | _, 0, index => pure index
  | place, count + 1, index => do
    let parents ← get
    let parent := (parents[place]?).getD .null
    let identity ← Exec.ofResult (identityOf parent)
    if identity.isNull then startParents relation many (place + 1) count index
    else
      Exec.ofResult (Result.ofFailure identity.needKey)
      let started ← Exec.ofResult (setRelation parent relation (initialRelation many))
      set (setParent place started parents)
      startParents relation many (place + 1) count (notePlace identity place index)

/-- Whether a list holds a record with this identity. -/
def holdsIdentity (identity : Value) : List Value → Result Bool
  | [] => .ok false
  | v :: rest => do
    if (← identityOf v).same identity then return true else holdsIdentity identity rest

/-- A list of related records with one more, unless its identity is there. -/
def addRelated (current : List Value) (related : Value) : Result (List Value) := do
  let identity ← identityOf related
  return (if ← holdsIdentity identity current then current else current ++ [related])

/-- The members of a relation that is a list. -/
def relatedList (parent relation : Value) : List Value :=
  match getRelation parent relation with
  | .list xs _ => xs
  | _ => []

/-- The relation of a parent after one more related record. -/
def nextRelation (parent relation related : Value) (many : Bool) : Result Value :=
  if many then do return .ofList (← addRelated (relatedList parent relation) related)
  else .ok related

/-- Attaches the related records of pairs to their parents. -/
def attachPairs (relation : Value) (many : Bool) (index : ParentIndex) :
    List (Value × Value) → Exec (List Value) Unit
  | [] => pure ()
  | (parent, related) :: rest => do
    let identity ← Exec.ofResult (identityOf parent)
    Exec.ofResult (Result.ofFailure identity.needKey)
    match index.find? fun e => identity.same e.1, related with
    | none, _ | _, .null => attachPairs relation many index rest
    | some (_, place), related =>
      let parents ← get
      let owner := (parents[place]?).getD .null
      let v ← Exec.ofResult (nextRelation owner relation related many)
      let owner ← Exec.ofResult (setRelation owner relation v)
      set (setParent place owner parents)
      attachPairs relation many index rest

/-- Attaches the related records in the rows of a result to the parents in the state. With `many` a
parent gets a list without repetitions, otherwise the last related record. A row may hold a parent, so
`rows` gives the rows as they are when the parents are what it is told. -/
def attachRelated (registry : Registry) (rows : List Value → Result (List Value))
    (relation parentColumn relatedColumn : Value) (many : Bool) : Exec (List Value) Unit := do
  let parents ← get
  let index ← startParents relation many 0 parents.length []
  let parents ← get
  let pairs ← Exec.ofResult ((rows parents).bind (registry.pairs parentColumn relatedColumn))
  attachPairs relation many index pairs

end GraphQuery
