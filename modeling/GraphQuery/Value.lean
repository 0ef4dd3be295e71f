import GraphQuery.Calendar
import GraphQuery.Number.Double
import GraphQuery.Query.Column

/-! # Values

A `Value` is whatever a caller binds to a parameter, writes to a property, or gets back from a row.

* Scalars: null, truth values, integers of any size, doubles, texts, bytes, dates and times.
* Collections: lists, tuples, sets, maps in insertion order, streams that are read once, and series
  that only turn into a list on request.
* What the driver hands out: `NodeData`, `LinkData` (a relationship), and paths of both.
* What is made of it: `RecordData` (a node read back), `EdgeData` (a relationship read back) and
  `EntityData` (a typed record).
* Column references and classes.
* Objects that live elsewhere and can still change: `ObjectData` says which one it is and how it was
  seen last. What is known by its kind alone is a handle.

The data structures take the type of the values inside them as a parameter. What can change while it
is known in several places, which is a list, a map, a stream, a record, an edge or an entity, may carry
a mark, which tells it apart from others with the same content. -/

namespace GraphQuery

open GraphQuery.Number

/-- A node as the driver hands it out. The labels are a set: their order means nothing. -/
structure NodeData (α : Type) where
  elementId : α
  legacyId : α
  labels : List String
  properties : List (String × α)
deriving Repr

/-- A relationship as the driver hands it out; its ends may be unknown. -/
structure LinkData (α : Type) where
  elementId : α
  legacyId : α
  type : String
  start : Option (NodeData α)
  stop : Option (NodeData α)
  properties : List (String × α)
deriving Repr

/-- A node read back, with its eagerly loaded relations, and the names of the fields that were given
and not left to their defaults. The relations have a mark of their own, since the map
of relations can be known in other places too. -/
structure RecordData (α : Type) where
  id : Option Int
  labels : List String
  properties : List (String × α)
  relations : List (α × α)
  relationsMark : Option Nat
  mark : Option Nat
  given : List String
deriving Repr

/-- A relationship read back. -/
structure EdgeData (α : Type) where
  id : Option Int
  startId : Option Int
  endId : Option Int
  type : String
  properties : List (String × α)
  mark : Option Nat
  given : List String
deriving Repr

/-- The place of an entity class in the order of definition. -/
structure ClassId where
  index : Nat
deriving DecidableEq, Repr

/-- An entity class as a value: its place, its name, and the labels that its nodes have at the
moment. A class that only serves as a base has none. -/
structure ClassRef (α : Type) where
  id : ClassId
  name : String
  labels : Option (List α)
deriving Repr

/-- A typed record: the declared fields in order, then the undeclared ones. -/
structure EntityData (α : Type) where
  entityClass : ClassId
  className : String
  id : α
  fields : List (String × α)
  extras : List (String × α)
  relations : List (α × α)
  relationsMark : Option Nat
  mark : Option Nat
  given : List String
deriving Repr

/-- An object that lives elsewhere, by its kind and number. -/
inductive ObjectRef where
  | table (number : Nat)
  | builder (number : Nat)
  | connection (number : Nat)
  | engine (number : Nat)
  | config (number : Nat)
  | page (number : Nat)
  | grammar (number : Nat)
  | clause (number : Nat)
  | callback (number : Nat)
  /-- an object without a number of its own, which is only looked at -/
  | loose
deriving DecidableEq, Repr

/-- An object that lives elsewhere as it was seen last: the name of its kind, its members if it can
be gone through, its size if it knows one, and its notation if it has one. -/
structure ObjectData (α : Type) where
  ref : ObjectRef
  kind : String
  members : Option (List α)
  size : Option Nat
  text : Option String
deriving Repr

/-- A value bound to a parameter, stored in a property or found in a row. -/
inductive Value where
  | null
  | bool (b : Bool)
  | int (n : Int)
  | double (x : Double)
  | text (s : String)
  | bytes (bs : List UInt8)
  | date (d : Date)
  | moment (m : Moment)
  | clock (c : Clock)
  | list (xs : List Value) (mark : Option Nat)
  | tuple (xs : List Value)
  | set (xs : List Value)
  | stream (xs : List Value) (mark : Option Nat)
  | series (xs : List Value)
  | map (entries : List (Value × Value)) (mark : Option Nat)
  | column (ref : ColumnRef)
  | node (n : NodeData Value)
  | link (l : LinkData Value)
  | path (nodes : List (Option (NodeData Value))) (links : List (LinkData Value))
  | record (r : RecordData Value)
  | edge (e : EdgeData Value)
  | entity (e : EntityData Value)
  | entityClass (c : ClassRef Value)
  | builtinClass (name : String)
  | object (o : ObjectData Value)
  | handle (name : String)
deriving Repr

/-- A row of a result: column names with their values. -/
abbrev Row := List (Value × Value)

/-- Named values in insertion order. -/
abbrev Properties := List (String × Value)

namespace Value

/-- A list that is not told apart from others with the same members. -/
def ofList (xs : List Value) : Value := .list xs none

/-- A map that is not told apart from others with the same entries. -/
def ofPairs (entries : List (Value × Value)) : Value := .map entries none

/-- A stream that is not told apart from others with the same members. -/
def ofStream (xs : List Value) : Value := .stream xs none

/-- A map with texts for keys. -/
def ofProperties (properties : Properties) : Value :=
  .ofPairs (properties.map fun p => (.text p.1, p.2))

/-- An integer, or null where there is none. -/
def ofInt? : Option Int → Value
  | some n => .int n
  | none => .null

/-- A text, or null where there is none. -/
def ofText? : Option String → Value
  | some s => .text s
  | none => .null

/-- A list of texts. -/
def ofTexts (texts : List String) : Value := .ofList (texts.map .text)

/-- The entries of a map-like value: a map, or a driver node or relationship by its properties. -/
def entries? : Value → Option (List (Value × Value))
  | .map es _ => some es
  | .node n => some (n.properties.map fun p => (.text p.1, p.2))
  | .link l => some (l.properties.map fun p => (.text p.1, p.2))
  | _ => none

/-- The name of the type of a value, as messages give it. -/
def typeName : Value → String
  | .null => "NoneType"
  | .bool _ => "bool"
  | .int _ => "int"
  | .double _ => "float"
  | .text _ => "str"
  | .bytes _ => "bytes"
  | .date _ => "date"
  | .moment _ => "datetime"
  | .clock _ => "time"
  | .list _ _ => "list"
  | .tuple _ => "tuple"
  | .set _ => "set"
  | .stream _ _ => "list_iterator"
  | .series _ => "Listish"
  | .map _ _ => "dict"
  | .column _ => "ColumnRef"
  | .node _ => "Node"
  | .link l => l.type
  | .path _ _ => "Path"
  | .record _ => "GraphNode"
  | .edge _ => "GraphEdge"
  | .entity e => e.className
  | .entityClass _ => "GraphEntityMeta"
  | .builtinClass _ => "type"
  | .object o => o.kind
  | .handle name => name

/-- The name of the type of a value with the module of a date or a time in front. -/
def qualifiedTypeName : Value → String
  | .date _ => "datetime.date"
  | .moment _ => "datetime.datetime"
  | .clock _ => "datetime.time"
  | v => v.typeName

end Value

/-! ### Insertion-ordered tables with text keys -/

/-- The value stored under a key. -/
def lookup? {α : Type} (key : String) : List (String × α) → Option α
  | [] => none
  | (k, v) :: rest => if k = key then some v else lookup? key rest

/-- Stores a value: in the place of its key if there is one, at the end otherwise. -/
def put {α : Type} (key : String) (value : α) : List (String × α) → List (String × α)
  | [] => [(key, value)]
  | (k, v) :: rest => if k = key then (k, value) :: rest else (k, v) :: put key value rest

/-- Stores the entries of a table one after another. -/
def putAll {α : Type} (table extra : List (String × α)) : List (String × α) :=
  extra.foldl (fun t e => put e.1 e.2 t) table

theorem lookup?_put {α : Type} (key other : String) (value : α) (table : List (String × α)) :
    lookup? other (put key value table) = if key = other then some value else lookup? other table := by
  induction table with
  | nil => simp [put, lookup?]
  | cons entry rest ih =>
    obtain ⟨k, v⟩ := entry
    by_cases hk : k = key
    · subst hk; by_cases ho : k = other <;> simp [put, lookup?, ho]
    · by_cases ho : k = other
      · subst ho; simp [put, lookup?, hk, Ne.symm hk]
      · simp [put, lookup?, hk, ho, ih]

/-- Storing adds the key at the end unless it is there. -/
theorem keys_put {α : Type} (key : String) (value : α) (table : List (String × α)) :
    (put key value table).map Prod.fst =
      if key ∈ table.map Prod.fst then table.map Prod.fst else table.map Prod.fst ++ [key] := by
  induction table with
  | nil => simp [put]
  | cons entry rest ih =>
    obtain ⟨k, v⟩ := entry
    by_cases hk : k = key
    · simp [put, hk]
    · by_cases hm : key ∈ rest.map Prod.fst
      · simp only [put, if_neg hk, List.map_cons, ih, List.mem_cons, hm, or_true, if_true]
      · simp only [put, if_neg hk, List.map_cons, ih, List.mem_cons, Ne.symm hk, hm,
          or_self, if_false, List.cons_append]

end GraphQuery
