import GraphQuery.Calendar
import GraphQuery.Text.Split
import GraphQuery.Value.Coercion

/-! # Equality, membership and members

`Value.same` is the equality that membership tests and map keys use; `Value.holds` is such a test, and
`Value.item` is what a value holds under a key or at a place.

* Moments, and times of day, with known zones are compared as instants.
* Truth values, integers and doubles are compared by number, so one, one point zero and true agree.
* Lists, tuples and other kinds of collection never agree with one another.
* A list, a map or a record agrees with itself, whatever is in it.
* Two maps agree when they hold the same keys with agreeing values, in any order.
* An object that lives elsewhere agrees with itself, and settings, a page or a clause with one of its
  kind that has the same fields.
* A stream agrees with itself; a series and a handle agree with nothing. -/

namespace GraphQuery

open GraphQuery.Number

/-- The number behind a truth value, an integer or a finite double. -/
def Value.ratio? : Value → Option (Int × Nat)
  | .bool b => some (if b then 1 else 0, 1)
  | .int n => some (n, 1)
  | .double x => if x.isFinite then some x.ratio else none
  | _ => none

/-- Equality of two ratios with positive denominators. -/
def sameRatio (a b : Int × Nat) : Bool := a.1 * b.2 == b.1 * a.2

/-- Equality of numbers; an infinity agrees with itself. -/
def numberSame (a b : Value) : Bool :=
  match a.ratio?, b.ratio? with
  | some x, some y => sameRatio x y
  | none, none =>
    match a, b with
    | .double x, .double y => x == y && x.isInfinite
    | _, _ => false
  | _, _ => false

/-- Whether an object is known by its fields alone. -/
def ObjectRef.isModel : ObjectRef → Bool
  | .config _ | .page _ | .clause _ | .loose => true
  | _ => false

/-- Whether two marks are one and the same. -/
def isOneMark (a b : Option Nat) : Bool := a.isSome && a == b

mutual
/-- Equality of values. -/
def Value.same : Value → Value → Bool
  | .null, .null => true
  | .text s, .text t => s == t
  | .bytes a, .bytes b => a == b
  | .date a, .date b => a == b
  | .moment a, .moment b => a.same b
  | .clock a, .clock b => a.same b
  | .list xs a, .list ys b => isOneMark a b || sameList xs ys
  | .tuple xs, .tuple ys => sameList xs ys
  | .stream _ (some m), .stream _ (some n) => m == n
  | .set xs, .set ys => xs.length == ys.length && sameMembers xs ys
  | .map es a, .map fs b => isOneMark a b || es.length == fs.length && sameEntries es fs
  | .column a, .column b => a == b
  | .node a, .node b => sameNode a b
  | .link a, .link b => sameLink a b
  | .path (n :: _) ls, .path (m :: _) ks => sameEnd n m && sameLinks ls ks
  | .record a, .record b => sameRecord a b
  | .edge a, .edge b => sameEdge a b
  | .entity a, .entity b => sameEntity a b
  | .entityClass a, .entityClass b => a.id == b.id
  | .builtinClass a, .builtinClass b => a == b
  | .object a, .object b => sameObject a b
  | .bool a, v => numberSame (.bool a) v
  | .int a, v => numberSame (.int a) v
  | .double a, v => numberSame (.double a) v
  | _, _ => false
termination_by structural x => x
/-- Equality member by member. -/
def sameList : List Value → List Value → Bool
  | [], [] => true
  | x :: xs, y :: ys => x.same y && sameList xs ys
  | _, _ => false
termination_by structural x => x
/-- Every member of the first list agrees with one of the second. -/
def sameMembers : List Value → List Value → Bool
  | [], _ => true
  | x :: xs, ys => ys.any (fun y => x.same y) && sameMembers xs ys
termination_by structural x => x
/-- Every entry of the first map agrees with one of the second. -/
def sameEntries : List (Value × Value) → List (Value × Value) → Bool
  | [], _ => true
  | (k, v) :: es, fs => fs.any (fun f => k.same f.1 && v.same f.2) && sameEntries es fs
termination_by structural x => x
/-- Every named value of the first table agrees with one of the second. -/
def sameProperties : List (String × Value) → List (String × Value) → Bool
  | [], _ => true
  | (k, v) :: es, fs => fs.any (fun f => k == f.1 && v.same f.2) && sameProperties es fs
termination_by structural x => x
/-- Equality of driver nodes: the element ids decide. -/
def sameNode : NodeData Value → NodeData Value → Bool
  | ⟨a, _, _, _⟩, ⟨b, _, _, _⟩ => a.same b
termination_by structural x => x
/-- Equality of ends of relationships, of which one may be unknown. -/
def sameEnd : Option (NodeData Value) → Option (NodeData Value) → Bool
  | none, none => true
  | some a, some b => sameNode a b
  | _, _ => false
termination_by structural x => x
/-- Equality of driver relationships: the element ids and the types decide. -/
def sameLink : LinkData Value → LinkData Value → Bool
  | ⟨a, _, s, _, _, _⟩, ⟨b, _, t, _, _, _⟩ => a.same b && s == t
termination_by structural x => x
/-- Equality of the relationships of two paths. -/
def sameLinks : List (LinkData Value) → List (LinkData Value) → Bool
  | [], [] => true
  | a :: as, b :: bs => sameLink a b && sameLinks as bs
  | _, _ => false
termination_by structural x => x
/-- Equality of records: identity, labels, properties and relations. -/
def sameRecord : RecordData Value → RecordData Value → Bool
  | ⟨ia, la, pa, ra, _, ma, _⟩, ⟨ib, lb, pb, rb, _, mb, _⟩ =>
    isOneMark ma mb || ia == ib && la == lb && pa.length == pb.length && sameProperties pa pb &&
      ra.length == rb.length && sameEntries ra rb
termination_by structural r => r
/-- Equality of edges: identities, type and properties. -/
def sameEdge : EdgeData Value → EdgeData Value → Bool
  | ⟨ia, sa, ea, ta, pa, ma, _⟩, ⟨ib, sb, eb, tb, pb, mb, _⟩ =>
    isOneMark ma mb || ia == ib && sa == sb && ea == eb && ta == tb && pa.length == pb.length && sameProperties pa pb
termination_by structural e => e
/-- Equality of typed records: class, identity, fields, extras and relations. -/
def sameEntity : EntityData Value → EntityData Value → Bool
  | ⟨ca, _, ia, fa, xa, ra, _, ma, _⟩, ⟨cb, _, ib, fb, xb, rb, _, mb, _⟩ =>
    isOneMark ma mb || ca == cb && ia.same ib && fa.length == fb.length && sameProperties fa fb &&
      xa.length == xb.length && sameProperties xa xb && ra.length == rb.length &&
      sameEntries ra rb
termination_by structural x => x
/-- Equality of objects: one and the same, or the same kind of settings with the same fields. -/
def sameObject : ObjectData Value → ObjectData Value → Bool
  | ⟨a, ka, ma, _, _⟩, ⟨b, kb, mb, _, _⟩ =>
    (a == b && a != .loose) || (a.isModel && b.isModel && ka == kb && sameMembers? ma mb)
termination_by structural x => x
/-- Equality of members, where there are any. -/
def sameMembers? : Option (List Value) → Option (List Value) → Bool
  | some xs, some ys => sameList xs ys
  | _, _ => false
termination_by structural x => x
end

/-- The nodes along relationships that follow each other: at each one the way goes on to its other
end, which may be unknown. -/
def nodesAlong (here : Option (NodeData Value)) :
    List (LinkData Value) → Except Failure (List (Option (NodeData Value)))
  | [] => .ok [here]
  | l :: rest => do
    let next ←
      if sameEnd l.start here then .ok l.stop
      else if sameEnd l.stop here then .ok l.start
      else .error (.value "the relationship does not start or end at the last node")
    return here :: (← nodesAlong next rest)

/-- Whether a list holds a value that agrees with `v`. -/
def Value.isIn (v : Value) (xs : List Value) : Bool := xs.any (fun x => v.same x)

mutual
/-- Whether a value may be a key of a map. What can still change may not. -/
def Value.isKey : Value → Bool
  | .list _ _ | .set _ | .map _ _ | .record _ | .edge _ | .entity _ => false
  | .object o => isKeyObject o
  | .tuple xs => areKeys xs
  | _ => true
/-- Whether every one of some values may be a key. -/
def areKeys : List Value → Bool
  | [] => true
  | v :: vs => v.isKey && areKeys vs
/-- Whether an object may be a key: settings and pages may not, and a clause may if its fields
may. -/
def isKeyObject : ObjectData Value → Bool
  | ⟨.config _, _, _, _, _⟩ | ⟨.page _, _, _, _, _⟩ => false
  | ⟨.clause _, _, members, _, _⟩ | ⟨.loose, _, members, _, _⟩ => areKeys? members
  | _ => true
/-- Whether members may be keys, where there are any. -/
def areKeys? : Option (List Value) → Bool
  | some xs => areKeys xs
  | none => true
end

/-- Refuses a value that may not be a key. -/
def Value.needKey (v : Value) : Except Failure Unit :=
  if v.isKey then .ok () else .error (.type ("unhashable type: '" ++ v.typeName ++ "'"))

/-- Whether members are found by their hash, so that only a value that may be a key can be asked
for. -/
def Value.isHashed : Value → Bool
  | .set _ => true
  | .object o => o.size.isSome
  | v => v.entries?.isSome

/-- Whether a number is one of some bytes. -/
def holdsByte (bs : List UInt8) (n : Int) : Except Failure Bool :=
  if 0 ≤ n ∧ n < 256 then .ok (bs.any fun b => (b.toNat : Int) == n)
  else .error (.value "byte must be in range(0, 256)")

/-- Whether a value holds another one: a map among its keys, a text or bytes as a part, any other
collection among its members. A set can be asked for a set, and holds none. -/
def Value.holds (whole part : Value) : Except Failure Bool :=
  match whole, part with
  | .text t, .text s => .ok (Text.splitAtLastText s.toList t.toList).isSome
  | .text _, v => .error (.type ("'in <string>' requires string as left operand, not " ++ v.typeName))
  | .bytes bs, .bytes cs => .ok ((List.range (bs.length + 1)).any fun n => cs.isPrefixOf (bs.drop n))
  | .bytes bs, .int n => holdsByte bs n
  | .bytes bs, .bool b => holdsByte bs (if b then 1 else 0)
  | .bytes _, v => .error (.type ("a bytes-like object is required, not '" ++ v.typeName ++ "'"))
  | .set _, .set _ => .ok false
  | whole, part =>
    match whole.members? with
    | some members => do
      if whole.isHashed then part.needKey
      return part.isIn members
    | none => .error (.type ("argument of type '" ++ whole.typeName ++ "' is not iterable"))

/-- A stream after it has been searched for a member: what stands behind it is left. -/
def streamAfter (part : Value) (members : List Value) : List Value :=
  (members.dropWhile fun v => !part.same v).drop 1

/-- A value after it has been searched for a member: a stream is used up to there. -/
def Value.afterSearch (whole part : Value) : Value :=
  match whole with
  | .stream xs _ => .ofStream (streamAfter part xs)
  | v => v

/-- The value stored under a key of a map. -/
def entryAt? (key : Value) (entries : List (Value × Value)) : Option Value :=
  (entries.find? fun e => key.same e.1).map (·.2)

/-- Stores an entry of a map: in the place of its key if there is one, at the end otherwise. -/
def putEntry (key value : Value) : List (Value × Value) → List (Value × Value)
  | [] => [(key, value)]
  | (k, v) :: rest => if key.same k then (k, value) :: rest else (k, v) :: putEntry key value rest

/-- A map from entries that may repeat a key: the first place and the last value count. -/
def ofEntries (entries : List (Value × Value)) : List (Value × Value) :=
  entries.foldl (fun t e => putEntry e.1 e.2 t) []

/-- The entry that a pair stands for. -/
def entryOfPair (pair : Value) : Except Failure (Value × Value) :=
  match pair.members? with
  | some [key, v] => do
    key.needKey
    return (key, v)
  | some _ => .error (.value "dictionary update sequence element has the wrong length; 2 is required")
  | none => .error (.type "cannot convert dictionary update sequence element to a sequence")

/-- The entries of a new map that is made of a value: those of a map, or pairs of keys and values. -/
def Value.toEntries (v : Value) : Except Failure (List (Value × Value)) :=
  match v.entries? with
  | some entries => .ok entries
  | none => do return ofEntries (← (← v.members).mapM entryOfPair)

example : Value.same (.bool true) (.int 1) = true := by decide
example : Value.same (.ofList [.int 1]) (.tuple [.int 1]) = false := by decide

end GraphQuery

/-! ### Members by place or key

`Value.item` is what a value holds under a key: the entry of a map or of the properties of a record,
the member of a list at a place, a character of a text. Places from the end are negative. -/

namespace GraphQuery

/-- The place among `size` members that a number stands for. -/
def placeOf? (size : Nat) (number : Int) : Option Nat :=
  let place := if number < 0 then number + size else number
  if 0 ≤ place ∧ place < size then some place.toNat else none

/-- The member at a place. -/
def memberAt (kind : String) (xs : List Value) (number : Int) : Except Failure Value :=
  match (placeOf? xs.length number).bind fun place => xs[place]? with
  | some v => .ok v
  | none => .error ⟨.outside, kind ++ " index out of range"⟩

/-- The entry under a key that has to be there. -/
def entryUnder (key : Value) (entries : List (Value × Value)) : Except Failure Value := do
  key.needKey
  match entryAt? key entries with
  | some v => return v
  | none => .error ⟨.noKey, key.literal⟩

/-- Named values as entries of a map. -/
def namedEntries (properties : Properties) : List (Value × Value) :=
  properties.map fun p => (.text p.1, p.2)

/-- A place, given as an integer or a truth value. -/
def Value.place? : Value → Option Int
  | .int n => some n
  | .bool b => some (if b then 1 else 0)
  | _ => none

/-- The members of a value that are found by their place. -/
def Value.placed? : Value → Option (List Value)
  | .list xs _ | .tuple xs => some xs
  | .text s => (Value.text s).members?
  | .bytes bs => (Value.bytes bs).members?
  | _ => none

/-- What a value holds under a key. A driver node or relationship gives null for what it lacks. -/
def Value.item (whole key : Value) : Except Failure Value :=
  match whole with
  | .record r => entryUnder key (namedEntries r.properties)
  | .map es _ => entryUnder key es
  | .node n => do
    key.needKey
    return (entryAt? key (namedEntries n.properties)).getD .null
  | .link l => do
    key.needKey
    return (entryAt? key (namedEntries l.properties)).getD .null
  | v =>
    match v.placed?, key.place? with
    | some xs, some number => memberAt v.typeName xs number
    | some _, none => .error (.type (v.typeName ++ " indices must be integers"))
    | none, _ => .error (.type ("'" ++ v.typeName ++ "' object is not subscriptable"))

end GraphQuery
