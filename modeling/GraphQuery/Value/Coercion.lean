import GraphQuery.Failure
import GraphQuery.Value.Literal

/-! # Reading values as something else

* `Value.isTruthy` tells what counts as present: zero, nothing and empty collections do not.
* `Value.members?` lists what a value consists of when it is gone through one by one.
* `Value.toInteger` and `Value.toDouble` read a value as a number. -/

namespace GraphQuery

open GraphQuery.Number GraphQuery.Text

namespace Value

/-! ### Presence -/

/-- Whether a value counts as present. -/
def isTruthy : Value → Bool
  | .null => false
  | .bool b => b
  | .int n => n != 0
  | .double x => !x.isZero
  | .text s => s != ""
  | .bytes bs => !bs.isEmpty
  | .list xs _ | .tuple xs | .set xs => !xs.isEmpty
  | .map es _ => !es.isEmpty
  | .node n => !n.properties.isEmpty
  | .link l => !l.properties.isEmpty
  | .path _ links => !links.isEmpty
  | .object o => o.size != some 0
  | _ => true

/-- Whether a value is null. -/
def isNull : Value → Bool
  | .null => true
  | _ => false

/-- The text, if the value is one. -/
def text? : Value → Option String
  | .text s => some s
  | _ => none

/-! ### Members -/

/-- An entry of a record seen as a pair. -/
def fieldPair (name : String) (v : Value) : Value := .tuple [.text name, v]

/-- What a value consists of, in order: the characters of a text, the keys of a map, the fields of a
record. None for a value without parts. -/
def members? : Value → Option (List Value)
  | .text s => some (s.toList.map fun c => .text (String.singleton c))
  | .bytes bs => some (bs.map fun b => .int b.toNat)
  | .list xs _ | .tuple xs | .set xs | .stream xs _ => some xs
  | .map es _ => some (es.map (·.1))
  | .node n => some (n.properties.map fun p => .text p.1)
  | .link l => some (l.properties.map fun p => .text p.1)
  | .path _ links => some (links.map .link)
  | .column c =>
    some [fieldPair "name" (.text c.name), fieldPair "alias" (ofText? c.placeholder),
      fieldPair "identity" (.bool c.identity)]
  | .record r =>
    some [fieldPair "id" (ofInt? r.id), fieldPair "labels" (ofTexts r.labels),
      fieldPair "properties" (ofProperties r.properties), fieldPair "relations" (.ofPairs r.relations)]
  | .edge e =>
    some [fieldPair "id" (ofInt? e.id), fieldPair "start_id" (ofInt? e.startId),
      fieldPair "end_id" (ofInt? e.endId), fieldPair "relationship_type" (.text e.type),
      fieldPair "properties" (ofProperties e.properties)]
  | .entity e =>
    some (fieldPair "id" e.id :: (e.fields ++ e.extras).map fun f => fieldPair f.1 f.2)
  | .object o => o.members
  | _ => none

/-- The members of a value; a value without parts is refused. -/
def members (v : Value) : Except Failure (List Value) :=
  match v.members? with
  | some xs => .ok xs
  | none => .error (.type ("'" ++ v.typeName ++ "' object is not iterable"))

/-- The number of members, for a value that knows it. A stream does not, nor does a record. -/
def size? : Value → Option Nat
  | .text s => some s.length
  | .bytes bs => some bs.length
  | .list xs _ | .tuple xs | .set xs => some xs.length
  | .map es _ => some es.length
  | .node n => some n.properties.length
  | .link l => some l.properties.length
  | .path _ links => some links.length
  | .object o => o.size
  | _ => none

/-- The number of members of a value that has to know it. -/
def size (v : Value) : Except Failure Nat :=
  match v.size? with
  | some n => .ok n
  | none => .error (.type ("object of type '" ++ v.typeName ++ "' has no len()"))

/-- A value after it has been gone through once: a stream is used up then. -/
def secondPass : Value → Value
  | .stream _ _ => .ofStream []
  | v => v

/-! ### Numbers -/

/-- What `Value.toInteger` says of a text that spells no integer. Of a long literal the beginning is
shown. -/
def notAnInteger (cs : List Char) (literal : String) : Failure :=
  match excessDigits? cs with
  | some digits => .value ("Exceeds the limit (" ++ toString maxIntegerDigits ++
      " digits) for integer string conversion: value has " ++ toString digits ++
      " digits; use sys.set_int_max_str_digits() to increase the limit")
  | none =>
    .value ("invalid literal for int() with base 10: " ++ String.ofList (literal.toList.take 200))

/-- The characters behind bytes, one for each. -/
def byteChars (bs : List UInt8) : List Char := bs.map fun b => Char.ofNat b.toNat

/-- Bytes as the characters of a number; a byte outside ASCII belongs to none. -/
def asciiChars? (bs : List UInt8) : Option (List Char) :=
  if bs.all (· < 128) then some (byteChars bs) else none

/-- A value as an integer: doubles lose their fraction, texts and bytes are read. -/
def toInteger : Value → Except Failure Int
  | .bool b => .ok (if b then 1 else 0)
  | .int n => .ok n
  | .double x =>
    if x.isNaN then .error (.value "cannot convert float NaN to integer")
    else if x.isInfinite then .error ⟨.overflow, "cannot convert float infinity to integer"⟩
    else .ok x.truncate
  | .text s => (readInteger? s).elim (.error (notAnInteger s.toList (textLiteral s))) .ok
  | .bytes bs =>
    ((asciiChars? bs).bind readIntegerChars?).elim
      (.error (notAnInteger (byteChars bs) (bytesLiteral bs))) .ok
  | v =>
    .error (.type ("int() argument must be a string, a bytes-like object or a real number, not '" ++
      v.qualifiedTypeName ++ "'"))

/-- A value as a double. -/
def toDouble : Value → Except Failure Double
  | .bool b => .ok (Double.ofIntRatio (if b then 1 else 0) 1)
  | .int n => (Double.ofInt? n).elim (.error ⟨.overflow, "int too large to convert to float"⟩) .ok
  | .double x => .ok x
  | .text s =>
    (Double.read? s).elim (.error (.value ("could not convert string to float: " ++ textLiteral s)))
      .ok
  | .bytes bs =>
    ((asciiChars? bs).bind Double.readChars?).elim
      (.error (.value ("could not convert string to float: " ++ bytesLiteral bs))) .ok
  | v =>
    .error (.type ("float() argument must be a string or a real number, not '" ++
      v.qualifiedTypeName ++ "'"))

/-- An integer, or null for zero: what counts as present is read, anything else is zero. -/
def countOrZero (v : Value) : Except Failure Int := if v.isTruthy then v.toInteger else .ok 0

/-! ### Numbers of either kind -/

/-- A number as callers give it: an exact integer or a double. -/
inductive Numeral where
  | exact (n : Int)
  | double (x : Double)
deriving Repr

/-- The number behind a value, if it is one. -/
def numeral? : Value → Option Numeral
  | .bool b => some (.exact (if b then 1 else 0))
  | .int n => some (.exact n)
  | .double x => some (.double x)
  | _ => none

namespace Numeral

/-- A number as a value. -/
def toValue : Numeral → Value
  | exact n => .int n
  | double x => .double x

/-- Whether a number lies below an integer; no number does not. -/
def isBelow (bound : Int) : Numeral → Bool
  | exact n => n < bound
  | double x =>
    if x.isNaN then false
    else if x.isInfinite then x.isNegative
    else x.ratio.1 < bound * x.ratio.2

/-- Whether one number is at most another one. Nothing is at most what is no number. -/
def isAtMost : Numeral → Numeral → Bool
  | exact a, exact b => a ≤ b
  | exact a, double y =>
    if y.isNaN then false
    else if y.isInfinite then !y.isNegative
    else a * y.ratio.2 ≤ y.ratio.1
  | double x, exact b =>
    if x.isNaN then false
    else if x.isInfinite then x.isNegative
    else x.ratio.1 ≤ b * x.ratio.2
  | double x, double y =>
    if x.isNaN || y.isNaN then false
    else if x.isInfinite then x.isNegative || x == y
    else if y.isInfinite then !y.isNegative
    else x.ratio.1 * y.ratio.2 ≤ y.ratio.1 * x.ratio.2

/-- A number as a double. -/
def asDouble : Numeral → Except Failure Double
  | exact n => (Double.ofInt? n).elim (.error ⟨.overflow, "int too large to convert to float"⟩) .ok
  | double x => .ok x

/-- The number with an integer added. -/
def plus (step : Int) : Numeral → Numeral
  | exact n => exact (n + step)
  | double x => double (x.sub (Double.ofIntRatio (-step) 1))

/-- The number less one. -/
def pred (n : Numeral) : Numeral := n.plus (-1)

/-- The product: exact for two integers, a double otherwise. -/
def mul : Numeral → Numeral → Except Failure Numeral
  | exact a, exact b => .ok (exact (a * b))
  | a, b => do return double ((← a.asDouble).mul (← b.asDouble))

end Numeral

/-- A number with an integer added, as a value. -/
def plus (step : Int) (v : Value) : Except Failure Value :=
  match v.numeral? with
  | some n => .ok (n.plus step).toValue
  | none => .error (.type "unsupported operand types")

/-- Whether one value is at most another one; none for values without an order between them. -/
def isAtMost? (v w : Value) : Option Bool :=
  match v, w with
  | .text s, .text t => some (s ≤ t)
  | .bytes bs, .bytes cs => some (bs ≤ cs)
  | v, w =>
    match v.numeral?, w.numeral? with
    | some x, some y => some (x.isAtMost y)
    | _, _ => none

end Value

example : (Value.text "12").toInteger.toOption = some 12 := by decide
example : (Value.text "²").toInteger.toOption = none := by decide

end GraphQuery
