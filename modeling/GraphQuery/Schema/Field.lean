import GraphQuery.Schema.Scalar

/-! # Declared fields

A `FieldType` is the type of a declared field, and `Limits` are what its values are held to.
`FieldType.read` reads a value as a type within limits and gives the value that is stored.

A limit that belongs to the type is part of reading: bounds of a number, the length of a text or of a
list. Any other limit is looked at afterwards, and it is a mistake of its own if the value has no
order or no length. -/

namespace GraphQuery.Schema

open GraphQuery GraphQuery.Value

/-- What values of a field are held to. -/
structure Limits where
  least : Option Value
  most : Option Value
  shortest : Option Nat
  longest : Option Nat
deriving Repr

/-- The type of a declared field. -/
inductive FieldType where
  | anything
  | text
  | integer
  | double
  | truth
  | texts
  | optional (type : FieldType)
deriving Repr

/-- A declared field; without a default it has to be given. -/
structure Field where
  name : String
  type : FieldType
  limits : Limits
  absent : Option Value
deriving Repr

namespace Limits

/-- No limits. -/
def none : Limits := ⟨Option.none, Option.none, Option.none, Option.none⟩

/-- Bounds that belong to a number. No number is above or below nothing at all, and what is no number
lies within no bounds. -/
def holdNumber (l : Limits) (x : Numeral) : Checked Unit :=
  if l.most.any fun bound => !bound.numeral?.any x.isAtMost then .fail .aboveMost
  else if l.least.any fun bound => !bound.numeral?.any (·.isAtMost x) then .fail .belowLeast
  else .ok ()

/-- A bound that is looked at afterwards. -/
def holdBound (code : IssueCode) (order : Value → Value → Option Bool) (bound : Option Value)
    (v : Value) : Checked Unit :=
  match bound with
  | Option.none => .ok ()
  | some bound =>
    match order bound v with
    | some true => .ok ()
    | some false => .fail code
    | Option.none => .fail .incomparable

/-- The bounds that are looked at afterwards. -/
def holdOrder (l : Limits) (v : Value) : Checked Unit := do
  holdBound .belowLeast (fun bound v => bound.isAtMost? v) l.least v
  holdBound .aboveMost (fun bound v => v.isAtMost? bound) l.most v

/-- A length that is looked at afterwards. -/
def holdSize (code : IssueCode) (fits : Nat → Nat → Bool) (bound : Option Nat) (v : Value) :
    Checked Unit :=
  match bound with
  | Option.none => .ok ()
  | some bound =>
    match v.size? with
    | some size => if fits bound size then .ok () else .fail code
    | Option.none => .fail .incomparable

/-- The lengths that are looked at afterwards. -/
def holdLength (l : Limits) (v : Value) : Checked Unit := do
  holdSize .listTooShort (fun bound size => bound ≤ size) l.shortest v
  holdSize .listTooLong (fun bound size => size ≤ bound) l.longest v

end Limits

/-- Reads a value as a type within limits. -/
def FieldType.read (limits : Limits) : FieldType → Value → Checked Value
  | .anything, v => do
    limits.holdOrder v
    limits.holdLength v
    return v
  | .text, v => do
    let s ← textLength limits.shortest limits.longest (← readText v)
    limits.holdOrder (.text s)
    return .text s
  | .integer, v => do
    let n ← readInteger v
    limits.holdNumber (.exact n)
    limits.holdLength (.int n)
    return .int n
  | .double, v => do
    let x ← readDouble v
    limits.holdNumber (.double x)
    limits.holdLength (.double x)
    return .double x
  | .truth, v => do
    let b ← readTruth v
    limits.holdOrder (.bool b)
    limits.holdLength (.bool b)
    return .bool b
  | .texts, v => do
    let xs := ofTexts (← readLimitedList readText limits.shortest limits.longest v)
    limits.holdOrder xs
    return xs
  | .optional _, .null => .ok .null
  | .optional type, v => type.read limits v

/-- Reads one field out of given values. -/
def Field.read (field : Field) (given : Properties) : Checked Value :=
  match lookup? field.name given, field.absent with
  | some v, _ => Checked.inside field.name (field.type.read field.limits v)
  | none, some v => .ok v
  | none, none => Checked.inside field.name (.fail .missing)

/-- Reads fields in the order of their declaration. -/
def readFields (given : Properties) : List Field → Checked Properties
  | [] => .ok []
  | field :: rest =>
    ((field.read given).and (readFields given rest)).map fun p => (field.name, p.1) :: p.2

end GraphQuery.Schema
