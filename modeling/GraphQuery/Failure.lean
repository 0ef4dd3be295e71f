/-! # Failures

A `Failure` is an operation that could not be carried out: on a value of the wrong kind, or by a
server that refused. Its note says what was wrong. -/

namespace GraphQuery

/-- What kind of failure it is. -/
inductive FailureKind where
  /-- a value of the right type that makes no sense -/
  | wrongValue
  /-- a value of the wrong type -/
  | wrongType
  /-- an attribute that the value does not have -/
  | noAttribute
  /-- a key that a map does not hold -/
  | noKey
  /-- a place outside a text or a list -/
  | outside
  /-- a number out of range -/
  | overflow
  /-- a division by zero -/
  | zeroDivision
  /-- a structure that contains itself -/
  | nesting
  /-- any other failure of the server or of a callback -/
  | runtime
  /-- a connection that is not there -/
  | connection
  /-- a server that does not answer -/
  | unavailable
deriving DecidableEq, Repr

/-- A failed operation. -/
structure Failure where
  kind : FailureKind
  note : String
deriving DecidableEq, Repr

/-- The name of a kind of failure. -/
def FailureKind.name : FailureKind → String
  | wrongValue => "ValueError"
  | wrongType => "TypeError"
  | noAttribute => "AttributeError"
  | noKey => "KeyError"
  | outside => "IndexError"
  | overflow => "OverflowError"
  | zeroDivision => "ZeroDivisionError"
  | nesting => "RecursionError"
  | runtime => "RuntimeError"
  | connection => "ConnectionError"
  | unavailable => "ServiceUnavailable"

/-- The kinds of failures. -/
def FailureKind.all : List FailureKind :=
  [wrongValue, wrongType, noAttribute, noKey, outside, overflow, zeroDivision, nesting, runtime, connection,
    unavailable]

/-- The kind of failure of that name. -/
def FailureKind.named? (name : String) : Option FailureKind := all.find? (·.name == name)

/-- A kind of failure is found under its name. -/
theorem FailureKind.named?_name (k : FailureKind) : named? k.name = some k := by
  cases k <;> rfl

namespace Failure

def value (note : String) : Failure := ⟨.wrongValue, note⟩
def type (note : String) : Failure := ⟨.wrongType, note⟩

/-- An attribute that a value of the named type does not have. -/
def noAttribute (typeName name : String) : Failure :=
  ⟨.noAttribute, "'" ++ typeName ++ "' object has no attribute '" ++ name ++ "'"⟩

/-- A structure that contains itself cannot be walked through. -/
def selfContained : Failure :=
  ⟨.nesting, "maximum recursion depth exceeded while calling a Python object"⟩

end Failure

end GraphQuery
