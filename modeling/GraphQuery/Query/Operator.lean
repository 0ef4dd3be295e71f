import GraphQuery.Query.Label
import GraphQuery.Schema.Scalar
import GraphQuery.Text.Character

/-! # Operators, connectives and directions

* `isOperator` recognises the operators of the query language in any case.
* `normalizeOperator` gives the form in which an operator is written: `!=` becomes `<>`, a word is
  in capitals.
* `Connective`, `Direction` and `SortDirection` are the choices that callers make by name. -/

namespace GraphQuery

open GraphQuery.Text GraphQuery.Schema

/-- The operators that a predicate may use. -/
def operators : List String :=
  ["+", "-", "*", "/", "%", "^", "=", "<>", "!=", "<", ">", "<=", ">=", "is null", "is not null",
   "and", "or", "xor", "not", "in", "[x]", "[x .. y]", "=~", "starts with", "ends with", "contains"]

/-- Whether a value names an operator. -/
def isOperator : Value → Bool
  | .text s => operators.contains (lowercase s)
  | _ => false

/-- The written form of an operator. -/
def normalizeOperator (operator : Value) : Result String :=
  match operator with
  | .text s =>
    let small := lowercase s
    if small = "!=" then .ok "<>"
    else match small.toList with
      | [] => .error (.failure ⟨.outside, "string index out of range"⟩)
      | c :: _ => .ok (if isLetter c then uppercase small else small)
  | v => do
    hasSmallLetters v
    .error (.noAttribute v "isalpha")

/-! ### Connectives -/

/-- How a condition is joined to the one before it. -/
inductive Connective where
  | all
  | any
deriving DecidableEq, Repr

/-- The keyword of a connective. -/
def Connective.keyword : Connective → String
  | all => "AND"
  | any => "OR"

/-- The name of a connective. -/
def Connective.name : Connective → String
  | all => "and"
  | any => "or"

/-- The names of the connectives. -/
def connectiveNames : List (String × Connective) := [("and", .all), ("or", .any)]

/-- A text in small letters; other values stay as they are. -/
def lowercaseText : Value → Value
  | .text s => .text (lowercase s)
  | v => v

/-- Reads a connective; its name may be in any case. -/
def readConnective (v : Value) : Checked Connective := readChoice connectiveNames (lowercaseText v)

/-- Reads a connective whose name has to be in small letters. -/
def readPlainConnective (v : Value) : Checked Connective := readChoice connectiveNames v

/-! ### Directions -/

/-- The direction in which a relationship is followed. -/
inductive Direction where
  | outgoing
  | incoming
  | either
deriving DecidableEq, Repr

/-- The name of a direction. -/
def Direction.name : Direction → String
  | outgoing => "out"
  | incoming => "in"
  | either => "any"

/-- The names of the directions. -/
def directionNames : List (String × Direction) :=
  [("out", .outgoing), ("in", .incoming), ("any", .either)]

/-- All the words for directions. -/
def directionWords : List (String × Direction) :=
  directionNames ++
    [("outgoing", .outgoing), ("incoming", .incoming), ("both", .either), ("in-out", .either),
     ("either", .either)]

/-- The direction that a word means, in any case. -/
def directionOfWord? (s : String) : Option Direction :=
  lookup? (lowercase s) directionWords

/-- Reads a direction by any of its words. -/
def readDirection (v : Value) : Checked Direction :=
  match v.text?.bind directionOfWord? with
  | some d => .ok d
  | none => .fail .notAChoice

/-- Reads a direction by its name alone. -/
def readPlainDirection (v : Value) : Checked Direction := readChoice directionNames v

/-! ### Sorting -/

/-- The direction in which results are sorted. -/
inductive SortDirection where
  | ascending
  | descending
deriving DecidableEq, Repr

/-- The keyword of a sort direction. -/
def SortDirection.keyword : SortDirection → String
  | ascending => "ASC"
  | descending => "DESC"

/-- Reads a sort direction; its name may be in any case. -/
def readSortDirection (v : Value) : Result SortDirection :=
  match v.text?.map lowercase with
  | some "asc" => .ok .ascending
  | some "desc" => .ok .descending
  | _ => .error (.builder (.orderDirection v.literal))

end GraphQuery
