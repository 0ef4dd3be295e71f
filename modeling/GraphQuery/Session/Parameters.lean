import GraphQuery.Calendar.Pattern
import GraphQuery.Error
import GraphQuery.Query.Resolve
import GraphQuery.Value.Equality

/-! # Preparing parameters

What callers bind is turned into what a driver accepts. Dates are written under a pattern.

* `prepareValue` writes days and moments as texts and makes lists of tuples and sets.
* `prepareParameters` names every parameter: a list of maps becomes one table, a numeric key gives
  way to the columns it wraps or to a name with its number. -/

namespace GraphQuery

open GraphQuery.Text

mutual
/-- A value in a form that a driver accepts. -/
def prepareValue (pattern : String) : Value → Value
  | .date d => .text (d.format pattern)
  | .moment m => .text (m.format pattern)
  | .list xs _ | .tuple xs | .set xs => .ofList (prepareValues pattern xs)
  | .map es _ => .ofPairs (prepareEntries pattern es)
  | .node n => prepareNode pattern n
  | .link l => prepareLink pattern l
  | v => v
/-- Values in a form that a driver accepts. -/
def prepareValues (pattern : String) : List Value → List Value
  | [] => []
  | v :: vs => prepareValue pattern v :: prepareValues pattern vs
/-- Entries of a map in a form that a driver accepts. -/
def prepareEntries (pattern : String) : List (Value × Value) → List (Value × Value)
  | [] => []
  | (k, v) :: es => (k, prepareValue pattern v) :: prepareEntries pattern es
/-- Named values as entries of a map in a form that a driver accepts. -/
def prepareNamed (pattern : String) : List (String × Value) → List (Value × Value)
  | [] => []
  | (k, v) :: es => (.text k, prepareValue pattern v) :: prepareNamed pattern es
/-- A driver node as a map of its properties. -/
def prepareNode (pattern : String) : NodeData Value → Value
  | ⟨_, _, _, properties⟩ => .ofPairs (prepareNamed pattern properties)
/-- A driver relationship as a map of its properties. -/
def prepareLink (pattern : String) : LinkData Value → Value
  | ⟨_, _, _, _, _, properties⟩ => .ofPairs (prepareNamed pattern properties)
end

mutual
/-- Whether there is a day or a moment in what `prepareValue` goes through. -/
def Value.hasDate : Value → Bool
  | .date _ | .moment _ => true
  | .list xs _ | .tuple xs | .set xs => haveDate xs
  | .map es _ => entriesHaveDate es
  | .node n => nodeHasDate n
  | .link l => linkHasDate l
  | _ => false
/-- Whether there is a day or a moment in one of some values. -/
def haveDate : List Value → Bool
  | [] => false
  | v :: vs => v.hasDate || haveDate vs
/-- Whether there is a day or a moment in the entries of a map. -/
def entriesHaveDate : List (Value × Value) → Bool
  | [] => false
  | (_, v) :: es => v.hasDate || entriesHaveDate es
/-- Whether there is a day or a moment among named values. -/
def namedHaveDate : List (String × Value) → Bool
  | [] => false
  | (_, v) :: es => v.hasDate || namedHaveDate es
/-- Whether there is a day or a moment in a driver node. -/
def nodeHasDate : NodeData Value → Bool
  | ⟨_, _, _, properties⟩ => namedHaveDate properties
/-- Whether there is a day or a moment in a driver relationship. -/
def linkHasDate : LinkData Value → Bool
  | ⟨_, _, _, _, _, properties⟩ => namedHaveDate properties
end

/-- Whether a key is a number, or a text of digits. -/
def isNumericKey : Value → Bool
  | .int _ | .bool _ => true
  | .text s => s ≠ "" && s.toList.all isDigit
  | _ => false

/-- Whether a key is an identity reference. -/
def isIdentityKey (key : Value) : Bool := "id(".toList.isPrefixOf key.plainText.toList

/-- The name of the parameter for a key: an identity reference without its parentheses, a qualified
name without what stands before its first point. -/
def parameterKey (key : Value) : String :=
  let s := key.plainText
  if isIdentityKey key then identityName s
  else match splitAtFirst '.' s.toList with
    | some (_, name) => String.ofList name
    | none => s

/-- The parameters for the entries of a map under a numeric key. -/
def wrappedParameters (pattern : String) (entries : List (Value × Value)) : Properties :=
  entries.map fun e => (parameterKey e.1, prepareValue pattern e.2)

/-- The parameters for one entry. -/
def entryParameters (pattern : String) (key v : Value) : Properties :=
  if isNumericKey key then
    match v.entries? with
    | some entries => wrappedParameters pattern entries
    | none => [("param_" ++ key.plainText, prepareValue pattern v)]
  else [(parameterKey key, prepareValue pattern v)]

/-- The members of a list with their numbers, counted from zero. -/
def numberedFrom (start : Nat) : List Value → List (Value × Value)
  | [] => []
  | v :: vs => (.int start, v) :: numberedFrom (start + 1) vs

/-- The entries of a set of bindings: those of a map, or the numbered members of a list. -/
def bindingEntries (bindings : Value) : Result (List (Value × Value)) :=
  match bindings with
  | .list xs _ | .tuple xs => .ok (numberedFrom 0 xs)
  | v =>
    match v.entries? with
    | some entries => .ok entries
    | none => .error (.noAttribute v "items")

/-- The parameters for a set of bindings; without bindings there are none. -/
def prepareParameters (pattern : String) (bindings : Value) : Result Properties :=
  if !bindings.isTruthy then .ok []
  else do
    let entries ← bindingEntries bindings
    return putAll [] (entries.flatMap fun e => entryParameters pattern e.1 e.2)

/-- The parameters for a set of bindings, where dates may not be written at all. -/
def parametersUnder (pattern : Option String) (bindings : Value) : Result Properties :=
  match pattern with
  | some pattern => prepareParameters pattern bindings
  | none =>
    if (bindingEntries bindings).toOption.any entriesHaveDate then
      .error (.wrongType "strftime() argument 1 must be str")
    else prepareParameters standardPattern bindings

/-- Whether a grammar is needed to prepare a set of bindings: for the dates and the identity references
in it. -/
def needsGrammar (bindings : Value) : Bool :=
  (bindingEntries bindings).toOption.any fun entries =>
    entriesHaveDate entries || entries.any fun e =>
      if isNumericKey e.1 then (e.2.entries?.getD []).any fun e => isIdentityKey e.1
      else isIdentityKey e.1

/-- Whether a value is a set of named bindings that is not empty. -/
def isNamedBindings (bindings : Value) : Bool :=
  match bindings.entries? with
  | some ((key, _) :: _) => !isNumericKey key
  | _ => false

/-- A statement with its parameters as they are sent. -/
def statementPair (statement : Value) (parameters : Properties) : Value :=
  .ofProperties [("statement", statement), ("parameters", .ofProperties parameters)]

end GraphQuery
