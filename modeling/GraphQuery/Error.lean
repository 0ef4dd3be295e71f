import GraphQuery.Schema.Issue
import GraphQuery.Value.Coercion

/-! # Errors

An `Error` tells the mistakes apart that a caller can make and the failures that can happen.

* `BuilderFault`: a query was built with arguments that do not go together.
* `RenderFault`: a query has no text.
* The other constructors of `Error` belong to bindings, transactions, connections and statements.

`Error.kindName` names the kind and `Error.text` says what happened. -/

namespace GraphQuery

open GraphQuery.Text

/-- A mistake made while a query is built. -/
inductive BuilderFault where
  | valueMissing
  | illegalComparison
  | labelsMissing
  | targetMissing
  | identityWithoutTarget
  /-- The literal of what was given for an identity, and how reading it failed. -/
  | identityNotInteger (literal : String) (cause : Failure)
  | notAList (typeName : String)
  | notTwoBounds
  | orderDirection (literal : String)
  | negativeLimit
  | negativeOffset
  | pageNotPositive
  | bindingsNotMap
  | noConnection
  | identityUpdate
  | labelOperation (operation : String)
deriving DecidableEq, Repr

/-- What a mistake is, in words. -/
def BuilderFault.text : BuilderFault → String
  | valueMissing => "Value must be provided."
  | illegalComparison => "Illegal operator and value combination."
  | labelsMissing => "At least one label is required."
  | targetMissing => "No labels set; call from_() first."
  | identityWithoutTarget =>
    "Cannot resolve the node identity without labels; call from_() first."
  | identityNotInteger literal _ => "Node identity must be an integer, got " ++ literal ++ "."
  | notAList typeName => "where_in() expects a list of values, got " ++ typeName ++ "."
  | notTwoBounds => "where_between() expects exactly two values."
  | orderDirection literal => "Order direction must be 'asc' or 'desc', got " ++ literal ++ "."
  | negativeLimit => "Limit cannot be negative."
  | negativeOffset => "Offset cannot be negative."
  | pageNotPositive => "Page and page size must be positive."
  | bindingsNotMap => "Bindings must be given as a mapping of names to values."
  | noConnection => "This builder has no connection to run queries on."
  | identityUpdate => "The node identity cannot be updated."
  | labelOperation operation =>
    "Unknown label operation '" ++ operation ++ "', expected 'add' or 'drop'."

/-- A reason why a query has no text. -/
inductive RenderFault where
  | placeholderWithoutLabels
  | identityWithoutNode (name : String)
  | groupedUnionAggregate
  | unsupportedMatch (typeName : String)
  | relatedIsParent (placeholder : String)
  | placeholderTaken (placeholder : String)
  | otherLabels (placeholder : String) (known wanted : List String)
  | unsupportedPredicate (literal : String)
  | havingWithoutGroups
  | nothingToReturn
  | unionWidth (expected found : Nat)
  | unionStar
  | unsupportedAggregate (name : String)
  | writeWithoutLabels (action : String)
  | labelOperation (operation : String)
deriving DecidableEq, Repr

/-- The reason in words. -/
def RenderFault.text : RenderFault → String
  | placeholderWithoutLabels => "Cannot derive a node placeholder without labels."
  | identityWithoutNode name => "Identity reference '" ++ name ++ "' has no node alias."
  | groupedUnionAggregate => "Grouped aggregates over a UNION are not supported."
  | unsupportedMatch typeName => "Unsupported match clause: " ++ typeName
  | relatedIsParent placeholder =>
    "Related alias '" ++ placeholder ++ "' is the same as its parent alias."
  | placeholderTaken placeholder =>
    "Morph alias '" ++ placeholder ++ "' is already bound in this query."
  | otherLabels placeholder known wanted =>
    "Alias '" ++ placeholder ++ "' is bound to " ++ textsLiteral known ++ " and cannot also match " ++
      textsLiteral wanted ++ "."
  | unsupportedPredicate literal => "Unsupported predicate: " ++ literal
  | havingWithoutGroups => "HAVING needs group_by() or an aggregate to filter on."
  | nothingToReturn => "Nothing to return: the query has no labels and no matches."
  | unionWidth expected found =>
    "UNION selects must return the same number of columns, got " ++ toString expected ++ " and " ++
      toString found ++ "."
  | unionStar => "UNION selects returning '*' must all return '*'."
  | unsupportedAggregate name => "Unsupported aggregate function: " ++ name
  | writeWithoutLabels action =>
    "Cannot " ++ action ++ " without target labels; call from_() first."
  | labelOperation operation =>
    "Unknown label operation '" ++ operation ++ "', expected 'add' or 'drop'."

/-- Whatever stops an operation. -/
inductive Error where
  | builder (fault : BuilderFault)
  | unknownBucket (name : Value)
  | render (fault : RenderFault)
  | nothingToCommit
  /-- A statement failed: its text, the parameters it was prepared with, and why. -/
  | execution (statement : Value) (parameters : Properties) (cause : Error)
  | notConnected (uri : Value)
  | unreachable (uri : Value) (cause : Error)
  | noReconnector
  | invalid (issues : List Issue)
  | failure (f : Failure)
deriving Repr

namespace Error

/-- The name of a kind of error. -/
def kindName : Error → String
  | builder _ => "QueryBuilderError"
  | unknownBucket _ => "InvalidBindingBucketError"
  | render _ => "CompilationError"
  | nothingToCommit => "TransactionError"
  | execution _ _ _ => "QueryExecutionError"
  | notConnected _ | unreachable _ _ | noReconnector => "ConnectionError"
  | invalid _ => "ValidationError"
  | failure f => f.kind.name

/-- What happened, in words. -/
def text : Error → String
  | builder fault => fault.text
  | unknownBucket name => "Invalid binding type: " ++ name.plainText ++ "."
  | render fault => fault.text
  | nothingToCommit => "There is no active transaction to commit."
  | execution statement parameters cause =>
    cause.kindName ++ ": " ++ cause.text ++ " (Cypher: " ++ statement.plainText ++ ", bindings: " ++
      propertiesLiteral parameters ++ ")"
  | notConnected uri => "Engine for " ++ uri.plainText ++ " is not connected; await connect() first."
  | unreachable uri cause => "Could not reach Neo4j at " ++ uri.plainText ++ ": " ++ cause.text
  | noReconnector => "Lost connection and no reconnector available."
  | invalid issues => toString issues.length ++ " validation issues"
  | failure f => f.note

/-- What an error goes back to, by the name of its kind. -/
def causeName? : Error → Option String
  | builder (.identityNotInteger _ cause) => some cause.kind.name
  | execution _ _ cause | unreachable _ cause => some cause.kindName
  | _ => none

/-- An attribute that a value does not have. Of an entity class only the name of the attribute is
said. -/
def noAttribute (v : Value) (name : String) : Error :=
  match v with
  | .entityClass _ => failure ⟨.noAttribute, name⟩
  | .builtinClass type =>
    failure ⟨.noAttribute, "type object '" ++ type ++ "' has no attribute '" ++ name ++ "'"⟩
  | v => failure (.noAttribute v.qualifiedTypeName name)

/-- A value of a type that an operation does not take. -/
def wrongType (note : String) : Error := failure (.type note)

end Error

/-- The result of a step that has no effect. -/
abbrev Result (α : Type) := Except Error α

/-- A failed operation as a result. -/
def Result.ofFailure {α : Type} : Except Failure α → Result α
  | .ok a => .ok a
  | .error f => .error (.failure f)

/-- A failed check as a result. A limit that cannot be looked at is a failure of its own. -/
def Result.ofChecked {α : Type} : Checked α → Result α
  | .ok a => .ok a
  | .error issues =>
    if issues.any (·.code == .incomparable) then
      .error (.failure (.type "Unable to apply a constraint to the value"))
    else .error (.invalid issues)

end GraphQuery
