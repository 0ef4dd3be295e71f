import GraphQuery.Cypher.Pattern
import GraphQuery.Value.Equality

/-! # The text of projections

* `withText` is the stage before the projection: explicit parts, or grouping with its aggregate and
  the conditions on the groups.
* `returnItems` are the items that a select returns; `columnName` tells the name that a result has
  for an item, and `alignItems` gives the items of a union branch the names of the first select.
* `orderText`, `skipText` and `limitText` end a select.

Parameters are written by `write`. -/

namespace GraphQuery.Cypher

open GraphQuery GraphQuery.Text

/-! ### Columns -/

/-- A column as an expression: a star and a placeholder stay as they are. -/
def expressionText (q : Query) (column : Value) : Result String :=
  match column with
  | .text s => do
    if s = "*" then return s
    else if ← q.knows s then return s
    else columnText (← q.resolve column)
  | _ => do columnText (← q.resolve column)

/-- The name under which a group column is carried on. -/
def groupName (q : Query) (column : Value) : Result String :=
  match column with
  | .text s => do if ← q.knows s then return s else return quote (← q.resolve column).name
  | _ => do return quote (← q.resolve column).name

/-- An item that is renamed. -/
def renamed (expression name : String) : String := expression ++ " AS " ++ name

/-- A column of the projection; a bare `id` keeps that name. -/
def itemText (q : Query) (column : Value) : Result String := do
  let expression ← expressionText q column
  return (if column.text? = some "id" then renamed expression "id" else expression)

/-! ### Aggregates -/

/-- The aggregates by name, with the function that computes each. -/
def aggregateFunctions : List (String × String) :=
  [("count", "count"), ("count_distinct", "count"), ("sum", "sum"), ("avg", "avg"), ("min", "min"),
   ("max", "max"), ("stdev", "stDev"), ("stdevp", "stDevP"), ("percentile_disc", "percentileDisc"),
   ("percentile_cont", "percentileCont"), ("collect", "collect")]

/-- Whether an aggregate looks at different values only. -/
def countsDistinct (q : Query) (a : Aggregate) : Bool :=
  a.function == "count_distinct" || (a.function == "count" && q.isDistinct.isTruthy)

/-- A column of an aggregate. A star is left to plain counting; elsewhere it is the primary node. -/
def aggregateColumn (q : Query) (function : String) (isDistinct : Bool) (column : Value) :
    Result String :=
  if column.text? = some "*" then
    if function = "count" ∧ !isDistinct then .ok "*"
    else do return ((← q.placeholder?).filter (· ≠ "")).getD "*"
  else expressionText q column

/-- An aggregate as an expression. -/
def aggregateExpression (write : String → String) (q : Query) (a : Member Aggregate) :
    Result String := do
  let a ← a.need "function"
  match lookup? a.function aggregateFunctions with
  | none => .error (.render (.unsupportedAggregate a.function))
  | some function => do
    let isDistinct := countsDistinct q a
    let columns ← a.columns.mapM (aggregateColumn q function isDistinct)
    let percentile := match a.percentile.filter (· ≠ "") with
      | some binding => ", " ++ write binding
      | none => ""
    return function ++ "(" ++ (if isDistinct then "DISTINCT " else "") ++ joined ", " columns ++
      percentile ++ ")"

/-- The projection of an aggregate alone. -/
def aggregateText (write : String → String) (q : Query) (a : Member Aggregate) :
    Result String := do
  return "RETURN " ++ renamed (← aggregateExpression write q a) (← a.need "alias").label

/-! ### The stage before the projection -/

/-- Whether grouping or conditions on groups force a stage before the projection. -/
def isStaged (q : Query) : Bool := q.hasGroups || q.hasHavings

/-- Conditions joined by their connectives; the connective of the first one is not written. -/
def joinConditions : List (Connective × String) → String
  | [] => ""
  | (_, text) :: rest =>
    joined " " (text :: rest.flatMap fun c => [c.1.keyword, c.2])

/-- The conditions on groups. -/
def havingText (write : String → String) (q : Query) : Result String := do
  q.walk .havings
  let havings ← q.havings.mapM (·.need "column")
  return joinConditions (havings.map fun h =>
    (h.joint, h.column ++ " " ++ h.operator ++ " " ++ write h.binding))

/-- The columns by which rows are grouped, each of them written. -/
def groupTexts (q : Query) (write : Query → Value → Result String) : Result (List String) := do
  q.walk .groups
  q.groups.mapM (write q)

/-- Whether an aggregate counts as present. -/
def hasAggregate (q : Query) : Bool :=
  match q.aggregate with
  | none => false
  | some (.clause _) => true
  | some (.foreign v) => v.isTruthy

/-- A group column in the stage. -/
def groupItem (q : Query) (column : Value) : Result String := do
  let expression ← expressionText q column
  let name ← groupName q column
  return (if expression = name then expression else renamed expression name)

/-- The stage before the projection; empty if there is none. -/
def withText (write : String → String) (q : Query) : Result String :=
  if q.hasStages then do
    q.walk .stages
    return "WITH " ++ joined ", " (← q.stages.mapM textOf)
  else if !isStaged q then .ok ""
  else if q.hasHavings && !q.hasGroups && !hasAggregate q then
    .error (.render .havingWithoutGroups)
  else do
    let groups ← groupTexts q groupItem
    let stage ← match q.aggregate with
      | some a => do
        let expression ← aggregateExpression write q a
        .ok ("WITH " ++ joined ", " (groups ++ [renamed expression (← a.need "alias").label]))
      | none => .ok ("WITH DISTINCT " ++ joined ", " groups)
    if q.hasHavings then return stage ++ " WHERE " ++ (← havingText write q) else return stage

/-! ### Returned items -/

/-- The star that stands for everything. -/
def star : Value := .text "*"

/-- Whether columns are a star alone. -/
def isStar : List Value → Bool
  | [.text s] => s == "*"
  | _ => false

/-- The columns of a projection; without any it is everything. -/
def chosenColumns (q : Query) : Result (List Value) :=
  if q.columns.isTruthy then Result.ofFailure q.columns.members else .ok [star]

/-- The names that a stage carries on. -/
def carriedNames (q : Query) : Result (List String) :=
  if isStaged q then do
    let names ← groupTexts q groupName
    match q.aggregate with
    | some a => return names ++ [(← a.need "alias").label]
    | none => return names
  else .ok []

/-- The items that a select returns when it is not an aggregate alone. -/
def returnItems (q : Query) (seen : Introduced) : Result (List String) :=
  if isStaged q then carriedNames q
  else do
    let columns ← chosenColumns q
    if isStar columns then
      if q.hasStages then return ["*"]
      else if seen.isEmpty then .error (.render .nothingToReturn)
      else return seen.map (·.1)
    else columns.mapM (itemText q)

/-- The mark of a renamed item. -/
def asMark : List Char := " AS ".toList

/-- The expression of an item, without its new name. -/
def itemExpression (item : String) : String :=
  match splitAtLastText asMark item.toList with
  | some (expression, _) => String.ofList expression
  | none => item

/-- A name without the quotes around it. -/
def unquoted (cs : List Char) : List Char :=
  if cs.head? = some backquote ∧ cs.getLast? = some backquote then
    undoubleBackquotes (cs.drop 1).dropLast
  else cs

/-- The name that a result has for an item: its new name, or the text of the expression. -/
def columnName (item : String) : String :=
  match splitAtLastText asMark item.toList with
  | some (_, name) => String.ofList (unquoted name)
  | none => item

/-- An item of a branch under the name of the first select. -/
def alignItem (item name : String) : Result String :=
  if columnName item = name then .ok item
  else if item = "*" ∨ name = "*" then .error (.render .unionStar)
  else .ok (renamed (itemExpression item) (quote name))

/-- The name of an item that may be no text: it is then its own name, unless it holds the mark of a
renamed item. -/
def valueName : Value → Result Value
  | .text item => .ok (.text (columnName item))
  | v => do
    if ← Result.ofFailure (v.holds (.text (String.ofList asMark))) then .error (.noAttribute v "rsplit")
    else return v

/-- An item of a branch under the name of the first select, where neither has to be a text. -/
def alignValue (item name : Value) : Result Value := do
  if (← valueName item).same name then return item
  match item, name with
  | .text item, .text name => return .text (← alignItem item name)
  | .text "*", _ | _, .text "*" => .error (.render .unionStar)
  | .text item, v => return .text (renamed (itemExpression item) (quote (← textOf v)))
  | v, _ => .error (.noAttribute v "rsplit")

/-- The items of a branch under the names of the first select. -/
def alignItems (items names : List String) : Result (List String) :=
  if items.length ≠ names.length then
    .error (.render (.unionWidth names.length items.length))
  else (items.zip names).mapM fun p => alignItem p.1 p.2

/-! ### The end of a select -/

/-- One sort key. -/
def sortText (q : Query) (carried : List String) (key : SortKey) : Result String := do
  let column ← match key.column with
    | .text s => if s ∈ carried then .ok s else expressionText q key.column
    | _ => expressionText q key.column
  return column ++ " " ++ key.direction.keyword

/-- The order of a select. -/
def orderText (q : Query) : Result String :=
  if !q.hasSortKeys then .ok ""
  else do
    let carried ← carriedNames q
    q.walk .sortKeys
    let keys ← q.sortKeys.mapM fun key => do sortText q carried (← key.need "column")
    return "ORDER BY " ++ joined ", " keys

/-- A number of rows behind a keyword; empty if there is none. -/
def countText (keyword : String) (count : Value) : Result String :=
  if count.isNull then .ok ""
  else do return keyword ++ " " ++ toString (← Result.ofFailure count.toInteger)

/-- How many rows are left out first. -/
def skipText (q : Query) : Result String := countText "SKIP" q.offset

/-- How many rows there may be. -/
def limitText (q : Query) : Result String := countText "LIMIT" q.limit

end GraphQuery.Cypher
