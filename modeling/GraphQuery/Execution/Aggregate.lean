import GraphQuery.Execution.LiveQuery

/-! # Aggregates

* `aggregate` runs an aggregate over the query: its result is one value, or one record for each
  group when the query is grouped.
* `count`, `sum`, `collect` and the others are aggregates by name, with a result where there are no
  rows; `hasRows` asks whether there are any.

The aggregate and the binding of its percentile are gone again when the statement has run. -/

namespace GraphQuery

open GraphQuery.Schema
open GraphQuery.Cypher (star)

/-- The columns that an aggregate is about; without any it is everything. -/
def aggregateColumns (columns : List Value) : List Value :=
  let flat := flatColumns columns
  if flat.isEmpty then [star] else flat

/-- Whether columns are the primary node as a whole. -/
def isWholeNode (placeholder : Option String) (columns : List Value) : Result Bool := do
  Result.ofFailure (columns.forM (·.needKey))
  return columns.all fun v => v.isIn [star, .ofText? placeholder]

/-- What the column of an aggregate holds in a row. -/
def aggregateCell (row : Row) : Value := (entryAt? (.text "aggregate") row).getD .null

namespace LiveQuery

/-- Binds a percentile, if there is one. -/
def bindPercentile (percentile : Value) : Exec LiveQuery (Option String) :=
  match percentile with
  | .null => pure none
  | v => do
    let x ← Exec.ofResult (Result.ofFailure v.toDouble)
    some <$> build (Build.bind "percentile" (.double x) .projection)

/-- Sets the aggregate, runs the select, and takes the aggregate away again. -/
def selectAggregate (a : Aggregate) (cleanUp : Exec LiveQuery Unit) : Exec LiveQuery (List Row) := do
  build (Build.setAggregate (some a))
  select.ensuring (do
    build (Build.setAggregate none)
    cleanUp)

/-- The value of an aggregate. Nodes in it become entities of the class of the query if the
aggregate is about the primary node as a whole. -/
def aggregateValue (l : LiveQuery) (columns : List Value) (row : Row) : Result Value := do
  let isWhole ← isWholeNode (← l.placeholder?) columns
  let chosen := if isWhole then l.query.entity else .null
  match ← toRecord (aggregateCell row) with
  | .list xs _ => return .ofList (← xs.mapM (l.registry.hydrate chosen))
  | v => l.registry.hydrate chosen v

/-- Runs an aggregate, given by its name, over some columns. -/
def aggregate (function columns percentile : Value) : Exec LiveQuery Value := do
  build (Build.ask .bindings "bucket")
  let bound := (← get).builder.table.projections
  let binding ← bindPercentile percentile
  let given ← Exec.ofResult (Result.ofFailure (← useUp columns).members)
  let function ← Exec.ofResult (Result.ofChecked (Checked.inside "function" (readText function)))
  let rows ← selectAggregate ⟨function, aggregateColumns given, "aggregate", binding⟩
    (build (modify fun b => { b with table := b.table.replace .projection bound }))
  let l ← get
  if l.query.hasGroups then
    return .ofList (← Exec.ofResult (l.records .null rows))
  else
    match rows with
    | [] => return .null
    | row :: _ => do
      let given ← Exec.ofResult (Result.ofFailure columns.secondPass.members)
      Exec.ofResult (l.aggregateValue (aggregateColumns given) row)

/-- A count: what is missing counts as zero. Groups are counted one by one. -/
def countBy (function : String) (columns : Value) : Exec LiveQuery Value := do
  let v ← aggregate (.text function) columns .null
  if (← get).query.hasGroups then return v
  else return .int (← Exec.ofResult (Result.ofFailure v.countOrZero))

def count (columns : Value) : Exec LiveQuery Value := countBy "count" columns

def countDistinct (columns : Value) : Exec LiveQuery Value := countBy "count_distinct" columns

/-- An aggregate over one column. -/
def aggregateColumn (function : String) (column : Value) : Exec LiveQuery Value :=
  aggregate (.text function) (.ofList [column]) .null

/-- A value, or what stands for it when it is null. -/
def orElse (absent v : Value) : Value := if v.isNull then absent else v

def sum (column : Value) : Exec LiveQuery Value :=
  return orElse (.int 0) (← aggregateColumn "sum" column)

def average (column : Value) : Exec LiveQuery Value := aggregateColumn "avg" column
def minimum (column : Value) : Exec LiveQuery Value := aggregateColumn "min" column
def maximum (column : Value) : Exec LiveQuery Value := aggregateColumn "max" column
def deviation (column : Value) : Exec LiveQuery Value := aggregateColumn "stdev" column

/-- The deviation where the rows are all there is and no sample. -/
def populationDeviation (column : Value) : Exec LiveQuery Value := aggregateColumn "stdevp" column

/-- The value of a column at a percentile, out of those that occur. -/
def discretePercentile (column percentile : Value) : Exec LiveQuery Value :=
  aggregate (.text "percentile_disc") (.ofList [column]) percentile

/-- The value of a column at a percentile, between those that occur. -/
def continuousPercentile (column percentile : Value) : Exec LiveQuery Value :=
  aggregate (.text "percentile_cont") (.ofList [column]) percentile

/-- All values of a column. -/
def collect (column : Value) : Exec LiveQuery Value :=
  return orElse (.ofList []) (← aggregateColumn "collect" column)

/-- Whether a count is above zero; the counts of groups cannot be compared. -/
def isPositiveCount : Value → Result Bool
  | .int n => .ok (0 < n)
  | v => .error (.wrongType ("'>' not supported between instances of '" ++ v.typeName ++ "' and 'int'"))

/-- Whether the query has rows. -/
def hasRows : Exec LiveQuery Bool := do
  let v ← count (.tuple [star])
  Exec.ofResult (isPositiveCount v)

end LiveQuery

end GraphQuery
