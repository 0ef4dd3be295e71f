import GraphQuery.Builder.Basic
import GraphQuery.Schema.Scalar

/-! # Projection, grouping, ordering and paging

* `select` and `addSelect` choose the columns, `stage` adds parts of an explicit stage.
* `groupBy` and `having` group rows and filter the groups.
* `orderBy`, `limit`, `offset` and `page` order and cut the rows.
* `union` adds a branch.
* `addBindings` stores parameters without a clause. -/

namespace GraphQuery

open GraphQuery.Binding GraphQuery.Cypher GraphQuery.Schema GraphQuery.Text GraphQuery.Value

/-- The columns among some arguments: lists and tuples count by their members. -/
def flatColumns (columns : List Value) : List Value :=
  columns.flatMap fun v => match v with
    | .list xs _ | .tuple xs => xs
    | v => [v]

/-- The columns that are there before further ones are added: a star gives way. -/
def columnsSoFar (columns : Value) : Result (List Value) :=
  match columns with
  | .null => .ok []
  | .list columns _ => .ok (if isStar columns then [] else columns)
  | v => .error (.wrongType ("can only concatenate list (not '" ++ v.typeName ++ "') to list"))

/-- The columns of a copy are a list of their own. -/
def copiedColumns (columns : Value) : Result Value :=
  if columns.isNull then .ok .null else do return .ofList (← Result.ofFailure columns.members)

namespace Build

/-- Chooses the columns; without any it is everything. -/
def select (columns : List Value) : Build Unit :=
  let columns := flatColumns columns
  change fun q => { q with columns := .ofList (if columns.isEmpty then [star] else columns) }

/-- Adds columns to the chosen ones. -/
def addSelect (columns : List Value) : Build Unit := do
  let current ← withQuery fun q => columnsSoFar q.columns
  change fun q => { q with columns := .ofList (current ++ flatColumns columns) }

/-- Leaves out rows that occur twice. -/
def makeDistinct : Build Unit := change fun q => { q with isDistinct := .bool true }

/-- Adds a part of a stage at the end unless it is there. -/
def addPart (parts : List Value) (part : Value) : List Value :=
  if part.isIn parts then parts else parts ++ [part]

/-- Adds parts of an explicit stage: some as they are, some as an expression with a name. A part
that is there already is not added again. -/
def stage (parts : List Value) (named : List (String × Value)) : Build Unit := do
  let all := parts ++ named.map fun n => Value.text (n.2.plainText ++ " AS " ++ n.1)
  match (← get).query.standIn? .stages with
  | none => change fun q => { q with stages := all.foldl addPart q.stages }
  | some standIn => all.forM fun part => do
    if !(← Exec.ofResult (Result.ofFailure (standIn.holds part))) then needList .stages

/-- Groups rows by columns. -/
def groupBy (columns : List Value) : Build Unit := do
  ask .groups "extend"
  change fun q => { q with groups := q.groups ++ flatColumns columns }

/-- The name of a column that a condition on groups is about. -/
def havingColumn : Value → Result String
  | .text s => .ok s
  | _ => .error (.wrongType "expected string or bytes-like object")

/-- Adds a condition on groups whose operator is known. The value is bound before the condition is
checked. -/
def addHaving (column operator : Value) (v : Value) (joined : Value) : Build Unit := do
  ask .bindings "bind"
  let column ← Exec.ofResult (havingColumn column)
  let binding ← bind (bindingName column) v .having
  needList .havings
  let operator ← Exec.ofResult (normalizeOperator operator)
  let j ← Exec.ofResult (Result.ofChecked (Checked.inside "boolean" (readPlainConnective joined)))
  change fun q => { q with havings := q.havings ++ [.clause ⟨column, operator, binding, j⟩] }

/-- Adds a sort key. -/
def orderBy (column direction : Value) : Build Unit := do
  let direction ← Exec.ofResult (readSortDirection direction)
  needList .sortKeys
  change fun q => { q with sortKeys := q.sortKeys ++ [.clause ⟨column, direction⟩] }

/-- A number of rows, or none for no limit. A negative number is refused. -/
def rowCount (refusal : BuilderFault) (v : Value) : Result Value :=
  if v.isNull then .ok .null
  else do
    let n ← Result.ofFailure v.toInteger
    if n < 0 then .error (.builder refusal) else return .int n

/-- Sets how many rows there may be. -/
def limit (v : Value) : Build Unit := do
  let n ← Exec.ofResult (rowCount .negativeLimit v)
  change fun q => { q with limit := n }

/-- Sets how many rows are left out first. -/
def offset (v : Value) : Build Unit := do
  let n ← Exec.ofResult (rowCount .negativeOffset v)
  change fun q => { q with offset := n }

/-- A number, for a comparison with one. -/
def pageNumber (v : Value) : Result Numeral :=
  match v.numeral? with
  | some n => .ok n
  | none => .error (.wrongType ("'<' not supported between instances of '" ++ v.typeName ++
      "' and 'int'"))

/-- The offset and the limit of a page, the first page being number one. -/
def pageWindow (number size : Value) : Result (Value × Value) := do
  let n ← pageNumber number
  if n.isBelow 1 then .error (.builder .pageNotPositive)
  else
    let s ← pageNumber size
    if s.isBelow 1 then .error (.builder .pageNotPositive)
    else
      let start ← Result.ofFailure (n.pred.mul s)
      return (start.toValue, size)

/-- Sets offset and limit to a page. -/
def page (number size : Value) : Build Unit := do
  let (start, count) ← Exec.ofResult (pageWindow number size)
  offset start
  limit count

/-- Adds a branch of a union; `keepsAll` keeps rows that occur twice. -/
def union (query : Operand) (keepsAll : Value) : Build Unit := do
  needList .branches
  let s ← subQuery query
  let all ← Exec.ofResult (Result.ofChecked (Checked.inside "all" (readTruth keepsAll)))
  change fun q => { q with branches := q.branches ++ [⟨s, all⟩] }

/-- The name under which a parameter is stored: what follows the first point. A name that is no text
may not hold a point. -/
def parameterName : Value → Result Value
  | .text s => .ok (.text (match splitAtFirst '.' s.toList with
    | some (_, name) => String.ofList name
    | none => s))
  | v => do
    if ← Result.ofFailure (v.holds (.text ".")) then .error (.noAttribute v "split") else return v

/-- Stores entries of a map in a bucket, one after another. -/
def addEntries (bucket : Value) : List (Value × Value) → Build Unit
  | [] => pure ()
  | (key, v) :: rest => do
    let name ← Exec.ofResult (parameterName key)
    ask .bindings "add"
    let b ← Exec.ofResult (Bucket.named bucket)
    modify fun builder => { builder with table := builder.table.add name v b }
    addEntries bucket rest

/-- Stores the entries of a map in a bucket. -/
def addBindings (values bucket : Value) : Build Unit :=
  match values.entries? with
  | some entries => addEntries bucket entries
  | none => fault .bindingsNotMap

/-- Reads an aggregate out of named arguments. -/
def readAggregate (fields : Properties) : Checked Aggregate :=
  let function := required fields "function" readText
  let columns := defaulted fields "columns" [star] (readList .ok .tupleType)
  let label := defaulted fields "alias" "aggregate" readText
  let percentile := defaulted fields "percentile_binding" none (readOptional readText)
  ((function.and columns).and (label.and percentile)).map fun p =>
    ⟨p.1.1, p.1.2, p.2.1, p.2.2⟩

/-- Sets or removes the aggregate. -/
def setAggregate (a : Option Aggregate) : Build Unit :=
  change fun q => { q with aggregate := a.map .clause }

end Build

end GraphQuery
