import GraphQuery.Builder.Call
import GraphQuery.Cypher.Select
import GraphQuery.Record.Hydration
import GraphQuery.Session.Connection

/-! # Live queries

A `LiveQuery` is a builder with the connection that its statements run on, and with the entity
classes that its results may become.

* `LiveQuery.build` continues to build the query.
* `LiveQuery.onChannel` uses the connection; without one it is a mistake.
* `LiveQuery.select` runs the select of the query and gives its rows.
* `LiveQuery.fetch` gives the records of all rows, `LiveQuery.fetchFirst` the first of them, and
  `LiveQuery.fetchById` the one with an identity.
* `LiveQuery.fetchValue` and `LiveQuery.fetchColumn` give a single column, of the first row and of all
  rows.

The columns of a fetch count only where the query has none of its own, and only for that fetch. -/

namespace GraphQuery

open GraphQuery.Cypher

/-- A branch of the query with this number, brought up to date if it is that query itself. -/
def Query.settleBranch (number : Nat) (q : Query) (b : Branch) : Branch :=
  match b.query with
  | .shared n (some _) =>
    if n = number then { b with query := .shared n (some { q with branches := [] }) } else b
  | _ => b

/-- The query with this number, with every branch that is the query itself brought up to date. -/
def Query.settle (number : Nat) (q : Query) : Query :=
  { q with branches := q.branches.map (settleBranch number q) }

/-- A builder, its number, the connection it runs on, and the entity classes. Dates are written under
the pattern; without one they cannot be written. -/
structure LiveQuery where
  builder : Builder
  number : Nat
  channel : Option Channel
  registry : Registry
  datePattern : Option String

namespace LiveQuery

/-- The query as it stands. -/
def query (l : LiveQuery) : Query := l.builder.query

/-- The parameters that are bound so far. -/
def parameters (l : LiveQuery) : Result Row := do
  l.query.ask .bindings "flatten"
  return l.builder.table.flatten

/-- The placeholder of the primary node. -/
def placeholder? (l : LiveQuery) : Result (Option String) := l.query.placeholder?

/-- The builder of a live query. -/
def builderPart : Focus LiveQuery Builder := ⟨(·.builder), fun b l => { l with builder := b }⟩

/-- Goes on building. -/
def build {α : Type} (step : Build α) : Exec LiveQuery α := step.within builderPart

/-- Changes the query. -/
def change (f : Query → Query) : Exec LiveQuery Unit := build (Build.change f)

/-- A value that is gone through now. -/
def useUp (v : Value) : Exec LiveQuery Value := build (Build.useUp v)

/-- Refuses to go on without a connection, or with something else for it. -/
def needChannel : Exec LiveQuery Unit := do
  build (Build.ask .connection "select")
  if (← get).channel.isNone then Exec.fail (.builder .noConnection)

/-- Uses the connection. -/
def onChannel {α : Type} (step : Exec Channel α) : Exec LiveQuery α := do
  needChannel
  Exec.ofOutcome fun l =>
    match l.channel with
    | none => (.error (.builder .noConnection), l)
    | some c =>
      let (r, c) := step.outcome c
      (r, { l with channel := some c })

/-- The text of the select. -/
def statement (l : LiveQuery) : Result String := statementText (Query.settle l.number l.query)

/-- Runs the select of the query and gives its rows. -/
def select : Exec LiveQuery (List Row) := do
  needChannel
  let l ← get
  let text ← Exec.ofResult l.statement
  let parameters ← Exec.ofResult l.parameters
  onChannel (Channel.select (.text text) (.ofPairs parameters))

/-- The records of rows. A node under the primary placeholder becomes an entity of the given class;
the other nodes become what their labels say. -/
def records (l : LiveQuery) (chosen : Value) (rows : List Row) : Result (List Value) := do
  l.registry.records (.ofText? (← l.placeholder?)) chosen (rows.map Channel.rowValue)

/-! ### Fetching records -/

/-- The columns that a fetch asks for, unless the query has its own. -/
def fetchColumns (own columns : Value) : Exec LiveQuery Value := do
  if own.isNull then return .ofList (← Exec.ofResult (Result.ofFailure (← useUp columns).members))
  else return own

/-- Runs the query and gives its records, one for each row. -/
def fetch (columns : Value) : Exec LiveQuery (List Value) := do
  let own := (← get).query.columns
  let columns ← fetchColumns own columns
  change fun q => { q with columns }
  let rows ← select.ensuring (change fun q => { q with columns := own })
  let l ← get
  Exec.ofResult (l.records l.query.entity rows)

/-- Asks for one row and gives its record, null if there is none. The limit stays. -/
def fetchFirst (columns : Value) : Exec LiveQuery Value := do
  build (Build.limit (.int 1))
  return ((← fetch columns).head?).getD .null

/-- Narrows the query down to one identity. -/
def requireIdentity (id : Operand) : Exec LiveQuery Unit :=
  build (Build.filter (.value (.text "id")) (some Build.equality) (some id) Call.andName)

/-- The record with an identity, null if there is none. -/
def fetchById (id : Operand) (columns : Value) : Exec LiveQuery Value := do
  requireIdentity id
  fetchFirst columns

/-- The first value in a row of columns; a record counts as a whole. -/
def leadingValue : Value → Value
  | .map [] _ => .null
  | .map ((_, v) :: _) _ => v
  | v => v

/-- A column of the first row. -/
def fetchValue (column : Value) : Exec LiveQuery Value := do
  return leadingValue (← fetchFirst (.ofList [column]))

/-- A column of all rows. -/
def fetchColumn (column : Value) : Exec LiveQuery (List Value) := do
  return (← fetch (.ofList [column])).map leadingValue

end LiveQuery

end GraphQuery
