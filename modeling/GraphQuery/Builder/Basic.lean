import GraphQuery.Binding.Table
import GraphQuery.Cypher.Select
import GraphQuery.Value.Mark

/-! # Builders

A `Builder` is a query in the making: what has been asked for so far, and the table in which the
values are bound. Several builders can share a table, which is why it has a number.

* `Build α` is a step on a builder. What a step has bound stays bound when it fails.
* An `Operand` is what callers may compare with: a value, a callback that builds a query, or a query
  that was built on its own.
* `Build.bindColumn` binds a value under a name from the column it is compared with.
* `Build.adopt` takes in a query that was built on its own.  Such a query brings its own table.  Its
  bindings move into the table of the builder, some of them under new names, and a copy of the query is
  rewritten to use these names.  A query that already shares the table is taken as it is, and stays linked
  to the builder that makes it. -/

namespace GraphQuery

open GraphQuery.Text GraphQuery.Binding GraphQuery.Schema

/-- A query in the making, with its table of bindings and the number of that table. `used` holds what
is left of the marked streams that have been gone through on the way. -/
structure Builder where
  query : Query
  table : BindingTable
  tableNumber : Nat
  used : Remains

/-- A step on a builder. -/
abbrev Build (α : Type) := Exec Builder α

/-- A query that was built on its own: its number, the number of its table, and both contents. -/
structure Incoming where
  number : Nat
  tableNumber : Nat
  query : Query
  table : BindingTable

/-- A query that was built on its own as a value. -/
def Incoming.value (q : Incoming) : Value :=
  .object ⟨.builder q.number, "Builder", none, none, (Cypher.queryLiteral q.query).toOption⟩

/-- What callers give where a query may stand. -/
inductive Operand where
  | value (v : Value)
  | body (build : Build Unit)
  | query (q : Incoming)

namespace Operand

/-- An operand as a value to bind; a callback is known by its kind alone. -/
def toValue : Operand → Value
  | value v => v
  | body _ => .handle "function"
  | query q => q.value

/-- Whether an operand stands for a query. -/
def isDeferred : Operand → Bool
  | value _ => false
  | _ => true

/-- Whether an operand is null. -/
def isNull : Operand → Bool
  | value v => v.isNull
  | _ => false

/-- Whether an operand names an operator. -/
def isOperator : Operand → Bool
  | value v => GraphQuery.isOperator v
  | _ => false

end Operand

namespace Build

/-- Stops with a mistake in the arguments. -/
def fault {α : Type} (f : BuilderFault) : Build α := Exec.fail (.builder f)

/-- Uses the query without changing anything. -/
def withQuery {α : Type} (f : Query → Result α) : Build α := Exec.ofOutcome fun b => (f b.query, b)

/-- Changes the query. -/
def change (f : Query → Query) : Build Unit := modify fun b => { b with query := f b.query }

/-- A value that is gone through now: a stream is used up by that, everywhere it is known. -/
def useUp (v : Value) : Build Value := Exec.ofOutcome fun b =>
  let (v, used) := b.used.useUp v
  (.ok v, { b with used })

/-- Notes what is left of a stream. -/
def leave (mark : Option Nat) (rest : List Value) : Build Unit :=
  modify fun b => { b with used := b.used.leave mark rest }

/-- Refuses what stands for a part and lacks what is asked of it. -/
def ask (part : QueryPart) (name : String) : Build Unit := withQuery fun q => q.ask part name

/-- Makes sure that a part is a list that can be added to. -/
def needList (part : QueryPart) : Build Unit := ask part "append"

/-- Adds a predicate at the end. -/
def addPredicate (p : Predicate) : Build Unit := do
  needList .wheres
  change fun q => { q with wheres := q.wheres ++ [p] }

/-- Binds a value under the first free name from a base. -/
def bind (base : String) (v : Value) (bucket : Bucket) : Build String := do
  ask .bindings "bind"
  Exec.ofOutcome fun b =>
    let (name, table) := b.table.bind base v bucket
    (.ok name, { b with table })

/-- Resolves a column. -/
def resolve (column : Value) : Build ColumnRef := withQuery fun q => q.resolve column

/-- Resolves a column that may be given as a query, which is none. -/
def resolveOperand : Operand → Build ColumnRef
  | .value v => resolve v
  | operand => Exec.fail (.noAttribute operand.toValue "strip")

/-- A value as a node identity. -/
def identity (v : Value) : Result Int :=
  match v.toInteger with
  | .ok n => .ok n
  | .error f =>
    if f.kind = .overflow then .error (.failure f)
    else .error (.builder (.identityNotInteger v.literal f))

/-- The value that is bound for a column: for an identity it has to be an integer. -/
def valueFor (c : ColumnRef) (v : Value) : Result Value :=
  if c.identity then (identity v).map .int else .ok v

/-- The values that are bound for a column. -/
def valuesFor (c : ColumnRef) (vs : List Value) : Result (List Value) := vs.mapM (valueFor c)

/-- Binds a value under a name from its column. -/
def bindValue (c : ColumnRef) (v : Value) (bucket : Bucket) : Build String := do
  ask .bindings "bind"
  if c.identity then ask .grammar "get_id_replacement"
  bind (bindingBase c) v bucket

/-- Binds a value that is compared with a column. -/
def bindColumn (c : ColumnRef) (v : Value) (bucket : Bucket) : Build String := do
  let v ← Exec.ofResult (valueFor c v)
  bindValue c v bucket

/-- Runs a callback on another query with the same table. What it binds stays bound, unless nothing
at all stands for the table: then the other query has one of its own. -/
def onQuery (start : Query) (body : Build Unit) : Build Query := Exec.ofOutcome fun b =>
  let isApart := (b.query.standIn? .bindings).any (·.isNull)
  let table := if isApart then BindingTable.empty else b.table
  let (r, after) := body.outcome { b with query := start, table }
  (r.map fun _ => after.query,
    { b with table := if isApart then b.table else after.table, used := after.used })

/-- The query of a sub-query in the making: it is for the same builder, and asks for nothing yet. -/
def subStart (q : Query) : Query :=
  let outer : List QueryPart := [.connection, .grammar, .bindings]
  { Query.empty with standIns := q.standIns.filter fun s => s.1 ∈ outer && !s.2.isNull }

/-- The callback behind an operand. The class of texts can be called too, and writes the query down;
nothing else can. -/
def callback : Operand → Build Unit
  | .body build => build
  | .value (.builtinClass "str") => withQuery fun q => discard (Cypher.queryLiteral q)
  | operand =>
    Exec.fail (.wrongType ("'" ++ operand.toValue.typeName ++ "' object is not callable"))

/-- Labels of a node: those of an entity class, or the ones that are given. At least one is
needed. -/
def labels (v : Value) : Result (List Value) := do
  let given ← match v with
    | .entityClass c =>
      match c.labels with
      | some labels => .ok (labels.filter (·.isTruthy))
      | none => .error (.noAttribute v "_entity_config")
    | v => presentLabels v
  if given.isEmpty then .error (.builder .labelsMissing) else .ok given

/-- The placeholder of the labels that are given, or else of the primary node of the query. -/
def placeholderFor (q : Query) : Value → Result String
  | .null => do
    match ← q.placeholder? with
    | some p => return p
    | none => .error (.builder .targetMissing)
  | v => do
    q.ask .grammar "model_as_node"
    needPlaceholder (← labels v)

/-- Labels that are given to a builder. -/
def readLabels (v : Value) : Build (List Value) := do
  ask .grammar "normalize_labels"
  Exec.ofResult (labels (← useUp v))

/-- Sets the labels of the primary node. With an entity class, results become entities of it. -/
def target (v : Value) : Build Unit := do
  match v with
  | .entityClass _ => change fun q => { q with entity := v }
  | _ => pure ()
  let labels ← readLabels v
  change fun q => { q with labels := .tuple labels }

/-- Checks a condition and adds it. -/
def addChecked (p : Checked Predicate) : Build Unit := do
  needList .wheres
  addPredicate (← Exec.ofResult (Result.ofChecked p))

/-- A connective out of an argument. -/
def joint (v : Value) : Checked Connective := Checked.inside "boolean" (readConnective v)

/-- Whether a condition is negated, out of an argument. -/
def negation (v : Value) : Checked Bool := Checked.inside "negated" (readTruth v)

end Build

/-! ### Taking in queries -/

open BindingTable

/-- A pattern under new names of bindings. -/
def Pattern.rename (renames : Renames) (p : Pattern) : Pattern :=
  { p with binding := p.binding.map renames.apply }

/-- A condition on groups under new names of bindings. -/
def Having.rename (renames : Renames) (h : Having) : Having :=
  { h with binding := renames.apply h.binding }

/-- An aggregate under new names of bindings. -/
def Aggregate.rename (renames : Renames) (a : Aggregate) : Aggregate :=
  { a with percentile := a.percentile.map renames.apply }

mutual
/-- A predicate under new names of bindings. -/
def Predicate.rename (renames : Renames) : Predicate → Result Predicate
  | .compared j c operator binding => .ok (.compared j c operator (renames.apply binding))
  | .among j c binding negated => .ok (.among j c (renames.apply binding) negated)
  | .between j c binding negated => .ok (.between j c (renames.apply binding) negated)
  | .isNull j c negated => .ok (.isNull j c negated)
  | .carried j column operator value => .ok (.carried j column operator value)
  | .nested j wheres => do return .nested j (← renameAll renames wheres)
  | .comparedRow j c operator s => do return .comparedRow j c operator (← s.rename renames)
  | .amongRows j c s negated => do return .amongRows j c (← s.rename renames) negated
  | .present j s negated => do return .present j (← s.rename renames) negated
  | .foreign v => .ok (.foreign v)
/-- Predicates under new names of bindings. -/
def renameAll (renames : Renames) : List Predicate → Result (List Predicate)
  | [] => .ok []
  | p :: rest => do return (← p.rename renames) :: (← renameAll renames rest)
/-- A sub-query under new names of bindings; the copy belongs to its place alone. -/
def SubQuery.rename (renames : Renames) : SubQuery → Result SubQuery
  | .own q | .shared _ (some q) => do
    let kept ← q.copied
    let wheres ← renameAll renames q.wheres
    let branches ← renameBranches renames q.branches
    return .own
      { kept.withStandIn .bindings none with
        wheres, branches
        patterns := q.patterns.map (·.map (Pattern.rename renames))
        havings := q.havings.map (·.map (Having.rename renames))
        aggregate := q.aggregate.map (·.map (Aggregate.rename renames)) }
  | .shared _ none => .error (.failure .selfContained)
  | .foreign v => .ok (.foreign v)
/-- Branches under new names of bindings. -/
def renameBranches (renames : Renames) : List Branch → Result (List Branch)
  | [] => .ok []
  | b :: rest => do
    return ⟨← b.query.rename renames, b.keepsAll⟩ :: (← renameBranches renames rest)
end

namespace Build

/-- Whether a query that was built on its own uses the table of the builder. -/
def isSameTable (q : Incoming) (b : Builder) : Bool :=
  match q.query.standIn? .bindings, b.query.standIn? .bindings with
  | none, none => q.tableNumber = b.tableNumber
  | some v, some w => v.isNull && w.isNull
  | _, _ => false

/-- Takes in a query that was built on its own. -/
def adopt (q : Incoming) : Build SubQuery := do
  let b ← get
  if isSameTable q b then pure (.shared q.number (some q.query))
  else
    ask .bindings "absorb"
    Exec.ofResult (q.query.ask .bindings "_buckets")
    let (table, renames) := b.table.absorb q.table
    set { b with table }
    Exec.ofResult ((SubQuery.own q.query).rename renames)

/-- The sub-query behind an operand. A callback builds one on the same table. -/
def subQuery : Operand → Build SubQuery
  | .query q => adopt q
  | operand => do
    let b ← get
    return .own (← onQuery (subStart b.query) (callback operand))

end Build

end GraphQuery
