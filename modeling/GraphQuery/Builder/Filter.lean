import GraphQuery.Builder.Basic

/-! # Adding predicates

* `Build.filter` takes the arguments of a comparison as callers give them and finds out what they
  mean: a comparison with a value, a null check, a group of predicates, or a sub-query.
* The other functions add one kind of predicate each.

Every value is bound before its predicate is checked. -/

namespace GraphQuery

open GraphQuery.Binding GraphQuery.Schema

/-- Whether no value goes with an operator: only equality can be asked of null. -/
def isIllegalPair (operator value : Operand) : Bool :=
  value.isNull && operator.isOperator &&
    match operator.toValue.text? with
    | some s => s ≠ "=" && s ≠ "<>" && s ≠ "!="
    | none => true

/-- What stands for an operator that was left out although a value was given. -/
def Operand.missing : Operand := .value (.handle "_Missing")

/-- The entries of an operand that is a map. -/
def Operand.entries? : Operand → Option (List (Value × Value))
  | .value v => v.entries?
  | _ => none

/-- Whether an operand is the word for membership. -/
def Operand.isMembership : Option Operand → Bool
  | some (.value (.text s)) => Text.lowercase s == "in"
  | _ => false

/-- The values that membership is tested in: a text, bytes or a map is no list. -/
def membershipValues (v : Value) : Result (List Value) :=
  let v : Value := match v with
    | .series xs => .ofList xs
    | v => v
  let refused : Result (List Value) := .error (.builder (.notAList v.typeName))
  match v with
  | .text _ | .bytes _ | .map _ _ | .node _ | .link _ => refused
  | v => v.members?.elim refused .ok

namespace Build

/-- Adds a predicate that checks whether a column is null. -/
def isNull (column : Operand) (joined negated : Value) : Build Unit := do
  needList .wheres
  let c ← resolveOperand column
  addChecked (((joint joined).and (negation negated)).map fun p => .isNull p.1 c p.2)

/-- Adds a comparison of a column with the single value of a sub-query. -/
def compareRow (column : Operand) (operator : Value) (query : Operand) (joined : Value) :
    Build Unit := do
  let s ← subQuery query
  needList .wheres
  let c ← resolveOperand column
  let operator ← Exec.ofResult (normalizeOperator operator)
  addChecked ((joint joined).map fun j => .comparedRow j c operator s)

/-- Adds a test of membership in the values of a sub-query. -/
def amongRows (column : Operand) (query : Operand) (joined negated : Value) : Build Unit := do
  let s ← subQuery query
  needList .wheres
  let c ← resolveOperand column
  addChecked (((joint joined).and (negation negated)).map fun p => .amongRows p.1 c s p.2)

/-- Adds a test of membership in a list of values, or in a sub-query. -/
def among (column values : Operand) (joined negated : Value) : Build Unit :=
  match values with
  | .value v => do
    discard (Exec.ofResult (membershipValues v))
    let c ← resolveOperand column
    let given ← Exec.ofResult (membershipValues (← useUp v))
    let values ← Exec.ofResult (valuesFor c given)
    let binding ← bindValue c (.ofList values) .filter
    addChecked (((joint joined).and (negation negated)).map fun p => .among p.1 c binding p.2)
  | query => amongRows column query joined negated

/-- Adds a test whether a column lies between two values, ends included. -/
def between (column : Operand) (values joined negated : Value) : Build Unit := do
  let given ← Exec.ofResult (Result.ofFailure (← useUp values).members)
  if given.length ≠ 2 then fault .notTwoBounds
  let c ← resolveOperand column
  let values ← Exec.ofResult (valuesFor c given)
  let binding ← bindValue c (.ofList values) .filter
  addChecked (((joint joined).and (negation negated)).map fun p => .between p.1 c binding p.2)

/-- Adds a comparison of two texts that are written as they are; nothing is bound. -/
def carried (column operator value joined : Value) : Build Unit :=
  let column := Checked.inside "column" (readText column)
  let operator := Checked.inside "operator" (readText operator)
  let value := Checked.inside "value" (readText value)
  addChecked ((((joint joined).and column).and (operator.and value)).map fun p =>
    .carried p.1.1 p.1.2 p.2.1 p.2.2)

/-- Adds a test whether a sub-query has rows. -/
def present (query : Operand) (joined negated : Value) : Build Unit := do
  let s ← subQuery query
  addChecked (((joint joined).and (negation negated)).map fun p => .present p.1 s p.2)

/-- The query that a group of predicates starts from: the same nodes, and no predicates. -/
def groupStart (q : Query) : Result Query := do
  q.walk .patterns
  return { subStart q with labels := q.labels, patterns := q.patterns }

/-- Adds predicates in parentheses. A group without predicates leaves no trace. -/
def nest (wheres : List Predicate) (joined : Value) : Build Unit :=
  if wheres.isEmpty then pure () else addChecked ((joint joined).map fun j => .nested j wheres)

/-- Parentheses without predicates in them, out of their fields. -/
def readGroup (fields : Properties) : Result Predicate :=
  if (lookup? "wheres" fields).isSome then .error (.wrongType "the predicates are given twice")
  else
    let joint := defaulted fields "boolean" .all readConnective
    let kind := defaulted fields "kind" () (readChoice [("nested", ())])
    Result.ofChecked ((joint.and kind).map fun p => .nested p.1 [])

/-- Adds the predicates of a callback in parentheses. -/
def group (body : Build Unit) (joined : Value) : Build Unit := do
  let inner ← onQuery (← withQuery groupStart) body
  nest inner.wheres joined

/-- Adds a comparison of a column with a value. -/
def compare (column operator : Operand) (v : Value) (joined : Value) : Build Unit := do
  let c ← resolveOperand column
  let binding ← bindColumn c v .filter
  needList .wheres
  let operator ← Exec.ofResult (normalizeOperator operator.toValue)
  addChecked ((joint joined).map fun j => .compared j c operator binding)

/-- Adds a comparison whose operator is known: with a sub-query, with null, or with a value. -/
def compareOperand (column operator value : Operand) (joined : Value) : Build Unit :=
  match value with
  | .value .null => isNull column joined (.bool (operator.toValue.text? != some "="))
  | .value v => compare column operator v joined
  | query => compareRow column operator.toValue query joined

/-- The sign of equality. -/
def equality : Operand := .value (.text "=")

/-- The operator and the value of a comparison. A single argument is a value to be equal to, and so
is what stands for an operator and is none. -/
def comparison (operator value : Option Operand) : Result (Operand × Operand) :=
  match operator, value with
  | none, none => .error (.builder .valueMissing)
  | some operator, none => .ok (equality, operator)
  | operator, some value =>
    let operator := operator.getD Operand.missing
    if isIllegalPair operator value then .error (.builder .illegalComparison)
    else .ok (operator, value)

/-- Adds one equality for each entry of a map whose keys are columns. -/
def compareColumns : List (Value × Value) → Build Unit
  | [] => pure ()
  | (key, v) :: rest => do
    compareOperand (.value key) equality (.value v) (.text "and")
    compareColumns rest

/-- Adds one equality for each entry of a map. A driver node or relationship as a key stands for a
group of its properties. -/
def compareEntries : List (Value × Value) → Build Unit
  | [] => pure ()
  | (key, v) :: rest => do
    match key.entries? with
    | some columns => group (compareColumns columns) (.text "and")
    | none => compareOperand (.value key) equality (.value v) (.text "and")
    compareEntries rest

/-- Adds a predicate as callers write it: a column with an operator and a value, a column with a
value, a map of columns, or a callback for a group. -/
def filter (column : Operand) (operator value : Option Operand) (joined : Value) : Build Unit :=
  match Operand.isMembership operator, value with
  | true, some values => among column values joined (.bool false)
  | _, _ =>
    match column.entries?, column with
    | some entries, _ => group (compareEntries entries) joined
    | none, .body body => group body joined
    | none, column => do
      let (operator, value) ← Exec.ofResult (comparison operator value)
      if operator.isOperator then compareOperand column operator value joined
      else compareOperand column equality operator joined

end Build

end GraphQuery
