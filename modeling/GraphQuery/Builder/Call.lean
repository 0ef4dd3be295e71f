import GraphQuery.Builder.Filter
import GraphQuery.Builder.Match
import GraphQuery.Builder.Projection

/-! # Calls

A `Call` is one step of building a query as data: the clause it adds and the arguments that a caller
gives. Callbacks are lists of calls, so a whole sequence of calls can be looked at before it runs.

* `Call.run` runs a call on a builder and `Call.runAll` a sequence, up to the first failure.
* `Call.awaited?` is the callback that has to be run elsewhere before a call can run, and
  `Call.settle` puts the query in its place that the callback has built.
* The calls at the end are shorthands with some arguments filled in. -/

namespace GraphQuery

/-- A callback that is run elsewhere, as a value. -/
def callbackValue (number : Nat) : Value := .object ⟨.callback number, "function", none, none, none⟩

mutual
/-- One step of building a query. The connective `joint` of a predicate and the other options are
values, since callers may get them wrong. -/
inductive Call where
  | target (labels : Value)
  | filter (column : Argument) (operator value : Option Argument) (joint : Value)
  | group (body : Argument) (joint : Value)
  | compareRow (column : Argument) (operator : Value) (query : Argument) (joint : Value)
  | among (column values : Argument) (joint negated : Value)
  | amongRows (column query : Argument) (joint negated : Value)
  | between (column : Argument) (values joint negated : Value)
  | isNull (column : Argument) (joint negated : Value)
  | carried (column operator value joint : Value)
  | present (query : Argument) (joint negated : Value)
  | relation (parent related placeholder relationship property value direction boolean : Value)
  | anyRelation (parent placeholder property value direction boolean relationship : Value)
  | select (columns : List Value)
  | addSelect (columns : List Value)
  | distinct
  | stage (parts : List Value) (named : List (String × Value))
  | groupBy (columns : List Value)
  | having (column : Value) (operator value : Option Argument) (joint : Value)
  | orderBy (column direction : Value)
  | limit (count : Value)
  | offset (count : Value)
  | page (number size : Value)
  | union (query : Argument) (keepsAll : Value)
  | addBindings (values bucket : Value)
  | setAggregate (aggregate : Option Aggregate)
  | addPredicate (predicate : Predicate)
  | addPattern (pattern : Pattern)
  /-- predicates in parentheses; without any it leaves no trace -/
  | nest (wheres : List Predicate) (joint : Value)
  /-- a step whose arguments do not fit -/
  | refused (reason : Error)
/-- An argument that may stand for a query. -/
inductive Argument where
  | value (v : Value)
  | body (calls : List Call)
  | query (q : Incoming)
  /-- a callback that is run elsewhere, by its number -/
  | callback (number : Nat)
end

mutual
/-- Runs a call on a builder. -/
def Call.run : Call → Build Unit
  | .target labels => Build.target labels
  | .filter column operator value joint =>
    Build.filter column.operand (operand? operator) (operand? value) joint
  | .group body joint => Build.group (Build.callback body.operand) joint
  | .compareRow column operator query joint =>
    Build.compareRow column.operand operator query.operand joint
  | .among column values joint negated =>
    Build.among column.operand values.operand joint negated
  | .amongRows column query joint negated =>
    Build.amongRows column.operand query.operand joint negated
  | .between column values joint negated => Build.between column.operand values joint negated
  | .isNull column joint negated => Build.isNull column.operand joint negated
  | .carried column operator value joint => Build.carried column operator value joint
  | .present query joint negated => Build.present query.operand joint negated
  | .relation parent related placeholder relationship property value direction boolean =>
    Build.relation parent related placeholder relationship property value direction boolean
  | .anyRelation parent placeholder property value direction boolean relationship =>
    Build.anyRelation parent placeholder property value direction boolean relationship
  | .select columns => Build.select columns
  | .addSelect columns => Build.addSelect columns
  | .distinct => Build.makeDistinct
  | .stage parts named => Build.stage parts named
  | .groupBy columns => Build.groupBy columns
  | .having column operator value joint => do
    let (operator, value) ← Exec.ofResult (Build.comparison (operand? operator) (operand? value))
    Build.addHaving column operator.toValue value.toValue joint
  | .orderBy column direction => Build.orderBy column direction
  | .limit count => Build.limit count
  | .offset count => Build.offset count
  | .page number size => Build.page number size
  | .union query keepsAll => Build.union query.operand keepsAll
  | .addBindings values bucket => Build.addBindings values bucket
  | .setAggregate aggregate => Build.setAggregate aggregate
  | .addPredicate predicate => Build.addPredicate predicate
  | .addPattern pattern => Build.addPattern (.ok pattern)
  | .nest wheres joint => Build.nest wheres joint
  | .refused reason => Exec.fail reason
/-- An argument with its callback ready to run. -/
def Argument.operand : Argument → Operand
  | .value v => .value v
  | .body calls => .body (runAll calls)
  | .query q => .query q
  | .callback number => .value (callbackValue number)
/-- An argument that may be left out. -/
def operand? : Option Argument → Option Operand
  | none => none
  | some a => some a.operand
/-- Runs calls one after another, up to the first failure. -/
def runAll : List Call → Build Unit
  | [] => pure ()
  | c :: rest => do
    c.run
    runAll rest
end

/-! ### Callbacks that are run elsewhere -/

/-- What a callback is run on: a query of its own, or one for a group of predicates. -/
inductive CallbackPlace where
  | subQuery
  | group
deriving DecidableEq, Repr

/-- The callback that an argument is. -/
def Argument.callback? : Argument → Option Nat
  | .callback number => some number
  | _ => none

/-- An argument with the query in the place of its callback. -/
def Argument.settle (q : Incoming) : Argument → Argument
  | .callback _ => .query q
  | a => a

namespace Call

/-- A callback that is waited for, and what it is run on. -/
def awaits (place : CallbackPlace) (a : Argument) : Option (Nat × CallbackPlace) :=
  a.callback?.map fun number => (number, place)

/-- What a column is compared with, if the arguments of the comparison go together. -/
def comparedWith? (operator value : Option Argument) : Option Argument :=
  match Build.comparison (operand? operator) (operand? value) with
  | .error _ => none
  | .ok _ =>
    match operator, value with
    | some operator, some value => some (if operator.operand.isOperator then value else operator)
    | some operator, none => some operator
    | none, _ => none

/-- The callback that has to be run before a call can run, and what it is run on. -/
def awaited? : Call → Option (Nat × CallbackPlace)
  | .filter column operator value _ =>
    match Operand.isMembership (operand? operator), value with
    | true, some values => awaits .subQuery values
    | _, _ =>
      match column.operand.entries?, column.callback? with
      | some _, _ => none
      | none, some number => some (number, .group)
      | none, none => (comparedWith? operator value).bind (awaits .subQuery)
  | .group body _ => awaits .group body
  | .compareRow _ _ query _ | .amongRows _ query _ _ | .present query _ _ | .union query _ =>
    awaits .subQuery query
  | .among _ values _ _ => awaits .subQuery values
  | _ => none

/-- A call with the query in the place of the callback that built it. -/
def settle (q : Incoming) : Call → Call
  | .filter column operator value joint =>
    match column.callback? with
    | some _ => .nest q.query.wheres joint
    | none => .filter column (operator.map (·.settle q)) (value.map (·.settle q)) joint
  | .group _ joint => .nest q.query.wheres joint
  | .compareRow column operator query joint => .compareRow column operator (query.settle q) joint
  | .among column values joint negated => .among column (values.settle q) joint negated
  | .amongRows column query joint negated => .amongRows column (query.settle q) joint negated
  | .present query joint negated => .present (query.settle q) joint negated
  | .union query keepsAll => .union (query.settle q) keepsAll
  | c => c

/-- The name of the connective that narrows a condition down. -/
def andName : Value := .text "and"

/-- The name of the connective that widens a condition. -/
def orName : Value := .text "or"

def orFilter (column : Argument) (operator value : Option Argument) : Call :=
  filter column operator value orName

def orAmong (column values : Argument) : Call := among column values orName (.bool false)

def notAmong (column values : Argument) (joint : Value) : Call :=
  among column values joint (.bool true)

def orNotAmong (column values : Argument) : Call := notAmong column values orName

def orBetween (column : Argument) (values : Value) : Call :=
  between column values orName (.bool false)

def notBetween (column : Argument) (values joint : Value) : Call :=
  between column values joint (.bool true)

def orNotBetween (column : Argument) (values : Value) : Call := notBetween column values orName

def orIsNull (column : Argument) : Call := isNull column orName (.bool false)

def notNull (column : Argument) (joint : Value) : Call := isNull column joint (.bool true)

def orNotNull (column : Argument) : Call := notNull column orName

def orCarried (column operator value : Value) : Call := carried column operator value orName

def orPresent (query : Argument) : Call := present query orName (.bool false)

def notPresent (query : Argument) (joint : Value) : Call := present query joint (.bool true)

def orHaving (column : Value) (operator value : Option Argument) : Call :=
  having column operator value orName

def orderByDescending (column : Value) : Call := orderBy column (.text "desc")

/-- The newest rows first. -/
def latest (column : Value) : Call := orderByDescending column

/-- The oldest rows first. -/
def oldest (column : Value) : Call := orderBy column (.text "asc")

def unionAll (query : Argument) : Call := union query (.bool true)

/-- A comparison of a column with a value. -/
def equals (column : Value) (v : Value) : Call :=
  filter (.value column) (some (.value (.text "="))) (some (.value v)) andName

end Call

end GraphQuery
