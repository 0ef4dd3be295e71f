import GraphQuery.Cypher.Write
import GraphQuery.Execution.LiveQuery

/-! # Writing

* `insert` creates nodes, `insertOne` creates one and gives its identity.
* `update`, `delete` and `relabel` act on the nodes that the query matches, and tell how many there
  were.
* `insertStatement`, `createStatement` and `updateStatement` are what they send: a text, and the
  values that are written, under the names that stand for them in the text.

The values of a write get bindings of their own, which are free both in the table of the query and
among each other. They are sent with the statement and are not kept. -/

namespace GraphQuery

open GraphQuery.Binding GraphQuery.Cypher GraphQuery.Text

/-- A value as it is written: dates and times as texts. -/
def writtenValue (pattern : String) : Value → Value
  | .date d => .text (d.format pattern)
  | .moment m => .text (m.format pattern)
  | .clock c => .text (c.format pattern)
  | v => v

/-- The entries of a value that has to be a map. -/
def mapEntries (v : Value) : Result (List (Value × Value)) :=
  match v.entries? with
  | some entries => .ok entries
  | none => .error (.noAttribute v "items")

/-- Entries as properties: their keys have to be texts. -/
def propertiesOf (entries : List (Value × Value)) : Result Properties :=
  entries.mapM fun e => match e.1 with
    | .text name => .ok (name, e.2)
    | _ => .error (.wrongType "expected string or bytes-like object")

/-- What the values of a write must not take the names of, and how dates are written. -/
structure WriteFrame where
  table : BindingTable
  pattern : String

/-- Binds values under names that are free in a table and not among those that are `taken`. Gives
the name for each property, and the taken ones with the new values. -/
def allocate (w : WriteFrame) : Properties → (taken : Properties) → Assignments × Properties
  | [], taken => ([], taken)
  | (property, v) :: rest, taken =>
    let name := firstFree (w.table.textNames ++ taken.map (·.1)) (bindingName property)
    let (assigned, taken) := allocate w rest (taken ++ [(name, writtenValue w.pattern v)])
    ((property, name) :: assigned, taken)

/-- Binds the values of several records, one after another. -/
def allocateAll (w : WriteFrame) :
    List Properties → (taken : Properties) → List Assignments × Properties
  | [], taken => ([], taken)
  | record :: rest, taken =>
    let (assigned, taken) := allocate w record taken
    let (all, taken) := allocateAll w rest taken
    (assigned :: all, taken)

namespace LiveQuery

/-- Whether a value is written under a pattern. -/
def isDated : Value → Bool
  | .date _ | .moment _ | .clock _ => true
  | _ => false

/-- What the values of a write are bound beside. Dates among them need a pattern. -/
def writeFrame (l : LiveQuery) (values : List Value) : Result WriteFrame := do
  if !values.isEmpty then
    (l.query.standIn? .bindings).forM fun v =>
      discard (Result.ofFailure (v.holds (.text "")))
  if values.any isDated then l.query.ask .grammar "date_format"
  match l.datePattern with
  | some pattern => return ⟨l.builder.table, pattern⟩
  | none =>
    if values.any isDated then .error (.wrongType "strftime() argument 1 must be str")
    else return ⟨l.builder.table, standardPattern⟩

/-- What a grammar is asked for before it writes a statement. -/
def writerName : String := "compile_insert"

/-- Refuses what stands for the grammar and cannot write a statement. -/
def needGrammar : Exec LiveQuery Unit := build (Build.ask .grammar writerName)

/-- What is sent with a write: the parameters of the query and the values that are written. -/
def withWritten (l : LiveQuery) (written : Properties) : Result Value := do
  return .ofPairs (ofEntries ((← l.parameters) ++ written.map fun p => (.text p.1, p.2)))

/-- Sends a write with the values that are written. -/
def send {α : Type} (step : (statement bindings : Value) → Exec Channel α) (text : String)
    (written : Properties) : Exec LiveQuery α := do
  needChannel
  let bindings ← Exec.ofResult ((← get).withWritten written)
  onChannel (step (.text text) bindings)

/-! ### Creating -/

/-- Properties in the order of their names. -/
def sortedByName (properties : Properties) : Properties :=
  properties.mergeSort fun a b => !(b.1 < a.1)

theorem sortedByName_perm (properties : Properties) : (sortedByName properties).Perm properties :=
  List.mergeSort_perm ..

theorem sortedByName_ordered (properties : Properties) :
    (sortedByName properties).Pairwise fun a b => a.1 ≤ b.1 := by
  have named {a b : String × Value} : (!decide (b.1 < a.1)) = true ↔ a.1 ≤ b.1 := by
    rw [Bool.not_eq_true', decide_eq_false_iff_not, String.not_lt]
  refine (List.pairwise_mergeSort (fun a b c ab bc => ?_) (fun a b => ?_) _).imp named.mp
  · exact named.mpr (String.le_trans (named.mp ab) (named.mp bc))
  · rw [Bool.or_eq_true, named, named]
    exact String.le_total a.1 b.1

/-- The records that are inserted: a map is one record. -/
def recordsToInsert (values : Value) : Result (List Properties) := do
  let records ← match values.entries? with
    | some _ => .ok [values]
    | none => Result.ofFailure values.members
  records.mapM fun record => do return sortedByName (← propertiesOf (← mapEntries record))

/-- The statement that creates one node for each record, with the values that are written. -/
def insertStatement (l : LiveQuery) (values : Value) : Result (String × Properties) := do
  let records ← recordsToInsert values
  let frame ← l.writeFrame (records.flatMap fun r => r.map (·.2))
  let (assigned, written) := allocateAll frame records []
  l.query.ask .grammar writerName
  return (← insertText l.query assigned, written)

/-- Creates one node for each record, all in one statement. Without records nothing is sent. -/
def insert (values : Value) : Exec LiveQuery Unit := do
  if values.isTruthy then
    let values ← useUp values
    let (text, written) ← Exec.ofResult ((← get).insertStatement values)
    discard (send Channel.insert text written)

/-- What the column of the primary node holds in a row. -/
def primaryCell (l : LiveQuery) (row : Row) : Result Value := do
  return (entryAt? (.ofText? (← l.placeholder?)) row).getD .null

/-- The statement that creates one node, with the values that are written. -/
def createStatement (l : LiveQuery) (values : Value) : Result (String × Properties) := do
  let properties ← (mapEntries values).bind propertiesOf
  let frame ← l.writeFrame (properties.map (·.2))
  let (assigned, written) := allocate frame properties []
  l.query.ask .grammar writerName
  return (← createText l.query assigned, written)

/-- Creates a node and gives its identity; null if nothing comes back. -/
def insertOne (values : Value) : Exec LiveQuery Value := do
  let l ← get
  let (text, written) ← Exec.ofResult (l.createStatement values)
  match ← send Channel.insert text written with
  | [] => return .null
  | row :: _ => Exec.ofResult ((l.primaryCell row).bind identityOf)

/-! ### Changing what matches -/

/-- The property under which the new value of another one is bound, apart from any value that the
query compares that one with. -/
def updatedName (property : String) : String := property ++ "_update"

/-- The statement that sets properties of the nodes that match, with the values that are written. -/
def updateStatement (l : LiveQuery) (values : Value) : Result (String × Properties) := do
  let entries ← mapEntries values
  l.query.ask .grammar writerName
  discard (writeTarget l.query "update")
  let properties ← propertiesOf entries
  let frame ← l.writeFrame (properties.map (·.2))
  let (assigned, written) := allocate frame (properties.map fun p => (updatedName p.1, p.2)) []
  let names := (properties.map (·.1)).zip (assigned.map (·.2))
  return (← updateText l.query names, written)

/-- Sets properties of the nodes that match, and tells how many there were. The identity cannot be
set, and without values nothing is sent. -/
def update (values : Value) : Exec LiveQuery Int := do
  let hasIdentity ← Exec.ofResult (Result.ofFailure (values.holds (.text "id")))
  match values with
  | .stream xs mark => build (Build.leave mark (streamAfter (.text "id") xs))
  | _ => pure ()
  if hasIdentity then Exec.fail (.builder .identityUpdate)
  if !values.isTruthy then return 0
  let (text, written) ← Exec.ofResult ((← get).updateStatement values)
  send Channel.affecting text written

/-- Deletes the nodes that match, or with an identity that node alone, and tells how many there
were. The condition on the identity stays. -/
def delete (id : Operand) : Exec LiveQuery Int := do
  if !id.isNull then requireIdentity id
  needGrammar
  let l ← get
  let text ← Exec.ofResult (deleteText l.query)
  send Channel.affecting text []

/-- The name of an operation on labels. -/
def labelOperation (operation : Value) : Result Unit :=
  if operation.isIn [.text "add", .text "drop"] then .ok ()
  else .error (.builder (.labelOperation operation.plainText))

/-- Adds labels to the nodes that match or drops them, and tells whether there were any. -/
def relabel (labels operation : Value) : Exec LiveQuery Bool := do
  Exec.ofResult (labelOperation operation)
  let labels ← build (Build.readLabels labels)
  let l ← get
  let text ← Exec.ofResult (relabelText l.query (.tuple labels) operation)
  return (← send Channel.affecting text []) ≠ 0

end LiveQuery

end GraphQuery
