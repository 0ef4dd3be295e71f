import GraphQuery.Cypher.Select
import GraphQuery.Query.Related

/-! # The text of writes

* `createText` and `insertText` create nodes, `createWithText` creates one with its related nodes.
* `updateText`, `deleteText` and `relabelText` act on the nodes that a query matches, and return how
  many there were.

A written property comes as a pair: the name of the property and the name of its binding. -/

namespace GraphQuery.Cypher

open GraphQuery GraphQuery.Text

/-- Names of properties with the names of their bindings. -/
abbrev Assignments := List (String × String)

/-- The properties of a new node. -/
def propertiesText (assignments : Assignments) : String :=
  if assignments.isEmpty then ""
  else " \x7b" ++ joined ", " (assignments.map fun a => quote a.1 ++ ": " ++ parameter a.2) ++ "\x7d"

/-- The placeholder of the nodes that are written. -/
def writeTarget (q : Query) (action : String) : Result String := do
  match ← q.placeholder? with
  | some node => return node
  | none => .error (.render (.writeWithoutLabels action))

/-! ### Creating -/

/-- Creates one node and returns it. -/
def createText (q : Query) (assignments : Assignments) : Result String := do
  let node ← writeTarget q "create a node"
  return "CREATE (" ++ node ++ (← labelsText q.labels) ++ propertiesText assignments ++ ") RETURN " ++ node

/-- The variable of the new node with this number, counted from zero. -/
def numbered (base : String) (index : Nat) : String :=
  if index = 0 then base else base ++ "_" ++ toString (index + 1)

/-- The patterns of new nodes, one for each record. -/
def newNodes (base labels : String) : (index : Nat) → List Assignments → List String
  | _, [] => []
  | index, record :: rest =>
    ("(" ++ numbered base index ++ labels ++ propertiesText record ++ ")") ::
      newNodes base labels (index + 1) rest

/-- Creates one node for each record. -/
def insertText (q : Query) (records : List Assignments) : Result String := do
  let node ← writeTarget q "insert"
  return "CREATE " ++ joined ", " (newNodes node (← labelsText q.labels) 0 records)

/-- The direction in which a relationship is stored: it always has one. -/
def storedDirection : Direction → Direction
  | .incoming => .incoming
  | _ => .outgoing

/-- The relationships from a new node to its new related nodes. -/
def newRelations (node : String) (r : RelatedCreation) : List String :=
  (newNodes r.placeholder (labelText r.labels) 0 r.creates).map fun far =>
    relationText ("(" ++ node ++ ")") (":" ++ quote r.relationship) far (storedDirection r.direction)

/-- Attaches existing nodes to a new one, in a sub-query of its own so that a relation without any
match leaves the row alone. -/
def attachText (node : String) (r : RelatedCreation) (binding : String) : String :=
  let far := r.placeholder ++ "_attached"
  "CALL \x7b WITH " ++ node ++ " MATCH (" ++ far ++ labelText r.labels ++ ") WHERE id(" ++ far ++
    ") IN " ++ parameter binding ++ " MERGE " ++
    relationText ("(" ++ node ++ ")") (":" ++ quote r.relationship) ("(" ++ far ++ ")")
      (storedDirection r.direction) ++ " \x7d"

/-- The attachments of a new node. -/
def attachments (node : String) (related : List RelatedCreation) : List String :=
  related.filterMap fun r => (r.attach.filter (· ≠ "")).map (attachText node r)

/-- Creates one node together with its related nodes. -/
def createWithText (q : Query) (assignments : Assignments) (related : List RelatedCreation) :
    Result String := do
  let node ← writeTarget q "create a node"
  let pattern := "(" ++ node ++ (← labelsText q.labels) ++ propertiesText assignments ++ ")"
  let attached := attachments node related
  return "CREATE " ++ joined ", " (pattern :: related.flatMap (newRelations node)) ++
    (if attached.isEmpty then "" else " WITH " ++ node ++ " " ++ joined " " attached) ++
    " RETURN " ++ node

/-! ### Changing what matches -/

/-- The patterns and conditions that pick the nodes to change. Optional patterns can repeat a node,
so each node is taken once. -/
def targetText (q : Query) : Result String := do
  let (stage, _) ← matchStage parameter q (conditionsOf parameter q) []
  if q.patterns.any fun p => p.clause?.any (·.isOptional) then
    return stage ++ " WITH DISTINCT " ++ (← q.placeholder?).getD "None"
  else return stage

/-- The end of a change: how many nodes there were. -/
def affectedText (node : String) : String := " RETURN count(" ++ node ++ ") AS affected"

/-- Sets properties of every node that matches. -/
def updateText (q : Query) (assignments : Assignments) : Result String := do
  let node ← writeTarget q "update"
  let sets := joined ", " (assignments.map fun a =>
    node ++ "." ++ quote a.1 ++ " = " ++ parameter a.2)
  return (← targetText q) ++ " SET " ++ sets ++ affectedText node

/-- Deletes every node that matches, with its relationships. -/
def deleteText (q : Query) : Result String := do
  let node ← writeTarget q "delete"
  return (← targetText q) ++ " DETACH DELETE " ++ node ++ affectedText node

/-- Adds labels to every node that matches, or drops them. -/
def relabelText (q : Query) (labels operation : Value) : Result String := do
  let node ← writeTarget q "update labels"
  let keyword ← match operation with
    | .text "add" => .ok "SET"
    | .text "drop" => .ok "REMOVE"
    | _ => .error (.render (.labelOperation operation.plainText))
  let target ← targetText q
  return target ++ " " ++ keyword ++ " " ++ node ++ (← labelsText labels) ++ affectedText node

end GraphQuery.Cypher
