import GraphQuery.Query.Resolve

/-! # The text of patterns

A statement introduces each node once, with its labels; later on the placeholder alone stands for
it. `Introduced` records the nodes that a statement has introduced so far.

* `patternText` writes one relationship pattern.
* `requiredText` writes the primary node and the patterns that every row has to match,
  `optionalText` those that may be missing.
* `constraintText` is the condition on the parent that a pattern carries.

A text names parameters; `write` says how each of them is written. -/

namespace GraphQuery.Cypher

open GraphQuery GraphQuery.Text

/-- The nodes that a statement has introduced, with the labels written there. -/
abbrev Introduced := List (String × List String)

/-! ### Column references -/

/-- The text of a column reference. -/
def columnText (c : ColumnRef) : Result String :=
  match c.identity, c.owner? with
  | true, none => .error (.render (.identityWithoutNode c.name))
  | true, some owner => .ok ("id(" ++ owner ++ ")")
  | false, some owner => .ok (owner ++ "." ++ quote c.name)
  | false, none => .ok (quote c.name)

/-! ### Single patterns -/

/-- A node inside a pattern. It is written with its labels where it is introduced. -/
def nodeText (node : NodePattern) (seen : Introduced) : Result (String × Introduced) :=
  match lookup? node.placeholder seen with
  | some known =>
    if node.labels ≠ [] ∧ known ≠ [] ∧ node.labels ≠ known then
      .error (.render (.otherLabels node.placeholder known node.labels))
    else .ok ("(" ++ node.placeholder ++ ")", seen)
  | none =>
    .ok ("(" ++ node.placeholder ++ labelText node.labels ++ ")",
      put node.placeholder node.labels seen)

/-- The variable of a relationship, from its type and its far end. -/
def relationshipVariable (relationship placeholder : String) : String :=
  "rel_" ++ String.ofList ((lowercase relationship).toList.map placeholderChar) ++ "_" ++
    placeholder

/-- A relationship between two nodes in the given direction. -/
def relationText (parent relationship far : String) : Direction → String
  | .outgoing => parent ++ "-[" ++ relationship ++ "]->" ++ far
  | .incoming => parent ++ "<-[" ++ relationship ++ "]-" ++ far
  | .either => parent ++ "-[" ++ relationship ++ "]-" ++ far

/-- A relationship type behind its colon; none if it is open. -/
def typeText : Option String → String
  | none => ""
  | some relationship => if relationship = "" then "" else ":" ++ quote relationship

/-- The relationship and the far end of a pattern. -/
def farText (far : FarEnd) (seen : Introduced) : Result ((String × String) × Introduced) :=
  match far with
  | .node pattern relationship => do
    let (node, seen) ← nodeText pattern seen
    return ((relationshipVariable relationship pattern.placeholder ++ ":" ++ quote relationship,
      node), seen)
  | .anyNode placeholder relationship =>
    if (lookup? placeholder seen).isSome then .error (.render (.placeholderTaken placeholder))
    else
      .ok (("rel_" ++ placeholder ++ typeText relationship, "(" ++ placeholder ++ ")"),
        put placeholder [] seen)
  | .foreign kind _ => .error (.render (.unsupportedMatch kind))

/-- Whether a far end is of a kind that can be written. -/
def FarEnd.check : FarEnd → Result Unit
  | .foreign kind _ => .error (.render (.unsupportedMatch kind))
  | _ => .ok ()

/-- A relationship pattern. -/
def patternText (p : Pattern) (seen : Introduced) : Result (String × Introduced) := do
  FarEnd.check p.far
  if p.far.placeholder = p.parent.placeholder then
    .error (.render (.relatedIsParent p.far.placeholder))
  else
    let (parent, seen) ← nodeText p.parent seen
    let ((relationship, far), seen) ← farText p.far seen
    return (relationText parent relationship far p.direction, seen)

/-- The condition that a pattern puts on its parent; empty if there is none. -/
def constraintText (write : String → String) (p : Pattern) : String :=
  match p.binding, p.property with
  | some binding, some property =>
    if binding = "" ∨ property = "" then ""
    else
      (if property = "id" then "id(" ++ p.parent.placeholder ++ ")"
        else p.parent.placeholder ++ "." ++ quote property) ++ " = " ++ write binding
  | _, _ => ""

/-! ### All patterns of a query -/

/-- The patterns that have to match, one clause for each. -/
def requiredClauses : List (Member Pattern) → Introduced → Result (List String × Introduced)
  | [], seen => .ok ([], seen)
  | .foreign v :: _, _ => .error (.noAttribute v "optional")
  | .clause p :: rest, seen =>
    if p.isOptional then requiredClauses rest seen
    else do
      let (text, seen) ← patternText p seen
      let (clauses, seen) ← requiredClauses rest seen
      return (("MATCH " ++ text) :: clauses, seen)

/-- The primary node, and then the patterns that have to match. -/
def requiredText (q : Query) (seen : Introduced) : Result (String × Introduced) := do
  match ← q.placeholder? with
  | none => do
    q.walk .patterns
    let (clauses, seen) ← requiredClauses q.patterns seen
    return (joined " " clauses, seen)
  | some node => do
    q.walk .patterns
    let primary := "MATCH (" ++ node ++ (← labelsText q.labels) ++ ")"
    let (clauses, seen) ← requiredClauses q.patterns (put node q.labelTexts seen)
    return (joined " " (primary :: clauses), seen)

/-- The patterns that may be missing, each with its own condition. -/
def optionalClauses (write : String → String) :
    List (Member Pattern) → Introduced → Result (List String × Introduced)
  | [], seen => .ok ([], seen)
  | .foreign v :: _, _ => .error (.noAttribute v "optional")
  | .clause p :: rest, seen =>
    if p.isOptional then do
      let (text, seen) ← patternText p seen
      let constraint := constraintText write p
      let clause := "OPTIONAL MATCH " ++ text ++
        (if constraint = "" then "" else " WHERE " ++ constraint)
      let (clauses, seen) ← optionalClauses write rest seen
      return (clause :: clauses, seen)
    else optionalClauses write rest seen

/-- The patterns that may be missing. -/
def optionalText (write : String → String) (q : Query) (seen : Introduced) :
    Result (String × Introduced) := do
  q.walk .patterns
  let (clauses, seen) ← optionalClauses write q.patterns seen
  return (joined " " clauses, seen)

/-- The conditions of the patterns that have to match. -/
def requiredConstraints (write : String → String) (q : Query) : List String :=
  let patterns := q.patterns.filterMap (·.clause?)
  ((patterns.filter fun p => !p.isOptional).map (constraintText write)).filter (· ≠ "")

end GraphQuery.Cypher
