/-! # Column references

A `ColumnRef` points to a property of a node or to the node's intrinsic identity. The node is named
by its *placeholder*, the variable it has in the patterns of a query. -/

namespace GraphQuery

/-- A property of the node behind `placeholder`, or with `identity` that node's identity. Without a
placeholder the property stands alone. -/
structure ColumnRef where
  name : String
  placeholder : Option String
  identity : Bool
deriving DecidableEq, Repr

/-- The placeholder, if it is there and not empty. -/
def ColumnRef.owner? (c : ColumnRef) : Option String := c.placeholder.filter (· ≠ "")

/-- The reference as one text: `id(node)`, `node.name`, or `name`. Where an identity has no
placeholder, that is spelled out. -/
def ColumnRef.qualified (c : ColumnRef) : String :=
  if c.identity then "id(" ++ c.placeholder.getD "None" ++ ")"
  else match c.owner? with
    | some owner => owner ++ "." ++ c.name
    | none => c.name

end GraphQuery
