import GraphQuery.Binding.Name
import GraphQuery.Query.Clause
import GraphQuery.Query.Label
import GraphQuery.Schema.Scalar

/-! # Resolving columns

Callers name columns as texts: `age`, `post.title`, `id`, `User.id`, `id(user)`.

* `Query.knownPlaceholders` lists the nodes that a query introduces.
* `Query.resolve` turns a column into a reference: a property of the primary node, a property of
  the node before the point, or a node's identity.
* `bindingBase` is the name from which a value for a column gets its binding. -/

namespace GraphQuery

open GraphQuery.Text GraphQuery.Binding GraphQuery.Schema

/-- Checks the fields of a column reference. -/
def ColumnRef.ofFields (fields : Properties) : Checked ColumnRef :=
  let name := required fields "name" readName
  let placeholder := defaulted fields "alias" none (readOptional readText)
  let identity := defaulted fields "identity" false readTruth
  ((name.and placeholder).and identity).map fun p => ⟨p.1.1, p.1.2, p.2⟩

/-- What can be read of a column reference by name. -/
def ColumnRef.attributes (c : ColumnRef) : Properties :=
  [("name", .text c.name), ("alias", .ofText? c.placeholder), ("identity", .bool c.identity),
    ("qualified", .text c.qualified)]

namespace Query

/-- The placeholder of the primary node; without labels there is none. -/
def placeholder? (q : Query) : Result (Option String) :=
  if q.labels.isTruthy then do
    q.ask .grammar "model_as_node"
    return some (← needPlaceholder (← presentLabels q.labels))
  else .ok none

/-- The labels of the primary node that are texts. -/
def labelTexts (q : Query) : List String := (q.labels.members?.getD []).filterMap (·.text?)

end Query

/-- Adds a text at the end unless it is there. -/
def addNew (texts : List String) (text : String) : List String :=
  if text ∈ texts then texts else texts ++ [text]

namespace Query

/-- The placeholders of the nodes that a query introduces, the primary one first. -/
def knownPlaceholders (q : Query) : Result (List String) := do
  let primary ← q.placeholder?
  q.walk .patterns
  let patterns ← q.patterns.mapM (·.need "kind")
  return patterns.foldl
    (fun known p => addNew (addNew known p.parent.placeholder) p.far.placeholder) primary.toList

/-- Whether a text is the placeholder of a node of the query. -/
def knows (q : Query) (s : String) : Result Bool := do return (← q.knownPlaceholders).contains s

/-- The placeholder that the text before a point stands for: a known one, or that of a label. -/
def ownerPlaceholder (q : Query) (owner : String) : Result String := do
  if ← q.knows owner then return owner
  else do
    q.ask .grammar "model_as_node"
    needPlaceholder (if owner = "" then [] else [.text owner])

/-- A reference with a name that is not empty. -/
def namedColumn (name : String) (placeholder : Option String) (identity : Bool) :
    Result ColumnRef :=
  Result.ofChecked ((Checked.inside "name" (textLength (some 1) none name)).map
    fun n => ⟨n, placeholder, identity⟩)

/-- Resolves a column that is given as a text. -/
def resolveText (q : Query) (text : String) : Result ColumnRef :=
  let column := trim text
  match identityCall? column.toList with
  | some node => .ok ⟨"id", some (String.ofList node), true⟩
  | none =>
    match splitAtFirst '.' column.toList with
    | some (before, after) => do
      let placeholder ← q.ownerPlaceholder (String.ofList before)
      let name := String.ofList after
      namedColumn name (some placeholder) (name == "id")
    | none =>
      if column = "id" then
        do
          match ← q.placeholder? with
          | some p => return ⟨"id", some p, true⟩
          | none => .error (.builder .identityWithoutTarget)
      else do namedColumn column (← q.placeholder?) false

/-- Resolves a column. A reference without a node is given the primary one. -/
def resolve (q : Query) : Value → Result ColumnRef
  | .column c =>
    if c.placeholder.isNone then do return { c with placeholder := ← q.placeholder? } else .ok c
  | .text s => q.resolveText s
  | .bytes _ => .error (.wrongType "cannot use a string pattern on a bytes-like object")
  | .builtinClass "str" => .error (.wrongType "unbound method str.strip() needs an argument")
  | v => .error (.noAttribute v "strip")

end Query

/-- The name of an identity reference without parentheses and blanks: `id(user)` is `iduser`. -/
def identityName (column : String) : String :=
  String.ofList ((dropBlanks column.toList).filter fun c => c ≠ '(' ∧ c ≠ ')')

/-- The name from which a value for a column gets its binding. -/
def bindingBase (c : ColumnRef) : String :=
  if c.identity then identityName c.qualified else bindingName c.name

end GraphQuery
