import GraphQuery.Builder.Basic

/-! # Adding relationship patterns

A relationship pattern joins a parent node, given by its labels, to a far end. With a property and a
value the parent is constrained to that value, which is bound like any other. -/

namespace GraphQuery

open GraphQuery.Binding GraphQuery.Schema

namespace Build

/-- Binds the value that a parent is constrained to. Without a property or a value there is none. -/
def constrain (parent : String) (property value : Value) : Build (Option String) :=
  match property, value with
  | .null, _ | _, .null => pure none
  | .text p, v =>
    if p = "id" then do
      ask .grammar "get_id_replacement"
      ask .bindings "bind"
      let n ← Exec.ofResult (identity v)
      some <$> bind (identityName ("id(" ++ parent ++ ")")) (.int n) .pattern
    else some <$> bind (bindingName p) v .pattern
  | _, _ => do
    ask .bindings "bind"
    Exec.fail (.wrongType "expected string or bytes-like object")

/-- Whether a pattern is optional, by the word that joins it. -/
def optionality (v : Value) : Result Bool := do
  hasSmallLetters v
  return v.text?.any fun s => Text.lowercase s == "or"

/-- A placeholder that a caller chooses for a node. -/
def chosenPlaceholder (field : String) (v : Value) : Checked String :=
  Checked.inside field (readName v)

/-- The parts of a pattern that every kind of far end has. -/
structure PatternFrame where
  parent : NodePattern
  direction : Direction
  isOptional : Bool
  property : Option String
  binding : Option String

/-- The pattern with its far end. -/
def PatternFrame.withFar (frame : PatternFrame) (far : FarEnd) : Pattern :=
  { frame with far }

/-- Checks the parts that every kind of far end has. -/
def frame (parent : NodePattern) (isOptional : Bool) (binding : Option String)
    (direction property : Value) : Checked PatternFrame :=
  let direction := Checked.inside "direction" (readDirection direction)
  let property := Checked.inside "property" (readOptional readText property)
  (direction.and property).map fun p => ⟨parent, p.1, isOptional, p.2, binding⟩

/-- Checks a pattern and adds it at the end. -/
def addPattern (p : Checked Pattern) : Build Unit := do
  needList .patterns
  let p ← Exec.ofResult (Result.ofChecked p)
  change fun q => { q with patterns := q.patterns ++ [.clause p] }

/-- The parent node with these labels. -/
def parentNode (v : Value) : Build NodePattern := do
  let labels ← readLabels v
  return ⟨← Exec.ofResult (needPlaceholder labels), ← Exec.ofResult (labelTexts labels)⟩

/-- A related node with a chosen placeholder. -/
def relatedNode (placeholder : Value) (labels : List Value) : Checked NodePattern :=
  ((chosenPlaceholder "alias" placeholder).and
    (Checked.inside "labels" (Checked.each readText labels))).map fun p => ⟨p.1, p.2⟩

/-- Adds a relationship to a node whose labels are known. -/
def relation (parent related placeholder relationship property value direction boolean : Value) :
    Build Unit := do
  let parent ← parentNode parent
  needList .patterns
  let labels ← readLabels related
  let far ← Exec.ofResult (Result.ofChecked (relatedNode placeholder labels))
  let isOptional ← Exec.ofResult (optionality boolean)
  let binding ← constrain parent.placeholder property value
  let relationship := Checked.inside "relationship" (readName relationship)
  addPattern (((frame parent isOptional binding direction property).and relationship).map fun p =>
    p.1.withFar (.node far p.2))

/-- Adds a relationship to a node of any labels. -/
def anyRelation (parent placeholder property value direction boolean relationship : Value) :
    Build Unit := do
  let parent ← parentNode parent
  needList .patterns
  let isOptional ← Exec.ofResult (optionality boolean)
  let binding ← constrain parent.placeholder property value
  let placeholder := chosenPlaceholder "related_alias" placeholder
  let relationship := Checked.inside "relationship" (readOptional readText relationship)
  addPattern (((frame parent isOptional binding direction property).and
    (placeholder.and relationship)).map fun p => p.1.withFar (.anyNode p.2.1 p.2.2))

end Build

end GraphQuery
