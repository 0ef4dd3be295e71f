import GraphQuery.Error
import GraphQuery.Text.Case
import GraphQuery.Text.Identifier

/-! # Labels and placeholders

A node is known in a query by its *placeholder*, which comes from its labels: `User` gives `user`,
`User` and `Admin` together give `user_admin`.

* `presentLabels` reads a set of labels; a label is a text, but only its use shows that.
* `placeholderOf` derives the placeholder of labels.
* `labelText` writes labels inside a pattern: `:User:Admin`. -/

namespace GraphQuery

open GraphQuery.Text

/-- What stands for labels: nothing at all, one label, or several. What counts as absent is left
out. -/
def presentLabels : Value → Result (List Value)
  | .null => .ok []
  | .text s => .ok (if s = "" then [] else [.text s])
  | v => do return (← Result.ofFailure v.members).filter (·.isTruthy)

/-- Whether a value has small letters, as every label has to. Bytes have them, but are no text. -/
def hasSmallLetters : Value → Result Unit
  | .text _ | .bytes _ => .ok ()
  | .builtinClass "str" => .error (.wrongType "unbound method str.lower() needs an argument")
  | v => .error (.noAttribute v "lower")

/-- A value that has to be a text. -/
def textOf : Value → Result String
  | .text s => .ok s
  | v => .error (.wrongType ("expected string or bytes-like object, got '" ++ v.typeName ++ "'"))

/-- Labels as texts. -/
def labelTexts (labels : List Value) : Result (List String) := do
  labels.forM hasSmallLetters
  labels.mapM textOf

/-- A character that a placeholder may hold. -/
def isPlaceholderPart (c : Char) : Bool :=
  c == '_' || (97 ≤ c.toNat && c.toNat ≤ 122) || (48 ≤ c.toNat && c.toNat ≤ 57)

/-- Puts a low line in the place of any other character. -/
def placeholderChar (c : Char) : Char := if isPlaceholderPart c then c else '_'

/-- The text of a placeholder before its first character is looked at. -/
def placeholderBody (labels : List String) : List Char :=
  (joined "_" (labels.map lowercase)).toList.map placeholderChar

/-- The placeholder of labels, given at least one that is not empty. A leading digit gets `n_`. -/
def placeholderOf (labels : List String) : String :=
  match placeholderBody labels with
  | [] => ""
  | c :: cs =>
    if isPlainDigit c then "n_" ++ String.ofList (c :: cs) else String.ofList (c :: cs)

/-- The placeholder of labels that have to be there. -/
def needPlaceholder (labels : List Value) : Result String :=
  if labels.isEmpty then .error (.render .placeholderWithoutLabels)
  else (labelTexts labels).map placeholderOf

/-- Labels as they stand in a pattern. -/
def labelText (labels : List String) : String :=
  String.join ((labels.filter (· ≠ "")).map fun label => ":" ++ quote label)

/-- What stands for labels, as it stands in a pattern. -/
def labelsText (v : Value) : Result String := do
  return labelText (← (← presentLabels v).mapM textOf)

example : placeholderOf ["User", "Blog Post"] = "user_blog_post" := by decide

end GraphQuery
