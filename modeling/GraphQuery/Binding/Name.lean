import GraphQuery.Text.Character
import GraphQuery.Text.Split

/-! # Names for bindings

* `bindingName` turns a property name into a name for the value that is bound to it.
* `candidate` lists the names that come from one base: `age`, `age_2`, `age_3`, …
* `firstFree` is the first of them that is not taken. -/

namespace GraphQuery.Binding

open GraphQuery.Text

/-- Every run of characters that belong to no word as a single low line. -/
def foldNonWords : List Char → List Char
  | [] => []
  | c :: cs =>
    if isWord c then c :: foldNonWords cs
    else match cs with
      | [] => ['_']
      | d :: _ => if isWord d then '_' :: foldNonWords cs else foldNonWords cs

/-- The name under which a value for a property is bound. A name that would start with a digit, or
be empty, gets the word `param`. -/
def bindingName (property : String) : String :=
  match trimWhere (· == '_') (foldNonWords property.toList) with
  | [] => "param"
  | c :: cs => if isDigit c then "param_" ++ String.ofList (c :: cs) else String.ofList (c :: cs)

/-- The names that come from a base: the base itself, then the base with the numbers from two on. -/
def candidate (base : String) : Nat → String
  | 0 => base
  | n + 1 => base ++ "_" ++ toString (n + 2)

/-- The first candidate from number `n` on that is not taken, after at most `tries` taken ones. -/
def freeFrom (taken : List String) (base : String) : (n tries : Nat) → String
  | n, 0 => candidate base n
  | n, tries + 1 =>
    if candidate base n ∈ taken then freeFrom taken base (n + 1) tries else candidate base n

/-- The first candidate that is not taken. As many tries as there are taken names are enough, since
the candidates differ from each other. -/
def firstFree (taken : List String) (base : String) : String := freeFrom taken base 0 taken.length

example : bindingName "first name!" = "first_name" := by decide
example : firstFree ["age", "age_2"] "age" = "age_3" := by decide

end GraphQuery.Binding
