/-! # Issues

A value that does not fit its schema is reported as a list of issues: what is wrong, and at which
place inside the value. `Checked` is the result of a check, and `Checked.and` puts two checks
together without losing the issues of either. -/

namespace GraphQuery

/-- What is wrong with a value. -/
inductive IssueCode where
  | missing
  | extraForbidden
  | keyType
  | textType
  | textEncoding
  | textTooShort
  | textTooLong
  | integerType
  | integerText
  | integerSize
  | integerFraction
  | infinite
  | doubleType
  | doubleText
  | truthType
  | truthText
  | listType
  | tupleType
  | listTooShort
  | listTooLong
  | mapType
  | modelType
  | belowLeast
  | aboveMost
  | notAChoice
  | unknownAttribute
  | frozen
  | refused
  /-- a limit that the value has no order or no length for -/
  | incomparable
deriving DecidableEq, Repr

/-- The name of a kind of issue. -/
def IssueCode.name : IssueCode → String
  | missing => "missing"
  | extraForbidden => "extra_forbidden"
  | keyType => "invalid_key"
  | textType => "string_type"
  | textEncoding => "string_unicode"
  | textTooShort => "string_too_short"
  | textTooLong => "string_too_long"
  | integerType => "int_type"
  | integerText => "int_parsing"
  | integerSize => "int_parsing_size"
  | integerFraction => "int_from_float"
  | infinite => "finite_number"
  | doubleType => "float_type"
  | doubleText => "float_parsing"
  | truthType => "bool_type"
  | truthText => "bool_parsing"
  | listType => "list_type"
  | tupleType => "tuple_type"
  | listTooShort => "too_short"
  | listTooLong => "too_long"
  | mapType => "dict_type"
  | modelType => "model_type"
  | belowLeast => "greater_than_equal"
  | aboveMost => "less_than_equal"
  | notAChoice => "literal_error"
  | unknownAttribute => "no_such_attribute"
  | frozen => "frozen_instance"
  | refused => "value_error"
  | incomparable => "incomparable"

/-- One thing that is wrong: what it is, the path to its place, and a note where the code alone does
not say it. -/
structure Issue where
  code : IssueCode
  place : List String
  note : Option String
deriving DecidableEq, Repr

/-- The result of a check: a value that fits, or what is wrong. -/
abbrev Checked (α : Type) := Except (List Issue) α

namespace Checked

/-- A single issue with the checked value as a whole. -/
def fail {α : Type} (code : IssueCode) : Checked α := .error [⟨code, [], none⟩]

/-- A refusal with words of its own. -/
def refuse {α : Type} (note : String) : Checked α := .error [⟨.refused, [], some note⟩]

/-- Places the issues of a check inside a field or a member. -/
def inside {α : Type} (step : String) : Checked α → Checked α
  | .ok a => .ok a
  | .error issues => .error (issues.map fun i => { i with place := step :: i.place })

/-- Both results, or the issues of both checks. -/
def and {α β : Type} : Checked α → Checked β → Checked (α × β)
  | .ok a, .ok b => .ok (a, b)
  | .ok _, .error issues => .error issues
  | .error issues, .ok _ => .error issues
  | .error xs, .error ys => .error (xs ++ ys)

/-- Checks every member; the places of the members are their numbers. -/
def eachFrom {α β : Type} (check : α → Checked β) : (index : Nat) → List α → Checked (List β)
  | _, [] => .ok []
  | index, a :: rest =>
    ((inside (toString index) (check a)).and (eachFrom check (index + 1) rest)).map fun p => p.1 :: p.2

/-- Checks every member of a list. -/
def each {α β : Type} (check : α → Checked β) (members : List α) : Checked (List β) :=
  eachFrom check 0 members

end Checked

end GraphQuery
