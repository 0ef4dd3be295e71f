import GraphQuery.Workspace

/-! # Arguments of commands

A caller gives the arguments of a command by position or by name. `Arguments.fit` brings them into
the order of the parameters, and `Fitted` reads them there.

An `Operation` is what stands behind a name: it takes arguments and gives a step to run. -/

namespace GraphQuery.Command

/-- A value as an argument of a clause: a builder stands for its query, a callback for its calls. -/
def toArgument (w : Workspace) (v : Value) : Argument :=
  match v with
  | .object ⟨.builder n, _, _, _, _⟩ => .query (w.incoming n)
  | .object ⟨.callback n, _, _, _, _⟩ =>
    match (w.callbacks[n]?).bind (·.calls) with
    | some calls => .body calls
    | none => .callback n
  | v => .value v

/-- The arguments of a command, and the workspace in which they are given. -/
structure Arguments where
  workspace : Workspace
  positional : List Value
  named : Properties

/-- Arguments in the order of the parameters; some may be left out. -/
structure Fitted where
  workspace : Workspace
  cells : List (Option Value)

namespace Arguments

/-- Arguments that do not belong to the parameters of a command. -/
def misfit {α : Type} : Result α := .error (.wrongType "the arguments do not fit")

/-- Brings arguments into the order of the parameters, of which the first ones are needed. -/
def fit (a : Arguments) (params : List String) (needed : Nat) : Result Fitted :=
  let free := params.drop a.positional.length
  if params.length < a.positional.length then misfit
  else if a.named.any fun p => !free.contains p.1 then misfit
  else
    let cells := params.zipIdx.map fun p => (a.positional[p.2]?).or (lookup? p.1 a.named)
    if (cells.take needed).any (·.isNone) then misfit else .ok ⟨a.workspace, cells⟩

/-- The arguments as values, if all of them are given by position. -/
def values (a : Arguments) : Result (List Value) :=
  if a.named.isEmpty then .ok a.positional else misfit

/-- The positional argument at a place. -/
def nth (a : Arguments) (i : Nat) : Value := (a.positional[i]?).getD .null

end Arguments

namespace Fitted

/-- The argument for a parameter, if there is one. -/
def value? (f : Fitted) (i : Nat) : Option Value := (f.cells[i]?).join

def valueOr (f : Fitted) (i : Nat) (v : Value) : Value := (f.value? i).getD v
def value (f : Fitted) (i : Nat) : Value := f.valueOr i .null
def isTrue (f : Fitted) (i : Nat) (absent : Bool) : Bool := (f.valueOr i (.bool absent)).isTruthy
def textOr (f : Fitted) (i : Nat) (s : String) : String := (f.valueOr i (.text s)).plainText
def text (f : Fitted) (i : Nat) : String := f.textOr i ""
def argument? (f : Fitted) (i : Nat) : Option Argument := (f.value? i).map (toArgument f.workspace)
def argument (f : Fitted) (i : Nat) : Argument := (f.argument? i).getD (.value .null)
def operand (f : Fitted) (i : Nat) : Operand := (f.argument i).operand

/-- The members of an argument. -/
def members (f : Fitted) (i : Nat) : Result (List Value) := Result.ofFailure (f.value i).members

/-- An argument that is looked up as a key. -/
def key (f : Fitted) (i : Nat) : Result Value := do
  Result.ofFailure (f.value i).needKey
  return f.value i

/-- The entries of an argument that is a map. -/
def entries (f : Fitted) (i : Nat) : Result (List (Value × Value)) := mapEntries (f.value i)

end Fitted

/-! ### Commands -/

/-- What stands behind a name: arguments lead to a step. -/
abbrev Operation (α : Type) := Arguments → Result α

/-- A command with parameters, of which the first ones are needed. -/
def takes {α : Type} (params : List String) (needed : Nat) (step : Fitted → α) : Operation α := fun a =>
  (a.fit params needed).map step

/-- A command without parameters. -/
def takesNothing {α : Type} (step : α) : Operation α := takes [] 0 fun _ => step

/-- A command with any number of parameters. -/
def takesMany {α : Type} (step : List Value → α) : Operation α := fun a => a.values.map step

/-- The result of a command. -/
inductive Reply where
  /-- the object that the command worked on -/
  | itself
  | value (v : Value)
  /-- nothing, but the object has become another one -/
  | changed (v : Value)

namespace Reply

def nothing : Reply := .value .null
def text (s : String) : Reply := .value (.text s)
def truth (b : Bool) : Reply := .value (.bool b)
def count (n : Int) : Reply := .value (.int n)
def table (entries : Row) : Reply := .value (.ofPairs entries)
def named (properties : Properties) : Reply := .value (.ofProperties properties)

/-- Rows of a result. -/
def rows (rows : List Row) : Reply := .value (.ofList (rows.map .ofPairs))

end Reply

/-- A step of a command on a workspace. -/
abbrev Step := Exec Workspace Reply

/-- A step that only looks. -/
def answer (r : Result Reply) : Step := Exec.ofResult r

/-- A step that gives a part of the workspace. -/
def gives (ref : ObjectRef) : Step := do return .value ((← get).object ref)

end GraphQuery.Command
