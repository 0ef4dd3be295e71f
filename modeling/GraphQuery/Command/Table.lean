import GraphQuery.Command.Arguments

/-! # Commands on tables of bindings

`table?` gives the command on a table that a name stands for. -/

namespace GraphQuery.Command

/-- The bucket that an argument names. -/
def Fitted.bucket (f : Fitted) (i : Nat) : Result Bucket :=
  Bucket.named (f.valueOr i (.text "where"))

/-- The table that a value is. -/
def tableOf : Value → Result Nat
  | .object ⟨.table n, _, _, _, _⟩ => .ok n
  | v => .error (.noAttribute v "_buckets")

/-- A name that is looked up or stored. -/
def needKey (v : Value) : Exec BindingTable Unit := Exec.ofResult (Result.ofFailure v.needKey)

/-- A step that changes a bucket of a table. -/
def onBucket (n : Nat) (b : Result Bucket) (change : Bucket → Exec BindingTable Reply) : Step := do
  let b ← Exec.ofResult b
  (change b).within (Workspace.tablePart n)

/-- The command on a table with a number that a name stands for. -/
def table? (n : Nat) : String → Option (Operation Step)
  | "bucket" => some (takes ["bucket"] 1 fun f => onBucket n (f.bucket 0) fun b => do
    return .table ((← get).bucket b))
  | "add" => some (takes ["name", "value", "bucket"] 2 fun f => onBucket n (f.bucket 2) fun b => do
    needKey (f.value 0)
    modify (·.add (f.value 0) (f.value 1) b)
    return .itself)
  | "bind" => some (takes ["base", "value", "bucket"] 2 fun f => onBucket n (f.bucket 2) fun b => do
    let t ← get
    let (name, _) ← Exec.ofResult (t.nameBesides (f.value 0) (.tuple []))
    set (t.add name (f.value 1) b)
    return .value name)
  | "replace" => some (takes ["bucket", "values"] 2 fun f => do
    discard (Exec.ofResult (Bucket.named (f.value 0)))
    let values ← Workspace.useUp (f.value 1)
    (BindingTable.replaceNamed (f.value 0) values).within (Workspace.tablePart n)
    return .nothing)
  | "clear" => some (takes ["bucket"] 1 fun f => onBucket n (f.bucket 0) fun b => do
    modify (·.clear b)
    return .nothing)
  | "unique_name" => some (takes ["base", "reserved"] 1 fun f => do
    let t := (← get).table n
    let reserved := f.valueOr 1 (.tuple [])
    let (name, left) ← Exec.ofResult (t.nameBesides (f.value 0) reserved)
    Workspace.leave reserved left
    return .value name)
  | "backup" => some (takesMany fun names => do
    let kept ← (BindingTable.backup names).within (Workspace.tablePart n)
    return .named (kept.map fun p => (p.1.name, .ofPairs p.2)))
  | "restore" => some (takes ["snapshot"] 1 fun f => do
    let kept ← Exec.ofResult (f.entries 0)
    (BindingTable.restoreNamed kept).within (Workspace.tablePart n)
    return .nothing)
  | "absorb" => some (takes ["other"] 1 fun f => do
    let other ← Exec.ofResult (tableOf (f.value 0))
    let renames ← Workspace.absorbTable n other
    return .table renames)
  | "copy" => some (takesNothing do
    gives (.table (← Workspace.addTable ((← get).table n))))
  | "flatten" => some (takesNothing do return .table ((← get).table n).flatten)
  | "get" => some (takes ["name", "default"] 1 fun f => do
    let name ← Exec.ofResult (f.key 0)
    let t := (← get).table n
    return .value ((t.get? name).getD (f.value 1)))
  | _ => none

end GraphQuery.Command
