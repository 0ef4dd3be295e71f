import GraphQuery.Command.Builder
import GraphQuery.Command.Function
import GraphQuery.Command.Rendering
import GraphQuery.Command.Session
import GraphQuery.Command.Table

/-! # Running commands

A command is run by its name on a target. Names that stand for nothing are refused like attributes that
a value does not have.

A clause of a builder may take a callback that only a *host* can run: something outside that works on
the same workspace. The callback is run first, on a builder of its own, and the clause is added with
what it has built.

* `run` runs the command that a name stands for on a target, and `runFree` one without a target.
* `addClause` adds a clause to a builder.
* `check` only looks whether the arguments of a command fit. -/

namespace GraphQuery.Command

/-- What runs callbacks: it works on a state of its own that has the workspace as a part. -/
structure Host (σ : Type) where
  desk : Focus σ Workspace
  /-- runs the callback with a number on an argument -/
  call : Nat → Value → Exec σ Unit

namespace Host

variable {σ : Type}

/-- A step on the workspace. -/
def on {α : Type} (host : Host σ) (step : Exec Workspace α) : Exec σ α := step.within host.desk

/-- Runs a callback on a new builder and gives what it has built. -/
def build (host : Host σ) (n callback : Nat) (place : CallbackPlace) : Exec σ Incoming := do
  let m ← host.on (match place with
    | .subQuery => Workspace.subBuilder n
    | .group => Workspace.groupBuilder n)
  host.call callback ((host.desk.get (← get)).object (.builder m))
  return (host.desk.get (← get)).incoming m

/-- Adds a clause to a builder, after the callback that it waits for. -/
def addCall (host : Host σ) (n : Nat) (call : Call) : Exec σ Unit := do
  match call.awaited? with
  | none => host.on (call.run.within (Workspace.builderPart n))
  | some (callback, place) => do
    let q ← host.build n callback place
    host.on ((call.settle q).run.within (Workspace.builderPart n))

/-- Adds one equality for each entry of a map. -/
def addEntries (host : Host σ) (n : Nat) : List (Value × Value) → Exec σ Unit
  | [] => pure ()
  | (key, v) :: rest => do
    let w := host.desk.get (← get)
    host.addCall n
      (.filter (toArgument w key) (some (.value (.text "="))) (some (toArgument w v)) Call.andName)
    host.addEntries n rest

/-- The entries of a map that is given to a comparison, if some of them are callbacks or builders. -/
def liveEntries? (w : Workspace) : Call → Option (List (Value × Value) × Value)
  | .filter column operator value joint =>
    if Operand.isMembership (operand? operator) && value.isSome then none
    else (column.operand.entries?.filter fun es => es.any fun e => isLive e.1 || isLive e.2).map
      fun es => (es, joint)
  | _ => none
where
  isLive (v : Value) : Bool := (toArgument w v).operand.isDeferred || (toArgument w v).callback?.isSome

/-- Adds a clause to a builder. Every callback in it is run first. -/
def addClause (host : Host σ) (n : Nat) (call : Call) : Exec σ Unit := do
  match liveEntries? (host.desk.get (← get)) call with
  | none => host.addCall n call
  | some (entries, joint) => do
    let m ← host.on (Workspace.groupBuilder n)
    host.addEntries m entries
    let wheres := ((host.desk.get (← get)).query m).wheres
    host.addCall n (.nest wheres joint)

end Host

/-! ### Commands by name -/

/-- The command on a target that a name stands for, clauses of builders apart. -/
def command? (w : Workspace) (target : Value) (name : String) : Option (Operation Step) :=
  match target with
  | .object o =>
    match o.ref with
    | .table n => table? n name
    | .builder n => builder? n name
    | .connection n => connection? n name
    | .engine n => engine? n name
    | .grammar _ => rendering? name
    | .config n => config? (w.config n) name
    | .page n => model? w target (w.page n).fields name
    | .clause n => (w.clauses[n]?).bind fun slot => model? w target slot.clause.fields name
    | _ => none
  | v => value? w v name
where
  /-- The command on settings: other settings can be made out of a map. -/
  config? (c : ConnectionConfig) : String → Option (Operation Step)
    | "from_mapping" => some (takes ["mapping"] 0 fun f => do
      let c ← Exec.ofResult (ConnectionConfig.ofMapping (f.value 0))
      gives (.config (← Workspace.addConfig c)))
    | "normalize_scheme" => checks fun v =>
      match v with
      | .text s => .ok (.text (normalizeScheme s))
      | v => .error (.noAttribute v "strip")
    | name => model? w target c.fields name

/-- The clause of a builder that a name stands for. -/
def clauseOn? (target : Value) (name : String) : Option (Nat × Operation Call) :=
  match target with
  | .object ⟨.builder n, _, _, _, _⟩ => (clause? name).map fun clause => (n, clause)
  | _ => none

/-- Whether a value is one that has checked fields. -/
def isModel : Value → Bool
  | .record _ | .edge _ | .entity _ | .column _ => true
  | .object o => o.ref.isModel
  | _ => false

/-- Whether a name is that of a command on a target. -/
def isCommand (w : Workspace) (target : Value) (name : String) : Bool :=
  (clauseOn? target name).isSome || (command? w target name).isSome ||
    match target with
    | .object ⟨.connection _, _, _, _, _⟩ => name ∈ ["reconnect", "transaction", "pretend"]
    | .entity _ | .entityClass _ => name = "find" || name ∈ modelCommands
    | v => isModel v && name ∈ modelCommands

/-- What a command is when it is looked at: most belong to their target, some work without one. -/
def commandKind? (w : Workspace) (target : Value) (name : String) : Option String :=
  match target with
  | .entityClass _ =>
    if name = "relations" then some "property"
    else if name ∈ instanceCommands ++ modelInstanceCommands then some "function"
    else if isCommand w target name then some "method"
    else none
  | .object ⟨.grammar _, _, _, _, _⟩ =>
    if name ∈ ["normalize_labels", "column_name"] then some "function"
    else if isCommand w target name then some "method"
    else none
  | .list _ _ | .tuple _ | .map _ _ =>
    if isCommand w target name then some "builtin_function_or_method" else none
  | target => if isCommand w target name then some "method" else none

/-- Runs a command that works on the workspace alone. An attribute that is no command cannot be run. -/
def runPlain (target : Value) (name : String) (a : Arguments) : Step := do
  match command? (← get) target name with
  | some command => do
    (← Exec.ofResult (command a))
  | none => do
    let v ← read target name none
    Exec.fail (.wrongType ("'" ++ v.typeName ++ "' object is not callable"))

variable {σ : Type}

/-- A step after which all copies of what it has changed are brought up to date, also if it fails. -/
def tidily (desk : Focus σ Workspace) (step : Exec σ Reply) : Exec σ Reply := do
  Workspace.tidy.within desk
  match ← step.attempt with
  | .ok (.value v) => return .value (← (Workspace.tidied v).within desk)
  | r => do
    Workspace.tidy.within desk
    Exec.ofResult r

/-- The identity among the arguments of a command that looks for one, if a callback gives it. -/
def awaitedIdentity? (name : String) (a : Arguments) : Option Value := do
  let f ← match name with
    | "find" => (a.fit ["id", "columns"] 1).toOption
    | "delete" => (a.fit ["id"] 0).toOption
    | _ => none
  let id ← f.value? 0
  discard (toArgument a.workspace id).callback?
  return id

/-- The arguments of a command after its identity has been asked for. -/
def withoutIdentity (name : String) (a : Arguments) : Arguments :=
  if name = "find" then
    { a with positional := a.positional.drop 1, named := a.named.filter (·.1 ≠ "id") }
  else { a with positional := [], named := [] }

/-- Runs a command on a builder that looks for an identity which a callback gives. -/
def runAwaiting (host : Host σ) (n : Nat) (name : String) (a : Arguments) (id : Value) :
    Exec σ Reply := do
  host.addClause n
    (.filter (.value (.text "id")) (some (.value (.text "="))) (some (toArgument a.workspace id))
      Call.andName)
  let target := (host.desk.get (← get)).object (.builder n)
  host.on (runPlain target (if name = "find" then "first" else name) (withoutIdentity name a))

/-- Runs the command that a name stands for on a target. -/
def run (host : Host σ) (target : Value) (name : String) (a : Arguments) : Exec σ Reply := do
  match clauseOn? target name with
  | some (n, clause) => do
    let call ← Exec.ofResult (clause a)
    host.addClause n call
    return .itself
  | none =>
    match target, awaitedIdentity? name a with
    | .object ⟨.builder n, _, _, _, _⟩, some id => runAwaiting host n name a id
    | _, _ => runClass host target name a
where
  /-- Finding an entity goes through a builder. -/
  runClass (host : Host σ) (target : Value) (name : String) (a : Arguments) : Exec σ Reply := do
    let w := host.desk.get (← get)
    let c? := match target with
      | .entityClass c => w.registry.find? c.id
      | .entity e => w.registry.find? e.entityClass
      | _ => none
    match c?, name with
    | some c, "find" => do
      let f ← Exec.ofResult (a.fit ["connection", "entity_id"] 2)
      let n ← host.on (classQuery c (f.value 0))
      host.addClause n
        (.filter (.value (.text "id")) (some (.value (.text "="))) (some (f.argument 1)) Call.andName)
      host.on (runPlain ((host.desk.get (← get)).object (.builder n)) "first" ⟨w, [], []⟩)
    | _, _ => host.on (runPlain target name a)

/-- Runs a command without a target. -/
def runFree (name : String) (a : Arguments) : Step :=
  match function? name with
  | some command => do
    (← Exec.ofResult (command a))
  | none => Exec.fail (.noAttribute (.handle "module") name)

/-! ### Looking at arguments only -/

/-- The commands that wait for the server. Where nobody waits for them they do nothing, except for
refusing arguments that do not fit. -/
def waits (target : Value) (name : String) : Bool :=
  match target with
  | .object ⟨.builder n, _, _, _, _⟩ =>
    (reading? name).isSome || (writing? name).isSome || (paging? n name).isSome
  | .object ⟨.connection _, _, _, _, _⟩ =>
    (running? name).isSome || name ∈ ["get_client", "disconnect", "reconnect", "begin_transaction",
      "commit", "rollback", "transaction", "pretend"]
  | .object ⟨.engine _, _, _, _, _⟩ => name = "connect" || name = "close"
  | .entityClass _ | .entity _ => name = "find" || name = "create"
  | _ => false

/-- Looks whether the arguments of a command fit. -/
def check (target : Value) (name : String) (a : Arguments) : Exec Workspace Unit := do
  match command? (← get) target name with
  | some command => discard (Exec.ofResult (command a))
  | none => pure ()

end GraphQuery.Command
