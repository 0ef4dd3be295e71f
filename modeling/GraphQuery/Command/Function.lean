import GraphQuery.Command.Arguments
import GraphQuery.Workspace.Sharing

/-! # Commands without a target

`function?` gives the command that a name stands for, if it works on its arguments alone and on the
entity classes: reading identities, turning what the driver hands out into records, finding classes,
opening engines. -/

namespace GraphQuery.Command

export GraphQuery.Text (sortedNames)

/-- A command that gives a value made of its arguments and the entity classes. -/
def makes (params : List String) (needed : Nat) (make : Registry → Fitted → Result Value) :
    Option (Operation Step) :=
  some (takes params needed fun f => do
    return .value (← Exec.ofResult (make (← get).registry f)))

/-- A command that makes a value of rows, which are gone through one by one. -/
def makesOfRows (params : List String) (needed : Nat)
    (make : Registry → Fitted → List Value → Result Value) : Option (Operation Step) :=
  some (takes params needed fun f => do
    return .value (← Workspace.useThrough (f.value 0) (make (← get).registry f)))

/-- The command that a name stands for, about identities and records. -/
def conversion? : String → Option (Operation Step)
  | "prop" => makes ["name", "alias"] 1 fun _ f => do
    let c ← Result.ofChecked (ColumnRef.ofFields [("name", f.value 0), ("alias", f.value 1)])
    return .column c
  | "parse_identity" => makes ["element_id"] 1 fun _ f => parseIdentity (f.value 0)
  | "entity_identity" => makes ["value"] 1 fun _ f => identityOf (f.value 0)
  | "to_record" => makes ["value"] 1 fun _ f => toRecord (f.value 0)
  | "hydrate" => makes ["value", "entity"] 1 fun r f => r.hydrate (f.value 1) (f.value 0)
  | "rows_to_records" => makesOfRows ["rows", "alias", "entity"] 1 fun r f rows => do
    return .ofList (← r.records (f.value 1) (f.value 2) rows)
  | "get_records_by_placeholders" => makesOfRows ["rows"] 1 fun _ _ rows => Registry.byColumn rows
  | "relation_pairs" => makesOfRows ["rows", "parent_alias", "related_alias"] 3 fun r f rows => do
    return .ofList ((← r.pairs (f.value 1) (f.value 2) rows).map fun p => .tuple [p.1, p.2])
  | _ => none

/-- Attaches the related records in rows to their parents, wherever those are kept. -/
def attachEager (f : Fitted) : Step := do
  let parents ← Exec.ofResult (f.members 0)
  let many := f.isTrue 5 true
  let start (parents : List Value) : Result ParentIndex :=
    ((startParents (f.value 2) many 0 parents.length []).outcome parents).1
  let started ← (Workspace.useThrough (f.value 0) start).attempt
  let registry := (← get).registry
  if started.isOk then
    discard (Workspace.useThrough (f.value 1) (registry.pairs (f.value 3) (f.value 4))).attempt
  let rows (parents : List Value) : Result (List Value) :=
    (f.members 1).map fun rows => rows.map (Value.renewed (News.ofAll parents))
  let attach := attachRelated registry rows (f.value 2) (f.value 3) (f.value 4) many
  let (outcome, parents) := attach.outcome parents
  let renewed ← Workspace.renew parents
  Exec.ofResult outcome
  return .value (renewed (f.value 0))

/-- The parameters of the command that attaches related records. -/
def eagerParameters : List String :=
  ["parents", "rows", "relation", "parent_alias", "related_alias", "many"]

/-- A command that finds an entity class. -/
def finds (param : String) (find : Registry → Value → Result (Option EntityClass)) :
    Option (Operation Step) :=
  some (takes [param] 1 fun f => do
    let w ← get
    let label ← if param = "labels" then Workspace.useUp (f.value 0) else pure (f.value 0)
    let found ← Exec.ofResult (find w.registry label)
    return .value ((found.map w.classValue).getD .null))

/-- The classes that can be found, by name. -/
def classSet (r : Registry) : Value :=
  let found := r.registeredClasses
  .set ((sortedNames (found.map (·.name))).flatMap fun s =>
    (found.filter (·.name == s)).map fun c => .entityClass (r.ref c))

/-- Gives an entity class other labels. Without a class there is only a function that would do so. -/
def relabelStep (f : Fitted) : Step := do
  match f.value 0 with
  | .entityClass c =>
    match (← get).registry.find? c.id with
    | some c => Workspace.relabelClass c (f.value 1) (← Workspace.useUp (f.value 2))
    | none => pure ()
    return .value ((← get).current (.entityClass c))
  | .null => return .value (.handle "function")
  | _ => Exec.fail (.wrongType "an entity class is expected")

/-- Relabels an entity class. The labels have to be given by name. -/
def relabel : Operation Step := fun a =>
  if 1 < a.positional.length then Arguments.misfit
  else takes ["cls", "label", "labels"] 0 relabelStep a

/-- The command that a name stands for, about entity classes. -/
def classes? : String → Option (Operation Step)
  | "get_entity_by_label" => finds "label" fun r label => .ok (r.forLabel? label)
  | "get_entity_by_labels" => finds "labels" fun r v => do
    let labels ← Result.ofFailure v.members
    labels.forM fun label => Result.ofFailure label.needKey
    return r.forLabels? labels
  | "get_entity_classes" => makes [] 0 fun r _ => .ok (classSet r)
  | "graph_entity" => some relabel
  | _ => none

/-- The engine that the arguments describe. -/
def Fitted.engine (f : Fitted) (driverConfig : Row) : Engine :=
  Engine.new (f.value 0) (f.value 1) (f.valueOr 2 (.text "neo4j")) driverConfig

/-- What an engine is opened with, apart from settings of the driver. -/
def engineParameters : List String := ["uri", "auth", "database"]

/-- Opens an engine; whatever is given beyond its parameters is for the driver. -/
def createEngine : Operation Step := fun a => do
  let isOwn (name : String) : Bool := engineParameters.contains name
  let own := a.named.filter fun p => isOwn p.1
  let f ← Arguments.fit { a with named := own } engineParameters 1
  return do
    let e := f.engine (namedEntries (a.named.filter fun p => !isOwn p.1))
    let n ← Workspace.addEngine e
    (Station.log .debug ("Creating engine for " ++ e.uri.plainText ++ " (database '" ++
      e.database.plainText ++ "')")).within
      (Workspace.stationPart n)
    gives (.engine n)

/-- The command without a target that a name stands for. -/
def function? (name : String) : Option (Operation Step) :=
  if name = "create_graph_engine" then some createEngine
  else if name = "match_eager" then some (takes eagerParameters 5 attachEager)
  else (conversion? name).or (classes? name)

end GraphQuery.Command
