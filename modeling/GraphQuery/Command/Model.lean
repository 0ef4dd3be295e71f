import GraphQuery.Command.Arguments

/-! # What everything with checked fields has in common

Records, edges, entities, settings, pages and clauses have fields that are checked when they are made.

* `modelAttribute?` tells which fields were given, and what is kept beside them.
* `dumps` gives the fields as a map, all of them or a choice.
* `copies` gives a copy, with other fields if some are asked for. These are not checked again.
* `validates` makes such a value of a map, or takes one that is there. -/

namespace GraphQuery.Command

open GraphQuery.Schema

/-- The names that stand for something with every value that has checked fields, and not with the
kind of such values. -/
def modelInstanceCommands : List String :=
  ["model_dump", "model_dump_json", "model_copy", "model_post_init", "dict", "json", "copy"]

/-- The names that stand for something with every value that has checked fields. -/
def modelCommands : List String :=
  modelInstanceCommands ++ ["model_construct", "model_json_schema", "model_parametrized_name",
    "model_rebuild", "model_validate", "model_validate_json", "model_validate_strings", "construct",
    "from_orm", "parse_obj", "parse_raw", "parse_file", "schema", "schema_json", "validate",
    "update_forward_refs"]

/-- Names in their order, each of them once, as a set. -/
def nameSet (names : List String) : Value :=
  .set (((names.eraseDups).mergeSort fun a b => !(b < a)).map .text)

/-- The fields of a value that were given, and what is kept beside its fields, where something can
be. -/
def modelContent? (w : Workspace) : Value → Option (List String × Value)
  | .record r => some (r.given, .null)
  | .edge e => some (e.given, .null)
  | .entity e => some (e.given, .ofProperties e.extras)
  | .column c => some ((c.attributes.map (·.1)).filter (· ≠ "qualified"), .null)
  | .object ⟨.config n, _, _, _, _⟩ => some ((w.config n).given, .null)
  | .object ⟨.page n, _, _, _, _⟩ => some ((w.page n).fields.map (·.1), .null)
  | .object ⟨.clause n, _, _, _, _⟩ =>
    (w.clauses[n]?).map fun slot => (slot.clause.fields.map (·.1), .null)
  | _ => none

/-- The class of a value, as a value. -/
def classOf (w : Workspace) : Value → Value
  | .entity e => ((w.registry.find? e.entityClass).map w.classValue).getD .null
  | v => .builtinClass v.typeName

/-- The attributes that everything with checked fields has, and the class of any value. -/
def modelAttribute? (w : Workspace) (v : Value) (name : String) : Option Value :=
  match name with
  | "model_fields_set" => (modelContent? w v).map fun content => nameSet content.1
  | "model_extra" => (modelContent? w v).map (·.2)
  | "__class__" => some (classOf w v)
  | _ => none

/-- The attributes that cannot be assigned although they are there. -/
def isDerivedAttribute (name : String) : Bool := name = "model_fields_set" || name = "model_extra"

/-! ### Fields as a map -/

/-- What the fields of a value are unless they are given. -/
def modelDefaults (w : Workspace) : Value → Properties
  | .record _ => [("id", .null), ("labels", .ofList []), ("properties", .ofPairs []),
      ("relations", .ofPairs [])]
  | .edge _ => [("id", .null), ("start_id", .null), ("end_id", .null), ("properties", .ofPairs [])]
  | .entity e =>
    let declared := ((w.registry.find? e.entityClass).map (·.fields)).getD []
    ("id", .null) :: declared.filterMap fun field => field.absent.map fun v => (field.name, v)
  | .column _ => [("alias", .null), ("identity", .bool false)]
  | .object ⟨.config _, _, _, _, _⟩ => ConnectionConfig.standard.fields
  | .object ⟨.page _, _, _, _, _⟩ => [("items", .ofList [])]
  | _ => []

/-- Whether a choice of fields, which is a set of names or a map, covers a name. In a map, `covers`
says whether a field is covered by what stands under its name. -/
def choiceCovers (choice : Value) (covers : Value → Bool) (name : String) : Result Bool :=
  match choice with
  | .null => .ok false
  | .set names => .ok ((Value.text name).isIn names)
  | .map es _ => .ok ((entryAt? (.text name) es).any covers)
  | _ => .error (.wrongType "a choice of fields must be a set or a map")

/-- The parameters of the command that gives the fields as a map, of which some change nothing. -/
def dumpParameters : List String :=
  ["include", "exclude", "exclude_unset", "exclude_defaults", "exclude_none", "mode", "context",
    "by_alias", "round_trip", "warnings", "serialize_as_any"]

/-- Whether a field is shown in a map of the fields. -/
def isShown (f : Fitted) (given : List String) (defaults : Properties) (field : String × Value) :
    Result Bool := do
  let included ← choiceCovers (f.value 0) (fun _ => true) field.1
  let excluded ← choiceCovers (f.value 1) (fun v => v matches .bool true) field.1
  return ((f.value 0).isNull || included) && !excluded &&
    !(f.isTrue 2 false && !given.contains field.1) &&
    !(f.isTrue 3 false && (lookup? field.1 defaults).any field.2.same) &&
    !(f.isTrue 4 false && field.2.isNull)

/-- The fields of a value as a map, or those that are chosen by name. -/
def dumps (w : Workspace) (v : Value) (fields : Properties) : Operation Step := fun a =>
  if !a.positional.isEmpty then Arguments.misfit
  else takes dumpParameters 0 (fun f => answer do
    let given := ((modelContent? w v).map (·.1)).getD []
    let shown ← fields.filterMapM fun field => do
      return if ← isShown f given (modelDefaults w v) field then some field else none
    return .named (← plainProperties shown)) a

/-! ### Copies -/

/-- The fields that a copy is asked to have. -/
def changesOf (v : Value) : Result Properties :=
  if v.isTruthy then do propertiesOf (← mapEntries v) else .ok []

/-- A copy of a value, made by `copy`, on which other fields are put one after another. Attributes
that are no fields go along. -/
def copies (v : Value) (copy : (deep : Bool) → Exec Workspace Value)
    (change : Value → String → Value → Exec Workspace Value) : Operation Step := fun a =>
  if !a.positional.isEmpty then Arguments.misfit
  else takes ["update", "deep"] 0 (fun f => do
    let notes := (← get).notesOf v
    let fresh ← Workspace.keep (← copy (f.isTrue 1 false))
    let changes ← Exec.ofResult (changesOf (f.value 0))
    let changed ← changes.foldlM (fun v p => change v p.1 p.2) fresh
    notes.forM fun p => Workspace.setNote changed p.1 p.2
    return .value changed) a

/-- A copy of a value that carries its fields. -/
def copyOf (v : Value) (deep : Bool) : Exec Workspace Value :=
  if deep then Workspace.detach v else pure (Workspace.unmarked v)

/-- A field of a record, an edge or a column reference in a copy; a name that is no field is kept
beside them. -/
def changeField (v : Value) (name : String) (x : Value) : Exec Workspace Value := do
  match v with
  | .record r =>
    if name ∈ Record.fieldNames then return .record (← Exec.ofResult (Record.assign r name x))
    else beside (.record { r with given := withName name r.given })
  | .edge e =>
    if name ∈ Edge.fieldNames then return .edge (← Exec.ofResult (Edge.assign e name x))
    else beside (.edge { e with given := withName name e.given })
  | .entity e =>
    match (← get).registry.find? e.entityClass with
    | some c => return .entity (c.withField e name x)
    | none => return v
  | .column c => return .column (changeColumn c name x)
  | v => return v
where
  /-- A value with an attribute of its own. -/
  beside (v : Value) : Exec Workspace Value := do
    Workspace.setNote v name x
    return v
  /-- A column reference with another part. -/
  changeColumn (c : ColumnRef) : String → Value → ColumnRef
    | "name", .text s => { c with name := s }
    | "alias", .text s => { c with placeholder := some s }
    | "alias", .null => { c with placeholder := none }
    | "identity", v => { c with identity := v.isTruthy }
    | _, _ => c

/-- The copy of settings or a page with another field, which is put in its place. -/
def changeStored (v : Value) (name : String) (x : Value) : Exec Workspace Value := do
  let w ← get
  match v with
  | .object ⟨.config n, _, _, _, _⟩ =>
    let c ← Exec.ofResult ((w.config n).assign name x)
    set { w with configs := w.configs.set n c }
  | .object ⟨.page n, _, _, _, _⟩ =>
    match (w.page n).assign name x with
    | .ok p => set { w with pages := w.pages.set n p }
    | .error _ => Workspace.setNote v name x
  | v => Workspace.setNote v name x
  return (← get).current v

/-- The command that gives a copy of a value with checked fields. -/
def copying? (v : Value) : Option (Operation Step) :=
  match v with
  | .record _ | .edge _ | .entity _ | .column _ => some (copies v (copyOf v) changeField)
  | .object ⟨.config n, _, _, _, _⟩ => some (copies v (fun _ => do
      let m ← Workspace.addConfig ((← get).config n)
      return (← get).object (.config m)) changeStored)
  | .object ⟨.page n, _, _, _, _⟩ => some (copies v (fun _ => do
      let m ← Workspace.addPage ((← get).page n)
      return (← get).object (.page m)) changeStored)
  | .object ⟨.clause n, _, _, _, _⟩ => some (copies v (fun _ => do
      match (← get).clauses[n]? with
      | some slot => do
        let m ← Workspace.addClause slot.clause slot.builder
        return (← get).object (.clause m)
      | none => return v) changeStored)
  | _ => none

/-! ### Values out of maps -/

/-- A value out of a map, by `make`. One of the kind itself is taken as it is. -/
def validates (isOwn : Value → Bool) (make : List (Value × Value) → Exec Workspace Value) :
    Operation Step :=
  takes ["obj"] 1 fun f => do
    let v := f.value 0
    if isOwn v then return .value v
    match v.entries? with
    | some entries => return .value (← make entries)
    | none => Exec.fail (.invalid [⟨.modelType, [], none⟩])

/-- An entity of a class out of a map. One of that class, or of one derived from it, is taken as it
is. -/
def validatesEntity (r : Registry) (c : EntityClass) : Operation Step :=
  validates
    (fun
      | .entity e => r.isKindOf e.entityClass c.id
      | _ => false)
    fun entries => do return .entity (← Exec.ofResult (c.ofEntries entries))

/-- The command that makes a value of the same kind out of a map. -/
def validating? (w : Workspace) (v : Value) : Option (Operation Step) :=
  match v with
  | .record _ => some (validates (fun | .record _ => true | _ => false) fun entries => do
      return .record (← Exec.ofResult (Record.ofFields (textEntries entries))))
  | .edge _ => some (validates (fun | .edge _ => true | _ => false) fun entries => do
      return .edge (← Exec.ofResult (Edge.ofFields (textEntries entries))))
  | .entity e => (w.registry.find? e.entityClass).map (validatesEntity w.registry)
  | .entityClass c => (w.registry.find? c.id).map (validatesEntity w.registry)
  | .column _ => some (validates (fun | .column _ => true | _ => false) fun entries => do
      return .column (← Exec.ofResult (Result.ofChecked (ColumnRef.ofFields (textEntries entries)))))
  | .object ⟨.config _, _, _, _, _⟩ =>
    some (validates (fun | .object ⟨.config _, _, _, _, _⟩ => true | _ => false) fun entries => do
      let c ← Exec.ofResult (Result.ofChecked (((ConnectionConfig.check (textEntries entries)).and
        (EntityClass.checkNames entries)).map (·.1)))
      let n ← Workspace.addConfig c
      return (← get).object (.config n))
  | _ => none

/-- The command that a name stands for with every value that has checked fields. -/
def model? (w : Workspace) (v : Value) (fields : Properties) : String → Option (Operation Step)
  | "model_dump" | "dict" => some (dumps w v fields)
  | "model_copy" => copying? v
  | "model_validate" => validating? w v
  | _ => none

end GraphQuery.Command
