import GraphQuery.Command.Attribute

/-! # Commands that write texts

`rendering?` gives the command that a name stands for, if it writes a part of a statement. These
commands look at queries and values and change nothing. -/

namespace GraphQuery.Command

open GraphQuery.Cypher GraphQuery.Text

/-- The text of a name. -/
def Fitted.name (f : Fitted) (i : Nat) : Result String :=
  match f.value i with
  | .text s => .ok s
  | _ => .error (.wrongType "expected a text")

/-- The query that an argument is. -/
def Fitted.query (f : Fitted) (i : Nat) : Result Query :=
  match f.argument i with
  | .query q => .ok q.query
  | _ => lacks (f.value i) "labels"

/-- The direction that a text names; any other text leaves it open. -/
def Fitted.direction (f : Fitted) (i : Nat) : Direction :=
  match f.value i with
  | .text "out" => .outgoing
  | .text "in" => .incoming
  | _ => .either

/-- Properties with the parameters that hold their values. -/
def assignmentsOf (v : Value) : Result Assignments := do
  (← mapEntries v).mapM fun e =>
    match e.1, e.2 with
    | .text property, .text binding => .ok (property, binding)
    | _, _ => .error (.wrongType "expected texts")

/-- Properties of a new node; nothing stands for no properties. -/
def newAssignments (v : Value) : Result Assignments :=
  if v.isTruthy then assignmentsOf v else .ok []

/-- Related nodes whose values are bound. -/
def Fitted.related (f : Fitted) (i : Nat) : Result (List RelatedCreation) := do
  (← f.members i).mapM fun v =>
    match f.workspace.clauseOf? v with
    | some (.relatedCreation r) => .ok r
    | _ => lacks v "relationship"

/-- A column as it stands in a statement; a text stands for itself. -/
def wrapColumn : Value → Result String
  | .text s => .ok s
  | .column c => columnText c
  | v => .error (.noAttribute v "identity")

/-- Values under the names of their parameters. -/
def suffixed (updating : Bool) (values : Value) : Result Value := do
  if updating then
    return .ofPairs (ofEntries ((← mapEntries values).map fun e =>
      (.text (LiveQuery.updatedName e.1.plainText), e.2)))
  else return .ofPairs (← Result.ofFailure values.toEntries)

/-- A command that gives a text. -/
def writes (params : List String) (needed : Nat) (text : Fitted → Result String) :
    Option (Operation Step) :=
  some (takes params needed fun f => answer ((text f).map .text))

/-- A command that gives the text of a part of a query. -/
def writesQuery (text : Query → Result String) : Option (Operation Step) :=
  writes ["query"] 1 fun f => f.query 0 >>= text

/-- A command that gives the text of a column of a query. -/
def writesColumn (text : Query → Value → Result String) : Option (Operation Step) :=
  writes ["query", "column"] 2 fun f => do text (← f.query 0) (f.value 1)

/-- A command that goes through labels. -/
def readsLabels (step : Value → Result Reply) : Option (Operation Step) :=
  some (takes ["labels"] 1 fun f => do
    answer (step (← Workspace.useUp (f.value 0))))

/-- The command that a name stands for, about names, labels and columns. -/
def naming? : String → Option (Operation Step)
  | "quote" => writes ["identifier"] 1 fun f => (f.name 0).map Text.quote
  | "parameter" => writes ["name"] 1 fun f => (f.name 0).map Text.parameter
  | "model_as_node" => readsLabels fun labels => do
    return .text (← needPlaceholder (← presentLabels labels))
  | "normalize_labels" => readsLabels fun labels => do return .value (.tuple (← presentLabels labels))
  | "prepare_labels" => readsLabels fun labels => do return .text (← labelsText labels)
  | "get_id_replacement" => writes ["column"] 1 fun f => (f.name 0).map identityName
  | "wrap" => writes ["column"] 1 fun f => wrapColumn (f.value 0)
  | "postfix_values" => some (takes ["values", "updating"] 1 fun f => answer do
    return .value (← suffixed (f.isTrue 1 false) (f.value 0)))
  | "column_name" => some (takes ["item"] 1 fun f => answer do
    return .value (← valueName (f.value 0)))
  | "align_return_items" => some (takes ["items", "names"] 2 fun f => answer do
    let width ← Result.ofFailure (f.value 0).size
    let expected ← Result.ofFailure (f.value 1).size
    if width ≠ expected then .error (.render (.unionWidth expected width))
    else
      let items ← f.members 0
      return .value (.ofList (← (items.zip (← f.members 1)).mapM fun p => alignValue p.1 p.2)))
  | "craft_relation" => writes ["parent", "relationship", "related", "direction"] 4 fun f =>
    .ok (relationText (f.text 0) (f.text 1) (f.text 2) (f.direction 3))
  | _ => none

/-- A command that gives the text of a write: the nodes to write are looked at before the values, of
which the last ones may be a stream. -/
def writesNodes (action : String) (params : List String) (text : Query → Fitted → Result String) :
    Option (Operation Step) :=
  some (takes ("query" :: params) (params.length + 1) fun f => do
    let q ← Exec.ofResult (f.query 0)
    discard (Exec.ofResult (writeTarget q action))
    let s ← Exec.ofResult (text q f)
    discard (Workspace.useUp (f.value params.length))
    return .text s)

/-- The command that a name stands for, about queries. -/
def statement? : String → Option (Operation Step)
  | "compile_select" => writesQuery (selectText parameter)
  | "compile_wheres" => writes ["query", "predicates"] 1 fun f => do
    wheresText (← f.query 0) (f.isTrue 1 true)
  | "compile_with" => writesQuery (withText parameter)
  | "compile_havings" => writesQuery (havingText parameter)
  | "compile_union_aggregate" => writesQuery unionAggregateText
  | "compile_orders" => writesQuery orderText
  | "compile_offset" => writesQuery skipText
  | "compile_limit" => writesQuery limitText
  | "stages_projection" => some (takes ["query"] 1 fun f => answer do
    return .truth (isStaged (← f.query 0)))
  | "group_name" => writesColumn groupName
  | "compile_expression" => writesColumn expressionText
  | "compile_column" => writesColumn itemText
  | "compile_create" => writesNodes "create a node" ["assignments"] fun q f => do
    createText q (← newAssignments (f.value 1))
  | "compile_insert" => writesNodes "insert" ["records"] fun q f => do
    insertText q (← (← f.members 1).mapM newAssignments)
  | "compile_update" => writesNodes "update" ["assignments"] fun q f => do
    updateText q (← assignmentsOf (f.value 1))
  | "compile_delete" => writesQuery deleteText
  | "compile_update_labels" => writes ["query", "labels", "operation"] 2 fun f => do
    relabelText (← f.query 0) (f.value 1) (f.valueOr 2 (.text "add"))
  | "compile_create_with" => writesNodes "create a node" ["assignments", "related"] fun q f => do
    createWithText q (← newAssignments (f.value 1)) (← f.related 2)
  | _ => none

/-- The nodes that an argument says have been introduced. -/
def Fitted.introduced (f : Fitted) (i : Nat) : Result Introduced := do
  (← f.entries i).mapM fun e => do
    return (← textOf e.1, (← Result.ofFailure e.2.members).filterMap (·.text?))

/-- A command that goes through predicates. -/
def readsPredicates (step : List Predicate → Result Reply) : Option (Operation Step) :=
  some (takes ["wheres"] 1 fun f =>
    Workspace.useThrough (f.value 0) fun vs => step (vs.map (Workspace.predicateOf f.workspace)))

/-- The pattern that an argument is. -/
def Fitted.pattern (f : Fitted) (i : Nat) : Member Pattern :=
  Workspace.patternOf f.workspace (f.value i)

/-- The aggregate that an argument is. -/
def Fitted.aggregate (f : Fitted) (i : Nat) : Member Aggregate :=
  match f.workspace.clauseOf? (f.value i) with
  | some (.aggregate a) => .clause a
  | _ => .foreign (f.value i)

/-- The nodes that a pattern introduces, also if it has no text. -/
def introducedBy (p : Pattern) (seen : Introduced) : Introduced :=
  match patternText p seen with
  | .ok (_, seen) => seen
  | .error _ =>
    if p.far.placeholder = p.parent.placeholder || !(FarEnd.check p.far).isOk then seen
    else ((nodeText p.parent seen).toOption.map (·.2)).getD seen

/-- The nodes that the required or the optional patterns of a query introduce, up to one that has no
text. -/
def introducedAlong (isOptional : Bool) : List (Member Pattern) → Introduced → Introduced
  | .clause p :: rest, seen =>
    if p.isOptional = isOptional then
      if (patternText p seen).isOk then introducedAlong isOptional rest (introducedBy p seen)
      else introducedBy p seen
    else introducedAlong isOptional rest seen
  | _, seen => seen

/-- Nodes with the primary node of a query among them. -/
def withPrimary (q : Query) (seen : Introduced) : Introduced :=
  match q.placeholder? with
  | .ok (some node) => put node q.labelTexts seen
  | _ => seen

/-- A map of introduced nodes in which some are new. Those that are `renewed` are written anew in
any case. -/
def introducedMap (before after : Introduced) (isRenewed : String → Bool) (given : Row) : Row :=
  after.foldl (fun entries e =>
    if lookup? e.1 before = some e.2 && !isRenewed e.1 then entries
    else putEntry (.text e.1) (.tuple (e.2.map .text)) entries) given

/-- Puts the nodes that have been introduced into the map that was given for them. -/
def introduce (f : Fitted) (i : Nat) (after : Introduced → Introduced) (isRenewed : String → Bool) :
    Exec Workspace Unit := do
  match f.value i, f.introduced i with
  | .map given mark, .ok before =>
    discard (Workspace.renew [.map (introducedMap before (after before) isRenewed given) mark])
  | _, _ => pure ()

/-- The nodes that have been introduced before a primary node; only a map takes another one. -/
def Fitted.introducedFor (f : Fitted) (i : Nat) (q : Query) (primary : Bool) : Result Introduced := do
  if primary && (f.value i).entries?.isNone && (← q.placeholder?).isSome then
    .error (.wrongType "the value does not support item assignment")
  f.introduced i

/-- A command that writes a part of a query behind nodes that have been introduced, and introduces
further ones. The part may begin with the primary node of the query. -/
def writesStage (primary : Bool) (text : Query → Introduced → Result (String × Introduced))
    (after : Query → Introduced → Introduced) : Option (Operation Step) :=
  some (takes ["query", "introduced"] 2 fun f => do
    let q ← Exec.ofResult (f.query 0)
    let r := do return (← text q (← f.introducedFor 1 q primary)).1
    let isPrimary (name : String) : Bool :=
      primary && (q.placeholder?.toOption.join == some name)
    introduce f 1 (after q) isPrimary
    answer (r.map .text))

/-- Writes one pattern behind nodes that have been introduced, and introduces its own. -/
def writePattern (f : Fitted) : Step :=
  match f.pattern 0 with
  | .clause p => do
    let r := do return (← patternText p (← f.introduced 1)).1
    introduce f 1 (introducedBy p) fun _ => false
    answer (r.map .text)
  | .foreign v => Exec.fail (.render (.unsupportedMatch v.typeName))

/-- Whether a select returns everything that is in scope, under no names of its own. -/
def returnsEverything (q : Query) : Result Bool := do
  return !isStaged q && isStar (← chosenColumns q) && !q.hasStages

/-- What a select returns behind what has been introduced. -/
def returned (q : Query) (introduced : Value) : Result Value := do
  if ← returnsEverything q then
    let names ← Result.ofFailure introduced.members
    if names.isEmpty then .error (.render .nothingToReturn) else return .ofList names
  else return .ofTexts (← returnItems q [])

/-- A condition as one of the kind with this name, if it has all that such a condition has. -/
def conditionAs (kind : String) (p : Predicate) : Option Predicate :=
  match kind, p with
  | "basic", .compared _ _ _ _ | "carried", .carried _ _ _ _ | "nested", .nested _ _
  | "sub", .comparedRow _ _ _ _ | "in_sub", .amongRows _ _ _ _ | "exists", .present _ _ _ => some p
  | "in", .among j c binding negated | "in", .between j c binding negated =>
    some (.among j c binding negated)
  | "between", .among j c binding negated | "between", .between j c binding negated =>
    some (.between j c binding negated)
  | "null", .isNull j c negated | "null", .among j c _ negated | "null", .between j c _ negated
  | "null", .amongRows j c _ negated => some (.isNull j c negated)
  | "exists", .amongRows j _ s negated => some (.present j s negated)
  | _, _ => none

/-- The kinds of conditions, each under the command that writes it. -/
def conditionKinds : List (String × String) :=
  ["basic", "in", "between", "null", "carried", "nested", "sub", "in_sub", "exists"].map
    fun kind => ("where_" ++ kind, kind)

/-- The command that a name stands for, about clauses. -/
def part? : String → Option (Operation Step)
  | "compile_matches" => writesStage true requiredText fun q seen =>
    introducedAlong false q.patterns (withPrimary q seen)
  | "compile_optional_matches" => writesStage false (optionalText parameter) fun q =>
    introducedAlong true q.patterns
  | "compile_match_stage" =>
    writesStage true (fun q => matchStage parameter q (conditionsOf parameter q)) fun q seen =>
      let required := introducedAlong false q.patterns (withPrimary q seen)
      if (requiredText q seen).isOk then introducedAlong true q.patterns required else required
  | "compile_match_pattern" => some (takes ["match", "introduced"] 2 writePattern)
  | "compile_match_constraint" => writes ["match"] 1 fun f => do
    return constraintText parameter (← (f.pattern 0).need "binding")
  | "return_items" => some (takes ["query", "introduced"] 2 fun f => do
    let q ← Exec.ofResult (f.query 0)
    let items ← Exec.ofResult (returned q (f.value 1))
    if ← Exec.ofResult (returnsEverything q) then discard (Workspace.useUp (f.value 1))
    return .value (.tuple [.text (distinctText q), items]))
  | "compile_aggregate" => writes ["query", "aggregate"] 2 fun f => do
    aggregateText parameter (← f.query 0) (f.aggregate 1)
  | "compile_aggregate_expression" => writes ["query", "aggregate"] 2 fun f => do
    aggregateExpression parameter (← f.query 0) (f.aggregate 1)
  | "compile_predicates" => readsPredicates fun wheres => do
    return .text (← predicatesText parameter wheres)
  | "predicate_aliases" => readsPredicates fun wheres => do
    return .value (nameSet (← predicatesRead wheres))
  | name => (lookup? name conditionKinds).bind fun kind =>
    writes ["where"] 1 (writeCondition kind)
where
  /-- Writes a condition of the kind with this name. Others can be written like it if they have all
  that such a condition has. -/
  writeCondition (kind : String) (f : Fitted) : Result String :=
    match kind, f.argument 0, f.workspace.clauseOf? (f.value 0) with
    | "nested", .query q, _ => predicateText parameter (.nested .all q.query.wheres)
    | "basic", _, some (.having h) =>
      .ok (h.column ++ " " ++ h.operator ++ " " ++ parameter h.binding)
    | _, _, _ =>
      match conditionAs kind (Workspace.predicateOf f.workspace (f.value 0)) with
      | some p => predicateText parameter p
      | none => lacks (f.value 0) "column"

/-- The command that a name stands for, if it writes a part of a statement. -/
def rendering? (name : String) : Option (Operation Step) :=
  (naming? name).or ((statement? name).or (part? name))

end GraphQuery.Command
