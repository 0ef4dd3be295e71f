import GraphQuery.Command.Arguments

/-! # Commands on builders

* `clause?` gives the call that a command on a builder stands for, if it adds a clause.
* `builder?` gives any command on a builder. -/

namespace GraphQuery.Command

open GraphQuery.Call (andName)

/-- The connective among the arguments of a clause. -/
def Fitted.joint (f : Fitted) (i : Nat) : Value := f.valueOr i andName

/-- The options of a clause that are off unless they are asked for. -/
def Fitted.flag (f : Fitted) (i : Nat) : Value := f.valueOr i (.bool false)

/-- Predicates by name. -/
def predicate? : String → Option (Operation Call)
  | "where" => some (takes ["column", "operator", "value", "boolean"] 1 fun f =>
    .filter (f.argument 0) (f.argument? 1) (f.argument? 2) (f.joint 3))
  | "or_where" => some (takes ["column", "operator", "value"] 1 fun f =>
    .orFilter (f.argument 0) (f.argument? 1) (f.argument? 2))
  | "where_nested" => some (takes ["callback", "boolean"] 1 fun f => .group (f.argument 0) (f.joint 1))
  | "where_sub" => some (takes ["column", "operator", "callback", "boolean"] 3 fun f =>
    .compareRow (f.argument 0) (f.value 1) (f.argument 2) (f.joint 3))
  | "where_in" => some (takes ["column", "values", "boolean", "not_"] 2 fun f =>
    .among (f.argument 0) (f.argument 1) (f.joint 2) (f.flag 3))
  | "or_where_in" => some (takes ["column", "values"] 2 fun f => .orAmong (f.argument 0) (f.argument 1))
  | "where_not_in" => some (takes ["column", "values", "boolean"] 2 fun f =>
    .notAmong (f.argument 0) (f.argument 1) (f.joint 2))
  | "or_where_not_in" => some (takes ["column", "values"] 2 fun f =>
    .orNotAmong (f.argument 0) (f.argument 1))
  | "where_in_sub" => some (takes ["column", "callback", "boolean", "not_"] 2 fun f =>
    .amongRows (f.argument 0) (f.argument 1) (f.joint 2) (f.flag 3))
  | "where_between" => some (takes ["column", "values", "boolean", "not_"] 2 fun f =>
    .between (f.argument 0) (f.value 1) (f.joint 2) (f.flag 3))
  | "or_where_between" => some (takes ["column", "values"] 2 fun f =>
    .orBetween (f.argument 0) (f.value 1))
  | "where_not_between" => some (takes ["column", "values", "boolean"] 2 fun f =>
    .notBetween (f.argument 0) (f.value 1) (f.joint 2))
  | "or_where_not_between" => some (takes ["column", "values"] 2 fun f =>
    .orNotBetween (f.argument 0) (f.value 1))
  | "where_null" => some (takes ["column", "boolean", "not_"] 1 fun f =>
    .isNull (f.argument 0) (f.joint 1) (f.flag 2))
  | "or_where_null" => some (takes ["column"] 1 fun f => .orIsNull (f.argument 0))
  | "where_not_null" => some (takes ["column", "boolean"] 1 fun f =>
    .notNull (f.argument 0) (f.joint 1))
  | "or_where_not_null" => some (takes ["column"] 1 fun f => .orNotNull (f.argument 0))
  | "where_carried" => some (takes ["column", "operator", "value", "boolean"] 3 fun f =>
    .carried (f.value 0) (f.value 1) (f.value 2) (f.joint 3))
  | "or_where_carried" => some (takes ["column", "operator", "value"] 3 fun f =>
    .orCarried (f.value 0) (f.value 1) (f.value 2))
  | "where_exists" => some (takes ["callback", "boolean", "not_"] 1 fun f =>
    .present (f.argument 0) (f.joint 1) (f.flag 2))
  | "or_where_exists" => some (takes ["callback"] 1 fun f => .orPresent (f.argument 0))
  | "where_not_exists" => some (takes ["callback", "boolean"] 1 fun f =>
    .notPresent (f.argument 0) (f.joint 1))
  | _ => none

/-- Patterns, projection, grouping, ordering, paging and unions by name. -/
def shape? : String → Option (Operation Call)
  | "from_" => some (takes ["labels"] 1 fun f => .target (f.value 0))
  | "match_relation" =>
    some (takes ["parent", "related", "related_alias", "relationship", "property", "value", "direction",
        "boolean"] 4 fun f =>
      .relation (f.value 0) (f.value 1) (f.value 2) (f.value 3) (f.value 4) (f.value 5)
        (f.valueOr 6 (.text "out")) (f.joint 7))
  | "match_morph_relation" =>
    some (takes ["parent", "related_alias", "property", "value", "direction", "boolean",
        "relationship"] 2 fun f =>
      .anyRelation (f.value 0) (f.value 1) (f.value 2) (f.value 3) (f.valueOr 4 (.text "out"))
        (f.joint 5) (f.value 6))
  | "select" => some (takesMany .select)
  | "add_select" => some (takesMany .addSelect)
  | "distinct" => some (takesNothing .distinct)
  | "with_" => some fun a =>
    if (lookup? "self" a.named).isSome then Arguments.misfit
    else .ok (.stage a.positional a.named)
  | "group_by" => some (takesMany .groupBy)
  | "having" => some (takes ["column", "operator", "value", "boolean"] 1 fun f =>
    .having (f.value 0) (f.argument? 1) (f.argument? 2) (f.joint 3))
  | "or_having" => some (takes ["column", "operator", "value"] 1 fun f =>
    .orHaving (f.value 0) (f.argument? 1) (f.argument? 2))
  | "order_by" => some (takes ["column", "direction"] 1 fun f =>
    .orderBy (f.value 0) (f.valueOr 1 (.text "asc")))
  | "order_by_desc" => some (takes ["column"] 1 fun f => .orderByDescending (f.value 0))
  | "latest" => some (takes ["column"] 0 fun f => .latest (f.valueOr 0 (.text "created_at")))
  | "oldest" => some (takes ["column"] 0 fun f => .oldest (f.valueOr 0 (.text "created_at")))
  | "limit" | "take" => some (takes ["value"] 1 fun f => .limit (f.value 0))
  | "offset" | "skip" => some (takes ["value"] 1 fun f => .offset (f.value 0))
  | "for_page" => some (takes ["page", "per_page"] 1 fun f =>
    .page (f.value 0) (f.valueOr 1 (.int 15)))
  | "union" => some (takes ["query", "all"] 1 fun f => .union (f.argument 0) (f.flag 1))
  | "union_all" => some (takes ["query"] 1 fun f => .unionAll (f.argument 0))
  | "add_binding" => some (takes ["value", "bucket"] 1 fun f =>
    .addBindings (f.value 0) (f.valueOr 1 (.text "where")))
  | _ => none

/-- The call of a command that adds a clause. -/
def clause? (name : String) : Option (Operation Call) := (predicate? name).or (shape? name)

end GraphQuery.Command

/-! ### Commands on builders

`builder?` gives the command on a builder that a name stands for: a clause that is added, a look at
what has been built, another builder, or a statement that is run. -/

namespace GraphQuery.Command

/-- The columns among the arguments; all of them unless some are given. -/
def Fitted.columns (f : Fitted) (i : Nat) : Value := f.valueOr i (.tuple [.text "*"])

/-- The command that looks at a builder, or makes another one out of it. -/
def looking? (n : Nat) : String → Option (Operation Step)
  | "to_statement" | "to_cypher" => some (takesNothing do
    answer ((Cypher.statementText ((← get).query n)).map .text))
  | "model_as_node" => some (takes ["labels"] 0 fun f => do
    let labels ← Workspace.useUp (f.value 0)
    answer ((Build.placeholderFor ((← get).query n) labels).map .text))
  | "known_aliases" => some (takesNothing do
    return .value (.ofTexts (← Exec.ofResult ((← get).query n).knownPlaceholders)))
  | "resolve_column" => some (takes ["column"] 1 fun f => do
    let c ← Exec.ofResult (((← get).query n).resolve (f.value 0))
    return .value (.column c))
  | "get_bindings" => some (takesNothing do
    let b := (← get).builder n
    Exec.ofResult (b.query.ask .bindings "flatten")
    return .table b.table.flatten)
  | "get_raw_bindings" => some (takesNothing do
    let b := (← get).builder n
    Exec.ofResult (b.query.ask .bindings "bucket")
    let t := b.table
    return .named (Bucket.all.map fun b => (b.name, .ofPairs (t.bucket b))))
  | "aggregate_columns" => some (takes ["columns"] 1 fun f => do
    let columns ← Workspace.useUp (f.value 0)
    return .value (.tuple (aggregateColumns (← Exec.ofResult (Result.ofFailure columns.members)))))
  | "new_query" => some (takesNothing do gives (.builder (← Workspace.newBuilder n)))
  | "for_sub_query" => some (takesNothing do gives (.builder (← Workspace.subBuilder n)))
  | "for_nested_where" => some (takesNothing do gives (.builder (← Workspace.groupBuilder n)))
  | "clone" => some (takesNothing do gives (.builder (← Workspace.cloneBuilder n)))
  | _ => none

/-- A command that runs a statement and gives a value. -/
def fetches (params : List String) (needed : Nat) (step : Fitted → Exec LiveQuery Value) :
    Option (Operation (Exec LiveQuery Reply)) :=
  some (takes params needed fun f => do return .value (← step f))

/-- A command that runs an aggregate of a column. -/
def fetchesColumn (step : Value → Exec LiveQuery Value) : Option (Operation (Exec LiveQuery Reply)) :=
  fetches ["column"] 1 fun f => step (f.value 0)

/-- The percentile among the arguments. -/
def Fitted.percentile (f : Fitted) (i : Nat) : Value := f.valueOr i (.double .zero)

/-- The command that runs a statement which reads. -/
def reading? : String → Option (Operation (Exec LiveQuery Reply))
  | "get" => fetches ["columns"] 0 fun f => do return .ofList (← LiveQuery.fetch (f.columns 0))
  | "first" => fetches ["columns"] 0 fun f => LiveQuery.fetchFirst (f.columns 0)
  | "find" => fetches ["id", "columns"] 1 fun f => LiveQuery.fetchById (f.operand 0) (f.columns 1)
  | "value" => fetchesColumn LiveQuery.fetchValue
  | "pluck" => fetchesColumn fun column => do return .ofList (← LiveQuery.fetchColumn column)
  | "exists" => some (takesNothing do return .truth (← LiveQuery.hasRows))
  | "doesnt_exist" => some (takesNothing do return .truth (!(← LiveQuery.hasRows)))
  | "aggregate" => fetches ["function", "columns", "percentile"] 1 fun f =>
    LiveQuery.aggregate (f.value 0) (f.columns 1) (f.value 2)
  | "count" => fetches ["columns"] 0 fun f => LiveQuery.count (f.columns 0)
  | "count_distinct" => fetches ["columns"] 0 fun f => LiveQuery.countDistinct (f.columns 0)
  | "sum" => fetchesColumn LiveQuery.sum
  | "avg" | "average" => fetchesColumn LiveQuery.average
  | "min" => fetchesColumn LiveQuery.minimum
  | "max" => fetchesColumn LiveQuery.maximum
  | "stdev" => fetchesColumn LiveQuery.deviation
  | "stdevp" => fetchesColumn LiveQuery.populationDeviation
  | "percentile_disc" => fetches ["column", "percentile"] 1 fun f =>
    LiveQuery.discretePercentile (f.value 0) (f.percentile 1)
  | "percentile_cont" => fetches ["column", "percentile"] 1 fun f =>
    LiveQuery.continuousPercentile (f.value 0) (f.percentile 1)
  | "collect" => fetchesColumn LiveQuery.collect
  | "get_count_for_pagination" => some (takes ["columns"] 0 fun f => do
    return .count (← LiveQuery.total (f.columns 0)))
  | _ => none

/-- The command that fetches a page. -/
def paging? (n : Nat) : String → Option (Operation Step)
  | "paginate" => some (takes ["per_page", "page", "columns"] 0 fun f => do
    let p ← (LiveQuery.paginate (f.valueOr 0 (.int 15)) (f.valueOr 1 (.int 1)) (f.columns 2)).within
      (Workspace.livePart n)
    gives (.page (← Workspace.addPage p)))
  | _ => none

/-- Requests for related nodes as they are at the moment. -/
def Fitted.requests (f : Fitted) (i : Nat) : Value :=
  match f.value i with
  | .map es _ => .ofPairs (es.map fun e => (e.1, f.workspace.current e.2))
  | v => v

/-- The command that runs a statement which writes. -/
def writing? : String → Option (Operation (Exec LiveQuery Reply))
  | "insert" => some (takes ["values"] 1 fun f => do
    LiveQuery.insert (f.value 0)
    return .truth true)
  | "insert_get_id" => fetches ["values"] 1 fun f => LiveQuery.insertOne (f.value 0)
  | "update" => some (takes ["values"] 1 fun f => do
    return .count (← LiveQuery.update (f.value 0)))
  | "delete" => some (takes ["id"] 0 fun f => do
    return .count (← LiveQuery.delete (f.operand 0)))
  | "update_labels" => some (takes ["labels", "operation"] 1 fun f => do
    return .truth (← LiveQuery.relabel (f.value 0) (f.valueOr 1 (.text "add"))))
  | "create_with" => fetches ["values", "related"] 2 fun f =>
    LiveQuery.createWith (f.value 0) (f.requests 1)
  | _ => none

/-- The command on a builder with a number that a name stands for, clauses apart. -/
def builder? (n : Nat) (name : String) : Option (Operation Step) :=
  match looking? n name, (reading? name).or (writing? name) with
  | some look, _ => some look
  | none, some run => some fun a => (run a).map fun step => step.within (Workspace.livePart n)
  | none, none => paging? n name

end GraphQuery.Command
