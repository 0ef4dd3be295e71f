import GraphQuery.Cypher.Projection

/-! # The text of selects

The clauses of a select come in a fixed order: patterns that have to match, conditions, optional
patterns, the stage before the projection, the projection, order, offset and limit. When a condition
reads a node that only an optional pattern introduces, the conditions come after those patterns
instead, in a stage of their own.

* `predicateText` writes a condition and `predicatesText` a list of them.
* `readPlaceholders` are the nodes that conditions read.
* `selectText` writes a select with its union branches, and `statementText` does so with the
  parameters of a statement. -/

namespace GraphQuery.Cypher

open GraphQuery GraphQuery.Text

/-! ### Nodes that conditions read -/

/-- Whether a value has something behind the name under which a predicate has its sub-query. It is
none, so the nodes of it cannot be told. -/
def hasQueryName : Value → Bool
  | .entityClass _ | .entity _ => true
  | .object o => match o.ref with
    | .connection _ => true
    | _ => false
  | _ => false

mutual
/-- The placeholders that a condition reads, those of its sub-queries included. -/
def predicateReads : Predicate → Result (List String)
  | .compared _ c _ _ | .among _ c _ _ | .between _ c _ _ | .isNull _ c _ => .ok c.owner?.toList
  | .carried _ column _ value => .ok (identifierTokens (column ++ " " ++ value))
  | .nested _ wheres => predicatesRead wheres
  | .comparedRow _ c _ s | .amongRows _ c s _ => do return c.owner?.toList ++ (← subQueryReads s)
  | .present _ s _ => subQueryReads s
  | .foreign v =>
    if hasQueryName v then .error (.noAttribute (.handle "method") "known_aliases") else .ok []
/-- The placeholders that conditions read. -/
def predicatesRead : List Predicate → Result (List String)
  | [] => .ok []
  | p :: rest => do return (← predicateReads p) ++ (← predicatesRead rest)
/-- The placeholders that a sub-query introduces or reads. -/
def subQueryReads : SubQuery → Result (List String)
  | .own q | .shared _ (some q) => do
    let known ← Query.knownPlaceholders q
    q.walk .wheres
    return known ++ (← predicatesRead q.wheres)
  | .shared _ none => .error (.failure .selfContained)
  | .foreign v => .error (.noAttribute v "known_aliases")
end

/-! ### Putting a select together -/

/-- The conditions of a query, as far as they do not depend on the rest of it. -/
structure Conditions where
  /-- the text of all of them -/
  text : Result String
  /-- the placeholders that they read -/
  reads : Result (List String)

/-- The conditions of the required patterns, and then the others. -/
def whereText (write : String → String) (q : Query) (predicates : String) : String :=
  let constraints := requiredConstraints write q
  let predicates :=
    if predicates ≠ "" ∧ constraints ≠ [] ∧ 1 < q.wheres.length then "(" ++ predicates ++ ")"
    else predicates
  let all := constraints ++ (if predicates = "" then [] else [predicates])
  if all.isEmpty then "" else "WHERE " ++ joined " AND " all

/-- Whether a condition reads a node that only an optional pattern introduces. -/
def isDeferred (reads : List String) (before after : Introduced) : Bool :=
  reads.any fun p => (lookup? p after).isSome && (lookup? p before).isNone

/-- Patterns and conditions of a query, behind nodes that have been introduced already. -/
def matchStage (write : String → String) (q : Query) (conditions : Conditions)
    (introduced : Introduced) : Result (String × Introduced) := do
  let (required, before) ← requiredText q introduced
  let (optional, seen) ← optionalText write q before
  q.walk .wheres
  let reads ← conditions.reads
  let predicates ← conditions.text
  if isDeferred reads before seen then
    return (spaced [required, whereText write q "", optional, "WITH * WHERE " ++ predicates], seen)
  else return (spaced [required, whereText write q predicates, optional], seen)

/-- The mark of a projection without rows that occur twice. -/
def distinctText (q : Query) : String := if q.isDistinct.isTruthy then "DISTINCT " else ""

/-- A select without its branches, and the names of its columns. A branch is given the names of the
first select. -/
def singleSelect (write : String → String) (q : Query) (conditions : Conditions)
    (names : Option (List String)) : Result (String × List String) := do
  let (stage, seen) ← matchStage write q conditions []
  let carried ← withText write q
  let (projection, items) ← match isStaged q, q.aggregate with
    | false, some a => do .ok (← aggregateText write q a, [])
    | _, _ => do
      let items ← returnItems q seen
      let items ← match names with
        | some names => alignItems items names
        | none => .ok items
      .ok ("RETURN " ++ distinctText q ++ joined ", " items, items)
  let order ← orderText q
  return (spaced [stage, carried, projection, order, ← skipText q, ← limitText q],
    items.map columnName)

/-- A branch of a union: whether it keeps rows that occur twice, its query, and the conditions. -/
structure BranchText where
  keepsAll : Bool
  content : Result (Query × Conditions)

/-- The keyword before a branch. -/
def BranchText.keyword (b : BranchText) : String := if b.keepsAll then "UNION ALL" else "UNION"

/-- Adds the branches to the text of a select, one after another. -/
def appendBranches (write : String → String) (names : List String) :
    (text : String) → List BranchText → Result String
  | text, [] => .ok text
  | text, b :: rest => do
    let (q, conditions) ← b.content
    let (branch, _) ← singleSelect write q conditions (some names)
    appendBranches write names (text ++ " " ++ b.keyword ++ " " ++ branch) rest

/-- A select that is not an aggregate over a union. -/
def plainSelect (write : String → String) (q : Query) (conditions : Conditions)
    (branches : List BranchText) : Result String := do
  let (text, names) ← singleSelect write q conditions none
  q.walk .branches
  appendBranches write names text branches

/-- An aggregate over the rows of a whole union. -/
def unionAggregate (write : String → String) (q : Query) (a : Member Aggregate)
    (conditions : Conditions) (branches : List BranchText) : Result String :=
  if q.hasGroups || q.hasHavings then .error (.render .groupedUnionAggregate)
  else do
    let inner ← plainSelect write { ← q.copied with aggregate := none } conditions branches
    return "CALL \x7b " ++ inner ++ " \x7d " ++ (← aggregateText write q a)

/-- A select, put together from its parts. -/
def assembleSelect (write : String → String) (q : Query) (conditions : Conditions)
    (branches : List BranchText) : Result String := do
  match q.hasBranches, q.aggregate with
  | true, some a => unionAggregate write q a conditions branches
  | _, _ => plainSelect write q conditions branches

/-! ### Conditions as text -/

/-- A text that is negated as a whole. -/
def negate (negated : Bool) (text : String) : String := if negated then "NOT " ++ text else text

/-- A sub-query between braces behind a keyword. -/
def braced (keyword text : String) : String := keyword ++ " \x7b " ++ text ++ " \x7d"

/-- Puts a condition in front of others; an empty one leaves no trace. -/
def prependCondition (joint : Connective) (text : String) (rest : List (Connective × String)) :
    List (Connective × String) :=
  if text = "" then rest else (joint, text) :: rest

mutual
/-- The text of a condition. -/
def predicateText (write : String → String) : Predicate → Result String
  | .compared _ c operator binding => do
    return (← columnText c) ++ " " ++ operator ++ " " ++ write binding
  | .among _ c binding negated => do
    return negate negated ((← columnText c) ++ " IN " ++ write binding)
  | .between _ c binding negated => do
    let range := write binding ++ "[0] <= " ++ (← columnText c) ++ " <= " ++
      write binding ++ "[1]"
    return (if negated then "NOT (" ++ range ++ ")" else range)
  | .isNull _ c negated => do
    return (← columnText c) ++ " IS " ++ (if negated then "NOT " else "") ++ "NULL"
  | .carried _ column operator value => .ok (column ++ " " ++ operator ++ " " ++ value)
  | .nested _ wheres => do
    let inner := joinConditions (← conditionTexts write wheres)
    return (if inner = "" then "" else "(" ++ inner ++ ")")
  | .comparedRow _ c operator s => do
    let column ← columnText c
    return column ++ " " ++ operator ++ " head(" ++ braced "COLLECT" (← subQueryText write s) ++ ")"
  | .amongRows _ c s negated => do
    let column ← columnText c
    return negate negated (column ++ " IN " ++ braced "COLLECT" (← subQueryText write s))
  | .present _ s negated => do return negate negated (braced "EXISTS" (← subQueryText write s))
  | .foreign v => .error (.render (.unsupportedPredicate v.literal))
/-- The texts of conditions with their connectives, without the empty ones. -/
def conditionTexts (write : String → String) :
    List Predicate → Result (List (Connective × String))
  | [] => .ok []
  | p :: rest => do
    let text ← predicateText write p
    return prependCondition p.joint text (← conditionTexts write rest)
/-- The select of a sub-query. -/
def subQueryText (write : String → String) : SubQuery → Result String
  | .own q | .shared _ (some q) =>
    assembleSelect write q
      ⟨do return joinConditions (← conditionTexts write q.wheres), predicatesRead q.wheres⟩
      (branchTexts write q.branches)
  | .shared _ none => .error (.failure .selfContained)
  | .foreign v => .error (.noAttribute v "unions")
/-- The branches of a union. -/
def branchTexts (write : String → String) : List Branch → List BranchText
  | [] => []
  | b :: rest => ⟨b.keepsAll, branchContent write b.query⟩ :: branchTexts write rest
/-- The query of a branch with its conditions. -/
def branchContent (write : String → String) : SubQuery → Result (Query × Conditions)
  | .own q | .shared _ (some q) =>
    .ok (q,
      ⟨do return joinConditions (← conditionTexts write q.wheres), predicatesRead q.wheres⟩)
  | .shared _ none => .error (.failure .selfContained)
  | .foreign v => .error (.noAttribute v "all")
end

/-- The text of several conditions. -/
def predicatesText (write : String → String) (wheres : List Predicate) : Result String := do
  return joinConditions (← conditionTexts write wheres)

/-- The conditions of a query. -/
def conditionsOf (write : String → String) (q : Query) : Conditions :=
  ⟨predicatesText write q.wheres, predicatesRead q.wheres⟩

/-- The text of an aggregate over the rows of a whole union. -/
def unionAggregateText (q : Query) : Result String :=
  if q.hasGroups || q.hasHavings then .error (.render .groupedUnionAggregate)
  else
    match q.aggregate with
    | some a =>
      unionAggregate parameter q a (conditionsOf parameter q) (branchTexts parameter q.branches)
    | none => do
      discard
        (plainSelect parameter q (conditionsOf parameter q) (branchTexts parameter q.branches))
      .error (.noAttribute .null "function")

/-- The text of a select. -/
def selectText (write : String → String) (q : Query) : Result String :=
  assembleSelect write q (conditionsOf write q) (branchTexts write q.branches)

/-- The text of a select under its own grammar, for which something else may stand. -/
def statementText (q : Query) : Result String := do
  q.ask .grammar "compile_select"
  selectText parameter q

/-- The notation of a query inside messages. -/
def queryLiteral (q : Query) : Result String :=
  if !q.labels.isTruthy && !q.isPresent .patterns q.patterns.isEmpty then .ok "Builder(<empty>)"
  else do return "Builder(" ++ (← statementText q) ++ ")"

/-- The text of the conditions of a query. -/
def wheresText (q : Query) (withPredicates : Bool) : Result String := do
  q.walk .patterns
  if withPredicates then q.walk .wheres
  let predicates ← if withPredicates then predicatesText parameter q.wheres else .ok ""
  return whereText parameter q predicates

end GraphQuery.Cypher
