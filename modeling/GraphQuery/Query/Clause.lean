import GraphQuery.Query.Operator
import GraphQuery.Value

/-! # Clauses and queries

A `Query` is what has been asked for so far: labels of the primary node, relationship patterns,
predicates, projection, grouping, ordering, paging and unions. Values do not stand in it; clauses
name the parameters that hold them.

A predicate can hold whole queries, so predicates, sub-queries and queries are defined together:
`QueryOver` takes the types of its predicates and sub-queries as parameters, and `Query` ties the
knot.

Callers can put anything in the place of a part of a query, or into one of its lists. Such a
stand-in is kept as it is; `QueryOver.walk` and `QueryOver.ask` tell whether it can be gone through
and what it lacks, and a `Member` of a list may be no clause. -/

namespace GraphQuery

/-! ### Patterns -/

/-- A node inside a pattern. -/
structure NodePattern where
  placeholder : String
  labels : List String
deriving DecidableEq, Repr

/-- The far end of a relationship. -/
inductive FarEnd where
  /-- a node whose labels are known, along a relationship of a known type -/
  | node (pattern : NodePattern) (relationship : String)
  /-- a node of any labels, along a relationship whose type may be open -/
  | anyNode (placeholder : String) (relationship : Option String)
  /-- an end of a kind that has no text -/
  | foreign (kind : String) (placeholder : String)
deriving DecidableEq, Repr

/-- A relationship pattern between a parent node and a far end. With a property and a binding the
parent is constrained to that value. -/
structure Pattern where
  parent : NodePattern
  far : FarEnd
  direction : Direction
  isOptional : Bool
  property : Option String
  binding : Option String
deriving DecidableEq, Repr

/-- The placeholder of the far end. -/
def FarEnd.placeholder : FarEnd → String
  | node pattern _ => pattern.placeholder
  | anyNode placeholder _ => placeholder
  | foreign _ placeholder => placeholder

/-! ### Members of lists of clauses -/

/-- A member of a list of clauses: a clause, or something else that was put there. -/
inductive Member (α : Type) where
  | clause (c : α)
  | foreign (v : Value)
deriving Repr

namespace Member

/-- The clause, if the member is one. -/
def clause? {α : Type} : Member α → Option α
  | clause c => some c
  | foreign _ => none

/-- A member with its clause changed. -/
def map {α : Type} (f : α → α) : Member α → Member α
  | clause c => clause (f c)
  | foreign v => foreign v

/-- The clause; anything else lacks what is asked of it. -/
def need {α : Type} (name : String) : Member α → Result α
  | clause c => .ok c
  | foreign v => .error (.noAttribute v name)

end Member

/-! ### Projection, grouping, ordering -/

/-- An aggregate over columns; the percentile of some is a parameter. -/
structure Aggregate where
  function : String
  columns : List Value
  label : String
  percentile : Option String
deriving Repr

/-- A sort key. The column is resolved when the query gets its text. -/
structure SortKey where
  column : Value
  direction : SortDirection
deriving Repr

/-- A condition on grouped values. -/
structure Having where
  column : String
  operator : String
  binding : String
  joint : Connective
deriving DecidableEq, Repr

/-- A branch of a union. -/
structure BranchOver (S : Type) where
  query : S
  keepsAll : Bool
deriving Repr

/-! ### Queries -/

/-- The parts of a query, or of the builder it belongs to, that something else can stand for. -/
inductive QueryPart where
  | patterns
  | wheres
  | stages
  | groups
  | havings
  | sortKeys
  | branches
  | bindings
  | grammar
  | connection
deriving DecidableEq, Repr

/-- What a query asks for, over a type `P` of predicates and a type `S` of sub-queries. Labels,
stages, columns, limits and the like are kept as callers gave them; what they mean is found out when
the query gets its text, or in the case of the entity class when it gets results. A list with a
stand-in holds the members of the stand-in. -/
structure QueryOver (P S : Type) where
  labels : Value
  entity : Value
  patterns : List (Member Pattern)
  wheres : List P
  stages : List Value
  columns : Value
  groups : List Value
  havings : List (Member Having)
  sortKeys : List (Member SortKey)
  branches : List (BranchOver S)
  limit : Value
  offset : Value
  isDistinct : Value
  aggregate : Option (Member Aggregate)
  standIns : List (QueryPart × Value)
deriving Repr

namespace QueryOver

variable {P S : Type}

/-- What stands for a part. -/
def standIn? (q : QueryOver P S) (part : QueryPart) : Option Value :=
  (q.standIns.find? fun s => s.1 = part).map (·.2)

/-- The query with something else for a part. -/
def withStandIn (q : QueryOver P S) (part : QueryPart) (v : Option Value) : QueryOver P S :=
  { q with standIns :=
      v.toList.map (fun v => (part, v)) ++ q.standIns.filter fun s => s.1 ≠ part }

/-- Goes through a part; a stand-in may have no members. -/
def walk (q : QueryOver P S) (part : QueryPart) : Result Unit :=
  match q.standIn? part with
  | none => .ok ()
  | some v => discard (Result.ofFailure v.members)

/-- Asks a part for something; a stand-in does not have it. -/
def ask (q : QueryOver P S) (part : QueryPart) (name : String) : Result Unit :=
  match q.standIn? part with
  | none => .ok ()
  | some v => .error (.noAttribute v name)

/-- Whether a part counts as present; without a stand-in that is whether its list is not empty. -/
def isPresent (q : QueryOver P S) (part : QueryPart) (isEmpty : Bool) : Bool :=
  ((q.standIn? part).map (·.isTruthy)).getD !isEmpty

/-- Whether there are stages. -/
def hasStages (q : QueryOver P S) : Bool := q.isPresent .stages q.stages.isEmpty

/-- Whether rows are grouped. -/
def hasGroups (q : QueryOver P S) : Bool := q.isPresent .groups q.groups.isEmpty

/-- Whether there are conditions on groups. -/
def hasHavings (q : QueryOver P S) : Bool := q.isPresent .havings q.havings.isEmpty

/-- Whether there are sort keys. -/
def hasSortKeys (q : QueryOver P S) : Bool := q.isPresent .sortKeys q.sortKeys.isEmpty

/-- Whether there are branches. -/
def hasBranches (q : QueryOver P S) : Bool := q.isPresent .branches q.branches.isEmpty

/-- The parts that are lists. -/
def listParts : List QueryPart :=
  [.patterns, .wheres, .stages, .groups, .havings, .sortKeys, .branches]

/-- What stands for the table of bindings has to be something that can be copied. -/
def copyBindings (q : QueryOver P S) : Result Unit :=
  match q.standIn? .bindings with
  | some (.map _ _) | some (.list _ _) | some (.set _) => .ok ()
  | _ => q.ask .bindings "copy"

/-- A copy whose lists are lists of their own. -/
def copied (q : QueryOver P S) : Result (QueryOver P S) := do
  q.copyBindings
  listParts.forM q.walk
  return { q with standIns := q.standIns.filter fun s => s.1 ∉ listParts }

end QueryOver

mutual
/-- A condition on rows. Each carries the connective that joins it to the one before. -/
inductive Predicate where
  /-- a column compared with a parameter -/
  | compared (joint : Connective) (column : ColumnRef) (operator binding : String)
  /-- a column among the values of a parameter -/
  | among (joint : Connective) (column : ColumnRef) (binding : String) (negated : Bool)
  /-- a column between the two values of a parameter -/
  | between (joint : Connective) (column : ColumnRef) (binding : String) (negated : Bool)
  /-- a column that is null -/
  | isNull (joint : Connective) (column : ColumnRef) (negated : Bool)
  /-- two texts that are written as they are -/
  | carried (joint : Connective) (column operator value : String)
  /-- predicates in parentheses -/
  | nested (joint : Connective) (wheres : List Predicate)
  /-- a column compared with the first value of a sub-query -/
  | comparedRow (joint : Connective) (column : ColumnRef) (operator : String) (query : SubQuery)
  /-- a column among the values of a sub-query -/
  | amongRows (joint : Connective) (column : ColumnRef) (query : SubQuery) (negated : Bool)
  /-- a sub-query that has rows -/
  | present (joint : Connective) (query : SubQuery) (negated : Bool)
  /-- a value that is no predicate and has no text -/
  | foreign (v : Value)
/-- A query inside another one. -/
inductive SubQuery where
  /-- a query that belongs to this place alone -/
  | own (query : QueryOver Predicate SubQuery)
  /-- a query that is still built elsewhere under a number, as it was seen last; nothing is seen of
  a query that contains itself -/
  | shared (number : Nat) (seen : Option (QueryOver Predicate SubQuery))
  /-- something that was put in the place of a branch -/
  | foreign (v : Value)
end

/-- What a query asks for. -/
abbrev Query := QueryOver Predicate SubQuery

/-- A branch of a union. -/
abbrev Branch := BranchOver SubQuery

namespace Query

/-- The query that asks for nothing yet. -/
def empty : Query :=
  ⟨.tuple [], .null, [], [], [], .null, [], [], [], [], .null, .null, .bool false, none, []⟩

end Query

/-- The query behind a sub-query, unless it contains itself. -/
def SubQuery.query? : SubQuery → Option Query
  | .own q => some q
  | .shared _ seen => seen
  | .foreign _ => none

/-- The query behind a sub-query; one that contains itself cannot be walked through. -/
def SubQuery.content (s : SubQuery) : Result Query :=
  match s with
  | .own q | .shared _ (some q) => .ok q
  | .shared _ none => .error (.failure .selfContained)
  | .foreign v => .error (.noAttribute v "labels")

/-- The connective of a predicate; a value that is no predicate counts as joined by `AND`. -/
def Predicate.joint : Predicate → Connective
  | .compared j _ _ _ | .among j _ _ _ | .between j _ _ _ | .isNull j _ _ | .carried j _ _ _
  | .nested j _ | .comparedRow j _ _ _ | .amongRows j _ _ _ | .present j _ _ => j
  | .foreign _ => .all

/-- The column that a predicate reads. -/
def Predicate.column? : Predicate → Option ColumnRef
  | .compared _ c _ _ | .among _ c _ _ | .between _ c _ _ | .isNull _ c _ | .comparedRow _ c _ _
  | .amongRows _ c _ _ => some c
  | _ => none

end GraphQuery
