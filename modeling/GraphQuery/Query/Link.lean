import GraphQuery.Query.Clause

/-! # Links between queries

A sub-query that is still built elsewhere is a link: it holds the number of that query, and the query
as it was seen last. `Query.refresh` looks at every linked query again, at any depth.

A link whose query is being looked at already is left open, since that query contains itself. A
query may be looked at once inside a condition and once as a branch, because the branches of a branch
have no text. -/

namespace GraphQuery

/-- Where a sub-query stands. -/
inductive LinkPlace where
  | condition
  | branch
deriving DecidableEq, Repr

/-- Finds the query behind a link; none if the link has to stay open. -/
abbrev LinkTarget := LinkPlace → Nat → Option Query

mutual
/-- A predicate whose links have been followed again. -/
def Predicate.relink (target : LinkTarget) : Predicate → Predicate
  | .nested j wheres => .nested j (relinkAll target wheres)
  | .comparedRow j c operator s => .comparedRow j c operator (s.relink target .condition)
  | .amongRows j c s negated => .amongRows j c (s.relink target .condition) negated
  | .present j s negated => .present j (s.relink target .condition) negated
  | p => p
/-- Predicates whose links have been followed again. -/
def relinkAll (target : LinkTarget) : List Predicate → List Predicate
  | [] => []
  | p :: rest => p.relink target :: relinkAll target rest
/-- A sub-query whose links have been followed again. -/
def SubQuery.relink (target : LinkTarget) (place : LinkPlace) : SubQuery → SubQuery
  | .own q =>
    .own
      { q with
        wheres := relinkAll target q.wheres
        branches := relinkBranches target q.branches }
  | .shared number _ => .shared number (target place number)
  | .foreign v => .foreign v
/-- Branches whose links have been followed again. -/
def relinkBranches (target : LinkTarget) : List Branch → List Branch
  | [] => []
  | b :: rest => ⟨b.query.relink target .branch, b.keepsAll⟩ :: relinkBranches target rest
end

namespace Query

/-- A query whose links have been followed again. -/
def relink (target : LinkTarget) (q : Query) : Query :=
  { q with
    wheres := relinkAll target q.wheres
    branches := relinkBranches target q.branches }

/-- A query with every link followed, through at most `depth` queries. `path` holds the links that
are being followed. -/
def refreshFrom (look : Nat → Option Query) :
    (depth : Nat) → (path : List (LinkPlace × Nat)) → Query → Query
  | 0, _, q => q
  | depth + 1, path, q =>
    relink (fun place number =>
      if (place, number) ∈ path then none
      else (look number).map (refreshFrom look depth ((place, number) :: path))) q

/-- The query with this number, one of `count` queries, with every link in it followed. -/
def refresh (look : Nat → Option Query) (count number : Nat) (q : Query) : Query :=
  refreshFrom look (2 * count + 1) [(.condition, number)] q

end Query

end GraphQuery
