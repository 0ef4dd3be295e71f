import GraphQuery.Cypher.Select
import GraphQuery.Query.Related

/-! # Looking at clauses

A clause of a query can be looked at on its own. `Clause.fields` are its fields by name, in the order
in which its notation gives them. A clause or a query that stands in a field is a loose object: it is
only looked at and has no number. -/

namespace GraphQuery

/-- A clause that is looked at on its own. -/
inductive Clause where
  | predicate (p : Predicate)
  | pattern (p : Pattern)
  | node (n : NodePattern)
  | aggregate (a : Aggregate)
  | having (h : Having)
  | sortKey (k : SortKey)
  | branch (b : Branch)
  | related (r : RelatedRequest)
  | relatedCreation (r : RelatedCreation)

/-! ### Kinds -/

/-- The name of the kind of a predicate. -/
def Predicate.kindName : Predicate → String
  | .compared _ _ _ _ => "BasicPredicate"
  | .among _ _ _ _ => "InPredicate"
  | .between _ _ _ _ => "BetweenPredicate"
  | .isNull _ _ _ => "NullPredicate"
  | .carried _ _ _ _ => "CarriedPredicate"
  | .nested _ _ => "NestedPredicate"
  | .comparedRow _ _ _ _ => "SubQueryPredicate"
  | .amongRows _ _ _ _ => "InSubQueryPredicate"
  | .present _ _ _ => "ExistsPredicate"
  | .foreign v => v.typeName

/-- The name of the kind of a pattern. -/
def Pattern.kindName (p : Pattern) : String :=
  match p.far with
  | .node _ _ => "RelationMatch"
  | .anyNode _ _ => "MorphMatch"
  | .foreign kind _ => kind

/-- The name of the kind of a clause. -/
def Clause.kindName : Clause → String
  | predicate p => p.kindName
  | pattern p => p.kindName
  | node _ => "NodePattern"
  | aggregate _ => "Aggregate"
  | having _ => "Having"
  | sortKey _ => "Order"
  | branch _ => "Union"
  | related _ => RelatedRequest.kindName
  | relatedCreation _ => "RelatedCreate"

/-! ### Fields -/

/-- An object that is known by its fields. -/
def modelObject (ref : ObjectRef) (kind : String) (fields : Properties) : ObjectData Value :=
  ⟨ref, kind, some (fields.map fun f => Value.fieldPair f.1 f.2), none,
    some (bracketed (kind ++ "(") (fieldLiterals fields) ")")⟩

/-- A clause in a field. -/
def looseClause (kind : String) (fields : Properties) : Value :=
  .object (modelObject .loose kind fields)

/-- A sub-query in a field. -/
def SubQuery.value (s : SubQuery) : Value :=
  let ref : ObjectRef := match s with
    | .own _ | .foreign _ => .loose
    | .shared number _ => .builder number
  .object ⟨ref, "Builder", none, none, s.query?.bind fun q => (Cypher.queryLiteral q).toOption⟩

/-- The fields that every predicate begins with. -/
def predicateHead (joint : Connective) (kind : String) : Properties :=
  [("boolean", .text joint.name), ("kind", .text kind)]

mutual
/-- The fields of a predicate. -/
def Predicate.fields : Predicate → Properties
  | .compared j c operator binding => predicateHead j "basic" ++
    [("column", .column c), ("operator", .text operator), ("binding", .text binding)]
  | .among j c binding negated => predicateHead j "in" ++
    [("column", .column c), ("binding", .text binding), ("negated", .bool negated)]
  | .between j c binding negated => predicateHead j "between" ++
    [("column", .column c), ("binding", .text binding), ("negated", .bool negated)]
  | .isNull j c negated => predicateHead j "null" ++
    [("column", .column c), ("negated", .bool negated)]
  | .carried j column operator value => predicateHead j "carried" ++
    [("column", .text column), ("operator", .text operator), ("value", .text value)]
  | .nested j wheres => predicateHead j "nested" ++ [("wheres", .ofList (looseClauses wheres))]
  | .comparedRow j c operator s => predicateHead j "sub" ++
    [("column", .column c), ("operator", .text operator), ("query", s.value)]
  | .amongRows j c s negated => predicateHead j "in_sub" ++
    [("column", .column c), ("query", s.value), ("negated", .bool negated)]
  | .present j s negated => predicateHead j "exists" ++
    [("query", s.value), ("negated", .bool negated)]
  | .foreign _ => []
/-- Predicates as they stand in a field. What is none stands there as it is. -/
def looseClauses : List Predicate → List Value
  | [] => []
  | p :: rest =>
    (match p with
      | .foreign v => v
      | p => looseClause p.kindName p.fields) :: looseClauses rest
end

/-- The fields of a node inside a pattern. -/
def NodePattern.fields (n : NodePattern) : Properties :=
  [("alias", .text n.placeholder), ("labels", .tuple (n.labels.map .text))]

/-- A node inside a pattern as it stands in a field. -/
def NodePattern.value (n : NodePattern) : Value := looseClause "NodePattern" n.fields

/-- The fields of a pattern. -/
def Pattern.fields (p : Pattern) : Properties :=
  [("parent", p.parent.value), ("direction", .text p.direction.name),
    ("optional", .bool p.isOptional), ("property", .ofText? p.property),
    ("binding", .ofText? p.binding)] ++
  match p.far with
  | .node far relationship =>
    [("kind", .text "relation"), ("related", far.value), ("relationship", .text relationship)]
  | .anyNode placeholder relationship =>
    [("kind", .text "morph"), ("related_alias", .text placeholder),
      ("relationship", .ofText? relationship)]
  | .foreign _ placeholder => [("kind", .text placeholder), ("related_alias", .text placeholder)]

/-- Names of bindings as a map. -/
def assignmentMap (assignments : List (String × String)) : Value :=
  .ofProperties (assignments.map fun a => (a.1, .text a.2))

/-- The fields of a clause. -/
def Clause.fields : Clause → Properties
  | predicate p => p.fields
  | pattern p => p.fields
  | node n => n.fields
  | aggregate a => [("function", .text a.function), ("columns", .tuple a.columns),
    ("alias", .text a.label), ("percentile_binding", .ofText? a.percentile)]
  | having h => [("column", .text h.column), ("operator", .text h.operator),
    ("binding", .text h.binding), ("boolean", .text h.joint.name)]
  | sortKey k => [("column", k.column), ("direction", .text k.direction.keyword)]
  | branch b => [("query", b.query.value), ("all", .bool b.keepsAll)]
  | related r => r.fields
  | relatedCreation r => [("name", .text r.name), ("alias", .text r.placeholder),
    ("labels", .tuple (r.labels.map .text)), ("relationship", .text r.relationship),
    ("direction", .text r.direction.name), ("creates", .tuple (r.creates.map assignmentMap)),
    ("attach_binding", .ofText? r.attach)]

/-- A clause under a number as it was seen last. -/
def Clause.view (c : Clause) (number : Nat) : ObjectData Value :=
  match c with
  | pattern ⟨_, .foreign kind _, _, _, _, _⟩ => ⟨.clause number, kind, none, none, none⟩
  | c => modelObject (.clause number) c.kindName c.fields

end GraphQuery
