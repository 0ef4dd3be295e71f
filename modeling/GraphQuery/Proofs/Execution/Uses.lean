import GraphQuery.Execution.Creation
import GraphQuery.Execution.Page

/-! # Uses of a builder

A `Use` is one way of running statements for a builder, with its arguments. `Use.run` runs them and
gives the answer. -/

namespace GraphQuery

/-- What runs a statement for a builder. The other aggregates are `aggregate` by their names. -/
inductive Use where
  | fetch (columns : Value)
  | fetchFirst (columns : Value)
  | fetchById (id : Operand) (columns : Value)
  | fetchValue (column : Value)
  | fetchColumn (column : Value)
  | aggregate (function columns percentile : Value)
  | count (columns : Value)
  | countDistinct (columns : Value)
  | sum (column : Value)
  | collect (column : Value)
  | hasRows
  | total (columns : Value)
  | paginate (perPage number columns : Value)
  | insert (values : Value)
  | insertOne (values : Value)
  | update (values : Value)
  | delete (id : Operand)
  | relabel (labels operation : Value)
  | createWith (values related : Value)
  | createEntity (c : EntityClass) (e : Entity)
  | fetchEntity (c : EntityClass) (id : Operand)

namespace Use

/-- What a use is answered with. -/
abbrev Answer : Use → Type
  | fetch _ | fetchColumn _ => List Value
  | total _ | update _ | delete _ => Int
  | hasRows | relabel .. => Bool
  | paginate .. => Page
  | insert _ => Unit
  | createEntity .. => Entity
  | _ => Value

/-- Runs the statement, or the statements. -/
def run : (q : Use) → Exec LiveQuery q.Answer
  | fetch columns => LiveQuery.fetch columns
  | fetchFirst columns => LiveQuery.fetchFirst columns
  | fetchById id columns => LiveQuery.fetchById id columns
  | fetchValue column => LiveQuery.fetchValue column
  | fetchColumn column => LiveQuery.fetchColumn column
  | aggregate function columns percentile => LiveQuery.aggregate function columns percentile
  | count columns => LiveQuery.count columns
  | countDistinct columns => LiveQuery.countDistinct columns
  | sum column => LiveQuery.sum column
  | collect column => LiveQuery.collect column
  | hasRows => LiveQuery.hasRows
  | total columns => LiveQuery.total columns
  | paginate perPage number columns => LiveQuery.paginate perPage number columns
  | insert values => LiveQuery.insert values
  | insertOne values => LiveQuery.insertOne values
  | update values => LiveQuery.update values
  | delete id => LiveQuery.delete id
  | relabel labels operation => LiveQuery.relabel labels operation
  | createWith values related => LiveQuery.createWith values related
  | createEntity c e => LiveQuery.createEntity c e
  | fetchEntity c id => LiveQuery.fetchEntity c id

end Use

end GraphQuery
