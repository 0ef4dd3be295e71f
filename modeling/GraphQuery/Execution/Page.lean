import GraphQuery.Execution.Aggregate
import GraphQuery.Execution.LiveQuery

/-! # Pages

* `LiveQuery.total` counts what the query matches, without order, paging and projection.
* `LiveQuery.paginate` fetches one `Page` of the results.
* `Page.lastPage` is the number of the last page, which is one even without results. -/

namespace GraphQuery

open GraphQuery.Number GraphQuery.Schema GraphQuery.Value
open GraphQuery.Cypher (star)

/-- A page of results. Its fields can be assigned anything later on. -/
structure Page where
  items : Value
  total : Value
  perPage : Value
  currentPage : Value

/-- The least integer that is not below a double. -/
def Number.Double.ceiling (x : Double) : Int := -((-x.ratio.1).fdiv x.ratio.2)

/-- An integer from `least` on. -/
def readFrom (least : Int) (v : Value) : Checked Int := do
  let n ← readInteger v
  if n < least then .fail .belowLeast else .ok n

/-- A number for the arithmetic of pages. -/
def needNumeral (v : Value) : Result Numeral :=
  match v.numeral? with
  | some n => .ok n
  | none => .error (.wrongType "unsupported operand types")

/-- The quotient of two numbers as a double, an infinite one without its sign. -/
def quotient (a b : Numeral) : Result Double := do
  let zero : Failure := ⟨.zeroDivision, "division by zero"⟩
  match a, b with
  | .exact n, .exact d =>
    if d = 0 then .error (.failure zero)
    else
      let x := Double.ofIntRatio (if d < 0 then -n else n) d.natAbs
      if x.isFinite then return x
      else .error (.failure ⟨.overflow, "integer division result too large for a float"⟩)
  | a, b => do
    let x ← Result.ofFailure a.asDouble
    let y ← Result.ofFailure b.asDouble
    if y.isZero then .error (.failure zero)
    else if x.isFinite && y.isFinite then
      let n := x.ratio.1 * y.ratio.2
      return Double.ofIntRatio (if y.ratio.1 < 0 then -n else n) (x.ratio.2 * y.ratio.1.natAbs)
    else if x.isFinite && y.isInfinite then return .zero
    else if x.isInfinite && y.isFinite then return .infinity
    else return .nan

namespace Page

/-- Checks the numbers of a page. -/
def make (items : List Value) (total : Int) (perPage currentPage : Value) : Checked Page :=
  let total := Checked.inside "total" (readFrom 0 (.int total))
  let perPage := Checked.inside "per_page" (readFrom 1 perPage)
  let currentPage := Checked.inside "current_page" (readFrom 1 currentPage)
  ((total.and perPage).and currentPage).map fun p =>
    ⟨.ofList items, .int p.1.1, .int p.1.2, .int p.2⟩

/-- The number of the last page. The quotient is rounded to a double first. -/
def lastPage (p : Page) : Result Int := do
  let x ← quotient (← needNumeral p.total) (← needNumeral p.perPage)
  if x.isFinite then return max 1 x.ceiling
  else if x.isNaN then .error (.failure (.value "cannot convert float NaN to integer"))
  else .error (.failure ⟨.overflow, "cannot convert float infinity to integer"⟩)

/-- Whether pages follow this one. -/
def hasMore (p : Page) : Result Bool := do
  let last ← p.lastPage
  return (← needNumeral p.currentPage).isBelow last

/-- The fields of a page by name. -/
def fields (p : Page) : Properties :=
  [("items", p.items), ("total", p.total), ("per_page", p.perPage), ("current_page", p.currentPage)]

/-- What can be read of a page by name. -/
def attribute? (p : Page) (name : String) : Result (Option Value) :=
  match name with
  | "last_page" => do return some (.int (← p.lastPage))
  | "has_more_pages" => do return some (.bool (← p.hasMore))
  | _ => .ok (lookup? name p.fields)

/-- Assigns a field of a page; it is not checked. -/
def assign (p : Page) (name : String) (v : Value) : Result Page :=
  match name with
  | "items" => .ok { p with items := v }
  | "total" => .ok { p with total := v }
  | "per_page" => .ok { p with perPage := v }
  | "current_page" => .ok { p with currentPage := v }
  | "last_page" | "has_more_pages" => .error (.noAttribute (.handle "Page") name)
  | _ => .error (.failure (.value ("\"Page\" object has no field \"" ++ name ++ "\"")))

end Page

namespace LiveQuery

/-- The query without order, paging and projection. -/
def bareQuery (q : Query) : Query :=
  { q.withStandIn .sortKeys none with
    sortKeys := [], limit := .null, offset := .null, columns := .null }

/-- The query with the order, paging and projection of another one. -/
def reshape (like q : Query) : Query :=
  { q.withStandIn .sortKeys (like.standIn? .sortKeys) with
    sortKeys := like.sortKeys, limit := like.limit, offset := like.offset, columns := like.columns }

/-- The number that a count says: the number of groups, or what the first row holds. -/
def totalOf (isGrouped : Bool) (rows : List Row) : Result Int :=
  if isGrouped then .ok rows.length
  else match rows with
    | [] => .ok 0
    | row :: _ => Result.ofFailure (aggregateCell row).countOrZero

/-- The bindings that belong to order and projection. -/
def shapeBuckets : List Bucket := [.ordering, .projection]

/-- Takes the bindings of order and projection out, and gives what they were. -/
def takeShape : Exec LiveQuery Snapshot := do
  build (Build.ask .bindings "backup")
  let t := (← get).builder.table
  build (modify fun b => { b with table := shapeBuckets.foldl (·.clear ·) b.table })
  return shapeBuckets.map fun b => (b, t.bucket b)

/-- Counts what the query matches. Order, paging and projection are left out for it. -/
def total (columns : Value) : Exec LiveQuery Int := do
  let before := (← get).query
  let kept ← takeShape
  change bareQuery
  let given ← Exec.ofResult (Result.ofFailure (← useUp columns).members)
  let rows ← selectAggregate ⟨"count", flatColumns given, "aggregate", none⟩ (do
    change (reshape before)
    build (modify fun b => { b with table := b.table.restore kept }))
  Exec.ofResult (totalOf before.hasGroups rows)

/-- Fetches a page. Without any results only the count runs. -/
def paginate (perPage number columns : Value) : Exec LiveQuery Page := do
  let total ← total (.tuple [star])
  let items ←
    if total = 0 then pure []
    else do
      build (Build.page number perPage)
      fetch columns
  Exec.ofResult (Result.ofChecked (Page.make items total perPage number))

end LiveQuery

end GraphQuery
