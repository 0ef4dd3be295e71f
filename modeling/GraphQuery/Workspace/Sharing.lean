import GraphQuery.Workspace

/-! # Things that are known in several places

A value that can change is copied wherever it is stored, and its mark tells which copies are one and
the same thing.

* `Workspace.traverse` goes through all values of a workspace.
* `Workspace.renew` puts what marked values have become in all of their places.
* `Workspace.readList` and `Workspace.assignList` give out and take in the lists of a builder. Such a
  list is shared from then on: what the builder adds to it is seen wherever it is known.
* `Workspace.tidy` brings all copies up to date after a step, and marks what is new. -/

namespace GraphQuery

namespace Workspace

/-! ### All values of a workspace -/

section

variable {m : Type → Type} [Monad m]

/-- Goes through the values of a row. -/
def traverseRow (f : Value → m Value) (row : Row) : m Row :=
  row.mapM fun e => return (e.1, ← f e.2)

/-- Goes through named values. -/
def traverseProperties (f : Value → m Value) (properties : Properties) : m Properties :=
  properties.mapM fun p => return (p.1, ← f p.2)

/-- Goes through the values of a table. -/
def traverseTable (f : Value → m Value) (t : BindingTable) : m BindingTable :=
  return ⟨← traverseRow f t.patterns, ← traverseRow f t.projections, ← traverseRow f t.filters,
    ← traverseRow f t.havings, ← traverseRow f t.orderings⟩

/-- Goes through a member that is no clause. -/
def traverseMember {α : Type} (f : Value → m Value) : Member α → m (Member α)
  | .clause c => return .clause c
  | .foreign v => return .foreign (← f v)

/-- Goes through the values in a query. -/
def traverseQuery (f : Value → m Value) (q : Query) : m Query :=
  return { q with
    labels := ← f q.labels
    entity := ← f q.entity
    patterns := ← q.patterns.mapM (traverseMember f)
    wheres := ← q.wheres.mapM predicate
    stages := ← q.stages.mapM f
    columns := ← f q.columns
    groups := ← q.groups.mapM f
    havings := ← q.havings.mapM (traverseMember f)
    sortKeys := ← q.sortKeys.mapM sortKey
    limit := ← f q.limit
    offset := ← f q.offset
    isDistinct := ← f q.isDistinct
    standIns := ← q.standIns.mapM fun s => return (s.1, ← f s.2) }
where
  predicate : Predicate → m Predicate
    | .foreign v => return .foreign (← f v)
    | p => return p
  sortKey : Member SortKey → m (Member SortKey)
    | .clause k => return .clause { k with column := ← f k.column }
    | .foreign v => return .foreign (← f v)

/-- Goes through the values of a builder. -/
def traverseBuilder (f : Value → m Value) (slot : BuilderSlot) : m BuilderSlot :=
  return { slot with
    query := ← traverseQuery f slot.query
    shared := ← slot.shared.mapM fun s =>
      return (s.1, { s.2 with members := ← s.2.members.mapM f }) }

/-- Goes through the values of an engine. -/
def traverseEngine (f : Value → m Value) (e : Engine) : m Engine :=
  return { e with
    uri := ← f e.uri
    auth := ← f e.auth
    database := ← f e.database
    driverConfig := ← traverseRow f e.driverConfig
    driver := ← e.driver.mapM driver
    isConnected := ← f e.isConnected }
where
  driver : DriverRef → m DriverRef
    | .foreign v => return .foreign (← f v)
    | d => return d

/-- Goes through the values of a connection. -/
def traverseConnection (f : Value → m Value) (slot : ConnectionSlot) : m ConnectionSlot :=
  return { slot with
    connection := { slot.connection with
      client := ← slot.connection.client.mapM client
      transaction := ← slot.connection.transaction.mapM client
      level := ← f slot.connection.level
      isPretending := ← f slot.connection.isPretending
      logsQueries := ← f slot.connection.logsQueries
      queryLog := ← f slot.connection.queryLog
      reconnector := ← slot.connection.reconnector.mapM f
      instead := ← traverseProperties f slot.connection.instead } }
where
  client : Client → m Client
    | .foreign v => return .foreign (← f v)
    | c => return c

/-- Goes through the values of a clause that can be changed. -/
def traverseClause (f : Value → m Value) (slot : ClauseSlot) : m ClauseSlot :=
  match slot.clause with
  | .related r =>
    return { slot with
      clause := .related ⟨← f r.labels, ← f r.relationship, ← f r.direction, ← f r.values,
        ← f r.ids⟩ }
  | _ => return slot

/-- Goes through the values of a page. -/
def traversePage (f : Value → m Value) (p : Page) : m Page :=
  return ⟨← f p.items, ← f p.total, ← f p.perPage, ← f p.currentPage⟩

/-- Goes through the rows that the server is going to give. -/
def traverseServer (f : Value → m Value) (s : Server) : m Server :=
  return { s with script := ← s.script.mapM fun p => return (p.1, ← p.2.mapM response) }
where
  response : Response → m Response
    | .rows rows => return .rows (← rows.mapM (traverseRow f))
    | r => return r

/-- Goes through all values of a workspace. -/
def traverse (f : Value → m Value) (w : Workspace) : m Workspace :=
  return { w with
    server := ← traverseServer f w.server
    tables := ← w.tables.mapM (traverseTable f)
    builders := ← w.builders.mapM (traverseBuilder f)
    engines := ← w.engines.mapM (traverseEngine f)
    connections := ← w.connections.mapM (traverseConnection f)
    pages := ← w.pages.mapM (traversePage f)
    clauses := ← w.clauses.mapM (traverseClause f)
    grammars := ← w.grammars.mapM f
    named := ← traverseProperties f w.named
    notes := ← w.notes.mapM fun n => return (n.1, ← f n.2) }

end

/-! ### Clauses as values -/

/-- Shelves a clause that was taken from a builder. What is no clause stays as it is. -/
def shelve (builder : Option Nat) (c : Clause) : Exec Workspace Value := do
  match c with
  | .predicate (.foreign v) | .branch ⟨.foreign v, _⟩ => return v
  | c => do
    let n ← addClause c builder
    return (← get).object (.clause n)

/-- Shelves a member of a list of clauses. -/
def shelveMember {α : Type} (builder : Option Nat) (make : α → Clause) :
    Member α → Exec Workspace Value
  | .clause c => shelve builder (make c)
  | .foreign v => pure v

/-- A value as a predicate; what is none has no text. -/
def predicateOf (w : Workspace) (v : Value) : Predicate :=
  match w.clauseOf? v with
  | some (.predicate p) => p
  | _ => .foreign v

/-- A value as a pattern. -/
def patternOf (w : Workspace) (v : Value) : Member Pattern :=
  match w.clauseOf? v with
  | some (.pattern p) => .clause p
  | _ => .foreign v

/-- A value as a condition on groups. A comparison has all that such a condition needs. -/
def havingOf (w : Workspace) (v : Value) : Member Having :=
  match w.clauseOf? v with
  | some (.having h) => .clause h
  | some (.predicate (.compared j c operator binding)) =>
    .clause ⟨(Value.column c).plainText, operator, binding, j⟩
  | _ => .foreign v

/-- A value as a sort key. -/
def sortKeyOf (w : Workspace) (v : Value) : Member SortKey :=
  match w.clauseOf? v with
  | some (.sortKey k) => .clause k
  | _ => .foreign v

/-- A value as a branch. -/
def branchOf (w : Workspace) (v : Value) : Branch :=
  match w.clauseOf? v with
  | some (.branch b) => b
  | _ => ⟨.foreign v, false⟩

/-! ### The lists of a builder -/

/-- The members of a list of a builder, from one of them on. -/
def membersFrom (n : Nat) (part : QueryPart) (start : Nat) : Exec Workspace (List Value) := do
  let q := (← get).query n
  match part with
  | .patterns => (q.patterns.drop start).mapM (shelveMember n .pattern)
  | .wheres => (q.wheres.drop start).mapM fun p => shelve n (.predicate p)
  | .stages => return q.stages.drop start
  | .groups => return q.groups.drop start
  | .havings => (q.havings.drop start).mapM (shelveMember n .having)
  | .sortKeys => (q.sortKeys.drop start).mapM (shelveMember n .sortKey)
  | .branches => (q.branches.drop start).mapM fun b => shelve n (.branch b)
  | _ => return []

/-- How many members a list of a query has. -/
def sizeOf (q : Query) : QueryPart → Nat
  | .patterns => q.patterns.length
  | .wheres => q.wheres.length
  | .stages => q.stages.length
  | .groups => q.groups.length
  | .havings => q.havings.length
  | .sortKeys => q.sortKeys.length
  | .branches => q.branches.length
  | _ => 0

/-- A query with other members in one of its lists. -/
def withMembers (w : Workspace) (part : QueryPart) (xs : List Value) (q : Query) : Query :=
  match part with
  | .patterns => { q with patterns := xs.map w.patternOf }
  | .wheres => { q with wheres := xs.map w.predicateOf }
  | .stages => { q with stages := xs }
  | .groups => { q with groups := xs }
  | .havings => { q with havings := xs.map w.havingOf }
  | .sortKeys => { q with sortKeys := xs.map w.sortKeyOf }
  | .branches => { q with branches := xs.map w.branchOf }
  | _ => q

/-- Changes the place of a builder. -/
def onSlot (n : Nat) (f : BuilderSlot → BuilderSlot) : Exec Workspace Unit :=
  modify fun w => { w with builders := w.builders.set n (f (w.slot n)) }

/-- A list of a builder that is known elsewhere. -/
def BuilderSlot.shared? (slot : BuilderSlot) (part : QueryPart) : Option SharedList :=
  (slot.shared.find? fun s => s.1 = part).map (·.2)

/-- The place of a builder with a list that is known elsewhere, or with one that is not. -/
def BuilderSlot.share (slot : BuilderSlot) (part : QueryPart) (list : Option SharedList) :
    BuilderSlot :=
  { slot with shared :=
      list.toList.map (fun l => (part, l)) ++ slot.shared.filter fun s => s.1 ≠ part }

/-- Puts other members into a list of a builder that is shared. -/
def relist (n : Nat) (part : QueryPart) (list : SharedList) : Exec Workspace Unit := do
  let w ← get
  onSlot n fun slot =>
    BuilderSlot.share
      { slot with query := (withMembers w part list.members slot.query).withStandIn part none } part
      (some list)

/-- A mark that has not been given out. -/
def freshMark : Exec Workspace Nat := do
  let w ← get
  set { w with marks := w.marks + 1 }
  return w.marks

/-- A list of a builder, or what stands for it. It is known outside from then on. -/
def readList (n : Nat) (part : QueryPart) : Exec Workspace Value := do
  let slot := (← get).slot n
  match slot.query.standIn? part, BuilderSlot.shared? slot part with
  | some v, _ => return v
  | none, some list => return .list list.members (some list.mark)
  | none, none => do
    let members ← membersFrom n part 0
    let mark ← freshMark
    onSlot n fun slot => BuilderSlot.share slot part (some ⟨mark, members⟩)
    return .list members (some mark)

/-- Puts a value in the place of a list of a builder. Anything but a list only stands for one. -/
def assignList (n : Nat) (part : QueryPart) (v : Value) : Exec Workspace Unit := do
  match v with
  | .list members mark => do
    let mark ← mark.elim freshMark pure
    relist n part ⟨mark, members⟩
  | v => do
    let w ← get
    onSlot n fun slot =>
      BuilderSlot.share
        { slot with
          query := (withMembers w part (v.members?.getD []) slot.query).withStandIn part (some v) }
        part none

/-! ### Changes -/

/-- Puts what has become of the lists of a builder into it. -/
def relistFrom (news : News) (n : Nat) : Exec Workspace Unit := do
  ((← get).slot n).shared.forM fun s =>
    match news s.2.mark with
    | some (.list members _) => relist n s.1 ⟨s.2.mark, members⟩
    | _ => pure ()

/-- Puts what marked values have become in all of their places, and gives what that makes of a
value. -/
def renew (values : List Value) : Exec Workspace (Value → Value) := do
  let values ← values.mapM keep
  let news := News.ofAll values
  modify fun w => Id.run (traverse (m := Id) (Value.renewed news) w)
  (List.range (← get).builders.length).forM (relistFrom news)
  return Value.renewed news

/-- The lists of a builder that it has added to since they were seen last. -/
def grownLists (n : Nat) : Exec Workspace (List Value) := do
  let w ← get
  let slot := w.slot n
  let grown := slot.shared.filter fun s => s.2.members.length < sizeOf slot.query s.1
  grown.mapM fun s => do
    return .list (s.2.members ++ (← membersFrom n s.1 s.2.members.length)) (some s.2.mark)

/-- The longest of the lists with one mark, for each mark. -/
def longest (lists : List Value) : List Value :=
  lists.foldl
    (fun kept v =>
      match kept.find? fun u => u.mark? == v.mark? with
      | none => kept ++ [v]
      | some u =>
        if u.size?.getD 0 < v.size?.getD 0 then kept.map fun t => if t.mark? == v.mark? then v else t
        else kept) []

/-- The query logs that are known by a mark. -/
def logs (w : Workspace) : List Value :=
  (w.connections.map (·.connection.queryLog)).filter (·.mark?.isSome)

/-- Brings all copies of what can change up to date, and marks what is new. -/
def tidy : Exec Workspace Unit := do
  let w ← get
  let grown := (← (List.range w.builders.length).mapM grownLists).flatten
  let changed := longest (grown ++ w.logs) ++ w.used.values
  if !changed.isEmpty then discard (renew changed)
  modify fun w =>
    let (w, marks) := (traverse (m := StateM Nat) Value.marked w).run w.marks
    { w with marks, used := [] }

/-- A value after all copies have been brought up to date, itself among them. -/
def tidied (v : Value) : Exec Workspace Value := do
  modify fun w => { w with named := ("", v) :: w.named }
  tidy
  let w ← get
  match w.named with
  | (_, v) :: named => do
    set { w with named }
    return v
  | [] => return v

end Workspace

end GraphQuery
