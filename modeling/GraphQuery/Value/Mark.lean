import GraphQuery.Value.Literal

/-! # Marks

Two records with the same content can be different things: one of them may change while the other does
not. A *mark* tells them apart, and so it does for lists, maps and streams.

* `Value.marked` marks everything inside a value that can change and has no mark yet, and
  `Value.detached` marks all of it anew.
* `Value.renewed` puts what a marked value has become in all of its places. -/

namespace GraphQuery

/-- The mark of a value that can change. -/
def Value.mark? : Value → Option Nat
  | .list _ mark => mark
  | .stream _ mark => mark
  | .map _ mark => mark
  | .record r => r.mark
  | .edge e => e.mark
  | .entity e => e.mark
  | _ => none

/-- A mark that is given out unless there is one already. -/
def nextMark : Option Nat → StateM Nat (Option Nat)
  | some mark => pure (some mark)
  | none => do
    let mark ← get
    set (mark + 1)
    return some mark

/-- A mark of its own, whatever there was before. -/
def otherMark (_ : Option Nat) : StateM Nat (Option Nat) := nextMark none

mutual
/-- A value in which everything that can change gets another mark. The state is the next free
mark. -/
def Value.markedBy (next : Option Nat → StateM Nat (Option Nat)) : Value → StateM Nat Value
  | .list xs mark => return .list (← markedAll next xs) (← next mark)
  | .tuple xs => return .tuple (← markedAll next xs)
  | .set xs => return .set (← markedAll next xs)
  | .stream xs mark => return .stream (← markedAll next xs) (← next mark)
  | .series xs => return .series (← markedAll next xs)
  | .map es mark => return .map (← markedEntries next es) (← next mark)
  | .record r => return .record (← markedRecord next r)
  | .edge e => return .edge (← markedEdge next e)
  | .entity e => return .entity (← markedEntity next e)
  | v => pure v
/-- Values with other marks. -/
def markedAll (next : Option Nat → StateM Nat (Option Nat)) : List Value → StateM Nat (List Value)
  | [] => pure []
  | v :: vs => return (← v.markedBy next) :: (← markedAll next vs)
/-- Entries of a map with other marks. -/
def markedEntries (next : Option Nat → StateM Nat (Option Nat)) :
    List (Value × Value) → StateM Nat (List (Value × Value))
  | [] => pure []
  | (k, v) :: es => return (k, ← v.markedBy next) :: (← markedEntries next es)
/-- Named values with other marks. -/
def markedProperties (next : Option Nat → StateM Nat (Option Nat)) :
    List (String × Value) → StateM Nat (List (String × Value))
  | [] => pure []
  | (k, v) :: es => return (k, ← v.markedBy next) :: (← markedProperties next es)
/-- A record with other marks. -/
def markedRecord (next : Option Nat → StateM Nat (Option Nat)) :
    RecordData Value → StateM Nat (RecordData Value)
  | ⟨id, labels, properties, relations, relationsMark, mark, given⟩ =>
    return ⟨id, labels, ← markedProperties next properties, ← markedEntries next relations,
      ← next relationsMark, ← next mark, given⟩
/-- An edge with other marks. -/
def markedEdge (next : Option Nat → StateM Nat (Option Nat)) :
    EdgeData Value → StateM Nat (EdgeData Value)
  | ⟨id, start, stop, type, properties, mark, given⟩ =>
    return ⟨id, start, stop, type, ← markedProperties next properties, ← next mark, given⟩
/-- An entity with other marks. -/
def markedEntity (next : Option Nat → StateM Nat (Option Nat)) :
    EntityData Value → StateM Nat (EntityData Value)
  | ⟨c, name, id, fields, extras, relations, relationsMark, mark, given⟩ =>
    return ⟨c, name, id, ← markedProperties next fields, ← markedProperties next extras,
      ← markedEntries next relations, ← next relationsMark, ← next mark, given⟩
end

/-- A value with a mark on everything in it that can change and has none. -/
def Value.marked (v : Value) : StateM Nat Value := v.markedBy nextMark

/-- A value of which nothing is known elsewhere. -/
def Value.detached (v : Value) : StateM Nat Value := v.markedBy otherMark

/-- What marked values have become, under their marks. -/
abbrev News := Nat → Option Value

/-- What the relations with a mark have become. -/
def News.relations? (news : News) (mark : Option Nat) : Option (List (Value × Value)) :=
  (mark.bind news).bind Value.entries?

mutual
/-- A value in which everything marked has become what the news say. -/
def Value.renewed (news : News) : Value → Value
  | .list xs mark => (mark.bind news).getD (.list (renewedAll news xs) mark)
  | .tuple xs => .tuple (renewedAll news xs)
  | .set xs => .set (renewedAll news xs)
  | .stream xs mark => (mark.bind news).getD (.stream (renewedAll news xs) mark)
  | .series xs => .series (renewedAll news xs)
  | .map es mark => (mark.bind news).getD (.map (renewedEntries news es) mark)
  | .record r => (r.mark.bind news).getD (.record (renewedRecord news r))
  | .edge e => (e.mark.bind news).getD (.edge (renewedEdge news e))
  | .entity e => (e.mark.bind news).getD (.entity (renewedEntity news e))
  | v => v
/-- Values in which everything marked is new. -/
def renewedAll (news : News) : List Value → List Value
  | [] => []
  | v :: vs => v.renewed news :: renewedAll news vs
/-- Entries of a map in which everything marked is new. -/
def renewedEntries (news : News) : List (Value × Value) → List (Value × Value)
  | [] => []
  | (k, v) :: es => (k, v.renewed news) :: renewedEntries news es
/-- Named values in which everything marked is new. -/
def renewedProperties (news : News) : List (String × Value) → List (String × Value)
  | [] => []
  | (k, v) :: es => (k, v.renewed news) :: renewedProperties news es
/-- A record whose parts are new. -/
def renewedRecord (news : News) : RecordData Value → RecordData Value
  | ⟨id, labels, properties, relations, relationsMark, mark, given⟩ =>
    ⟨id, labels, renewedProperties news properties,
      (news.relations? relationsMark).getD (renewedEntries news relations), relationsMark, mark, given⟩
/-- An edge whose parts are new. -/
def renewedEdge (news : News) : EdgeData Value → EdgeData Value
  | ⟨id, start, stop, type, properties, mark, given⟩ =>
    ⟨id, start, stop, type, renewedProperties news properties, mark, given⟩
/-- An entity whose parts are new. -/
def renewedEntity (news : News) : EntityData Value → EntityData Value
  | ⟨c, name, id, fields, extras, relations, relationsMark, mark, given⟩ =>
    ⟨c, name, id, renewedProperties news fields, renewedProperties news extras,
      (news.relations? relationsMark).getD (renewedEntries news relations), relationsMark, mark, given⟩
end

/-- The news without what is said about a mark. -/
def News.without (news : News) (mark : Option Nat) : News :=
  fun m => if some m = mark then none else news m

/-- A value whose parts have become what the news say, and which stays itself. -/
def Value.renewedInside (news : News) : Value → Value
  | .list xs mark => .list (renewedAll news xs) mark
  | .stream xs mark => .stream (renewedAll news xs) mark
  | .map es mark => .map (renewedEntries news es) mark
  | .record r => .record (renewedRecord (news.without r.relationsMark) r)
  | .edge e => .edge (renewedEdge news e)
  | .entity e => .entity (renewedEntity (news.without e.relationsMark) e)
  | v => v.renewed news

/-- The map of relations that a value holds. -/
def Value.relations? : Value → Option Value
  | .record r => some (.map r.relations r.relationsMark)
  | .entity e => some (.map e.relations e.relationsMark)
  | _ => none

namespace News

/-- The news of some values. -/
def of (values : List Value) : News := fun mark => values.find? fun v => v.mark? == some mark

/-- Values with the maps of relations that they hold. -/
def withRelations (values : List Value) : List Value :=
  values.flatMap fun v => v :: v.relations?.toList

/-- Values that have changed together, of which one can stand in another: at each pass the changes
reach one level further. -/
def settled : (passes : Nat) → List Value → List Value
  | 0, values => values
  | passes + 1, values => settled passes (values.map (Value.renewedInside (of (withRelations values))))

/-- The news of values that have changed together. -/
def ofAll (values : List Value) : News := of (withRelations (settled values.length values))

end News

/-! ### Streams that are gone through -/

/-- What is left of some marked streams. -/
abbrev Remains := List (Nat × List Value)

namespace Remains

/-- What is left of a stream. -/
def of (remains : Remains) (members : List Value) (mark : Option Nat) : List Value :=
  ((mark.bind fun m => remains.find? (·.1 = m)).map (·.2)).getD members

/-- Notes what is left of a stream. -/
def leave (remains : Remains) (mark : Option Nat) (rest : List Value) : Remains :=
  match mark with
  | some m => (m, rest) :: remains.filter (·.1 ≠ m)
  | none => remains

/-- A value that is gone through to its end. Of a stream nothing is left then. -/
def useUp (remains : Remains) : Value → Value × Remains
  | .stream xs mark => (.stream (remains.of xs mark) none, remains.leave mark [])
  | v => (v, remains)

/-- The streams with what is left of them. -/
def values (remains : Remains) : List Value := remains.map fun r => .stream r.2 (some r.1)

end Remains

end GraphQuery
