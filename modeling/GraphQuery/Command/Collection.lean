import GraphQuery.Command.Function
import GraphQuery.Value.Equality

/-! # Commands on lists and maps

A list or a map that is known by a name can be changed under it, and everything that holds it sees the
change.

* `list?` and `map?` give the command on a list or a map that a name stands for, and `tuple?` the one
  on a tuple.
* `becomes` puts what a list or a map has become in all of its places.
* `showsPart` is a look at the keys, the values or the entries of a map. -/

namespace GraphQuery.Command

/-- A command whose arguments have no names: between `least` and `most` of them. -/
def takesPlaces {α : Type} (least most : Nat) (step : List Value → α) : Operation α := fun a => do
  let values ← a.values
  if values.length < least ∨ most < values.length then Arguments.misfit else return step values

/-- A value becomes another one, and the command gives a result. -/
def becomes (v : Value) (result : Value) : Step := do
  discard (Workspace.renew [v])
  return .value result

/-- A place among members, as an integer. -/
def needPlace (v : Value) : Result Int :=
  match v.place? with
  | some n => .ok n
  | none => .error (.wrongType ("'" ++ v.typeName ++ "' object cannot be interpreted as an integer"))

/-- A place at which something can be put in, or a search can begin or end: one beyond an end is that
end. -/
def clampedPlace (size : Nat) (number : Int) : Nat :=
  (min (if number < 0 then number + size else number) size).toNat

/-- A failure that concerns a value that is not there. -/
def isMissing {α : Type} (kind : String) : Result α := .error (.failure (.value ("x not in " ++ kind)))

/-- The place of the first member that agrees with a value, from one place up to another. -/
def placeIn? (x : Value) (xs : List Value) (start stop : Nat) : Option Nat :=
  (((xs.take stop).drop start).findIdx? fun y => x.same y).map (· + start)

/-- A search for the place of a member, between two places if they are given. -/
def findsPlace (kind : String) (xs : List Value) : Option (Operation Step) :=
  some (takesPlaces 1 3 fun
    | x :: bounds => answer do
      let bounds ← bounds.mapM needPlace
      let start := ((bounds[0]?).map (clampedPlace xs.length)).getD 0
      let stop := ((bounds[1]?).map (clampedPlace xs.length)).getD xs.length
      match placeIn? x xs start stop with
      | some n => return .count n
      | none => isMissing kind
    | [] => answer Arguments.misfit)

/-- A count of the members that agree with a value. -/
def countsMembers (xs : List Value) : Option (Operation Step) :=
  some (takesPlaces 1 1 fun args =>
    return .count (xs.countP fun y => args.any fun x => x.same y))

/-- Takes a value into a sorted list, behind what is not above it. -/
def insertSorted (x : Value) : List Value → Result (List Value)
  | [] => .ok [x]
  | y :: ys =>
    match y.isAtMost? x with
    | some true => do return y :: (← insertSorted x ys)
    | some false => .ok (x :: y :: ys)
    | none => .error (.wrongType ("'<' not supported between instances of '" ++ x.typeName ++ "' and '" ++
        y.typeName ++ "'"))

/-- Values in their order. -/
def sortedValues (xs : List Value) : Result (List Value) :=
  xs.foldlM (fun sorted x => insertSorted x sorted) []

/-- A list without the member at a place, and that member. -/
def takeOut (xs : List Value) (number : Int) : Result (List Value × Value) :=
  match placeOf? xs.length number with
  | none => .error (.failure ⟨.outside, "pop index out of range"⟩)
  | some place => .ok (xs.eraseIdx place, (xs[place]?).getD .null)

/-- The command on a list that a name stands for. -/
def list? (xs : List Value) (mark : Option Nat) : String → Option (Operation Step)
  | "append" => some (takesPlaces 1 1 fun args => becomes (.list (xs ++ args) mark) .null)
  | "extend" => some (takesPlaces 1 1 fun args => do
    let more ← args.mapM fun v => do
      Exec.ofResult (Result.ofFailure (← Workspace.useUp v).members)
    becomes (.list (xs ++ more.flatten) mark) .null)
  | "insert" => some (takesPlaces 2 2 fun
    | number :: more => do
      let place := clampedPlace xs.length (← Exec.ofResult (needPlace number))
      becomes (.list (xs.take place ++ more ++ xs.drop place) mark) .null
    | [] => answer Arguments.misfit)
  | "pop" => some (takesPlaces 0 1 fun args => do
    let number ← Exec.ofResult (needPlace ((args[0]?).getD (.int (-1))))
    let (rest, x) ← Exec.ofResult (takeOut xs number)
    becomes (.list rest mark) x)
  | "remove" => some (takesPlaces 1 1 fun args =>
    match xs.findIdx? fun y => args.any fun x => x.same y with
    | some place => becomes (.list (xs.eraseIdx place) mark) .null
    | none => answer (isMissing "list"))
  | "clear" => some (takesNothing (becomes (.list [] mark) .null))
  | "reverse" => some (takesNothing (becomes (.list xs.reverse mark) .null))
  | "sort" => some fun a =>
    if !a.positional.isEmpty then Arguments.misfit
    else takes ["key", "reverse"] 0 (fun f => do
      let sorted ← Exec.ofResult (sortedValues (if f.isTrue 1 false then xs.reverse else xs))
      becomes (.list (if f.isTrue 1 false then sorted.reverse else sorted) mark) .null) a
  | "copy" => some (takesNothing do return .value (.ofList xs))
  | "index" => findsPlace "list" xs
  | "count" => countsMembers xs
  | _ => none

/-- The command on a tuple that a name stands for. -/
def tuple? (xs : List Value) : String → Option (Operation Step)
  | "index" => findsPlace "tuple" xs
  | "count" => countsMembers xs
  | _ => none

/-- A look at a part of a map, which is known by its kind. -/
def showsPart (kind : String) (xs : List Value) : Option (Operation Step) :=
  let text := kind ++ "(" ++ (Value.ofList xs).literal ++ ")"
  some (takesNothing do return .value (.object ⟨.loose, kind, some xs, some xs.length, some text⟩))

/-- The command that looks at a map, or at something with entries, that a name stands for. -/
def lookingAt? (entries : Row) : String → Option (Operation Step)
  | "keys" => showsPart "dict_keys" (entries.map (·.1))
  | "values" => showsPart "dict_values" (entries.map (·.2))
  | "items" => showsPart "dict_items" (entries.map fun e => .tuple [e.1, e.2])
  | _ => none

/-- What a map has under the key that comes first among arguments, and what stands for it if there is
nothing. -/
def underKey (entries : Row) (args : List Value) : Result (Option Value × Option Value) := do
  let key := args.headD .null
  Result.ofFailure key.needKey
  return (entryAt? key entries, args[1]?)

/-- The entries that a map is given: those of a map or of pairs, and named ones. -/
def givenEntries (a : Arguments) : Exec Workspace Row := do
  let given ← match a.positional[0]? with
    | some v => do Exec.ofResult (Result.ofFailure (← Workspace.useUp v).toEntries)
    | none => pure []
  return given ++ namedEntries a.named

/-- The command on a map that a name stands for. -/
def map? (entries : Row) (mark : Option Nat) : String → Option (Operation Step)
  | "get" => some (takesPlaces 1 2 fun args => answer do
    let (found, absent) ← underKey entries args
    return .value (found.or absent |>.getD .null))
  | "pop" => some (takesPlaces 1 2 fun args => do
    match ← Exec.ofResult (underKey entries args) with
    | (some x, _) =>
      becomes (.map (entries.filter fun e => !(args.headD .null).same e.1) mark) x
    | (none, some absent) => return .value absent
    | (none, none) => Exec.fail (.failure ⟨.noKey, (args.headD .null).literal⟩))
  | "setdefault" => some (takesPlaces 1 2 fun args => do
    match ← Exec.ofResult (underKey entries args) with
    | (some x, _) => return .value x
    | (none, absent) => do
      let x ← Workspace.keep (absent.getD .null)
      becomes (.map (putEntry (args.headD .null) x entries) mark) x)
  | "popitem" => some (takesNothing
    (match entries.getLast? with
    | some e => becomes (.map entries.dropLast mark) (.tuple [e.1, e.2])
    | none => Exec.fail (.failure ⟨.noKey, "'popitem(): dictionary is empty'"⟩)))
  | "update" => some fun a =>
    if 1 < a.positional.length then Arguments.misfit
    else .ok do
      let given ← givenEntries a
      becomes (.map (given.foldl (fun t e => putEntry e.1 e.2 t) entries) mark) .null
  | "clear" => some (takesNothing (becomes (.map [] mark) .null))
  | "copy" => some (takesNothing do return .value (.ofPairs entries))
  | name => lookingAt? entries name

/-- The command on the properties of something that the driver handed out. -/
def driverMap? (properties : Properties) : String → Option (Operation Step)
  | "get" => some (takes ["name", "default"] 1 fun f => answer do
    return .value ((entryAt? (← f.key 0) (namedEntries properties)).getD (f.value 1)))
  | name => lookingAt? (namedEntries properties) name

/-- The command on a list, a tuple, a map or a driver value that a name stands for. -/
def collection? : Value → String → Option (Operation Step)
  | .list xs mark, name => list? xs mark name
  | .tuple xs, name => tuple? xs name
  | .map es mark, name => map? es mark name
  | .node n, name => driverMap? n.properties name
  | .link l, name => driverMap? l.properties name
  | .series xs, "to_list" => some (takesNothing do return .value (.ofList xs))
  | _, _ => none

end GraphQuery.Command
