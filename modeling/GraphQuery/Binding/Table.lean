import GraphQuery.Binding.Name
import GraphQuery.Exec
import GraphQuery.Value.Equality

/-! # Tables of bindings

A `BindingTable` holds the values of parameters under their names, in one `Bucket` for each kind of
clause that binds them.

* `add` stores under an exact name, `bind` under the first free name of a base.
* `freshName` is the first free name when a name is any value, not a text alone.
* `backup` and `restore` take the contents of buckets out and put them back.
* `absorb` moves the bindings of another table in and tells which of them had to be renamed.
* `flatten` is the one table of all parameters. -/

namespace GraphQuery

open GraphQuery.Binding

/-- The clause that a binding belongs to. -/
inductive Bucket where
  | pattern
  | projection
  | filter
  | having
  | ordering
deriving DecidableEq, Repr

namespace Bucket

/-- The buckets in their order. -/
def all : List Bucket := [pattern, projection, filter, having, ordering]

/-- The name of a bucket. -/
def name : Bucket → String
  | pattern => "matches"
  | projection => "select"
  | filter => "where"
  | having => "having"
  | ordering => "order"

/-- The bucket of that name. -/
def named (name : Value) : Result Bucket := do
  Result.ofFailure name.needKey
  match name.text?.bind fun s => all.find? (·.name == s) with
  | some b => .ok b
  | none => .error (.unknownBucket name)

/-- Every bucket is in the list of all of them. -/
theorem mem_all (b : Bucket) : b ∈ all := by cases b <;> decide

/-- A bucket is found under its name. -/
theorem named_name (b : Bucket) : named (.text b.name) = .ok b := by cases b <;> rfl

end Bucket

/-- The values of parameters by name, in one bucket for each kind of clause. Clauses bind under texts;
callers may store under any value that can be a key. -/
structure BindingTable where
  patterns : Row
  projections : Row
  filters : Row
  havings : Row
  orderings : Row
deriving Repr

/-- The contents of some buckets. -/
abbrev Snapshot := List (Bucket × Row)

namespace BindingTable

/-- A table without bindings. -/
def empty : BindingTable := ⟨[], [], [], [], []⟩

/-- The content of a bucket. -/
def bucket (t : BindingTable) : Bucket → Row
  | .pattern => t.patterns
  | .projection => t.projections
  | .filter => t.filters
  | .having => t.havings
  | .ordering => t.orderings

/-- The table with another content of a bucket. -/
def withBucket (t : BindingTable) (values : Row) : Bucket → BindingTable
  | .pattern => { t with patterns := values }
  | .projection => { t with projections := values }
  | .filter => { t with filters := values }
  | .having => { t with havings := values }
  | .ordering => { t with orderings := values }

/-- A bucket after it or another one got a new content. -/
@[simp] theorem bucket_withBucket (t : BindingTable) (values : Row) (b c : Bucket) :
    (t.withBucket values b).bucket c = if b = c then values else t.bucket c := by
  cases b <;> cases c <;> rfl

/-- Two tables with the same buckets are the same. -/
theorem ext_bucket {t u : BindingTable} (h : ∀ b, t.bucket b = u.bucket b) : t = u := by
  obtain ⟨a, b, c, d, e⟩ := t
  obtain ⟨a', b', c', d', e'⟩ := u
  have h₁ := h .pattern
  have h₂ := h .projection
  have h₃ := h .filter
  have h₄ := h .having
  have h₅ := h .ordering
  simp only [bucket] at h₁ h₂ h₃ h₄ h₅
  simp [h₁, h₂, h₃, h₄, h₅]

/-! ### Looking up -/

/-- All entries, bucket by bucket. -/
def entries (t : BindingTable) : Row := Bucket.all.flatMap t.bucket

/-- The names in the table, bucket by bucket. -/
def names (t : BindingTable) : List Value := t.entries.map (·.1)

/-- The names that are texts. -/
def textNames (t : BindingTable) : List String := t.names.filterMap (·.text?)

/-- Whether some bucket holds a name. -/
def contains (t : BindingTable) (name : Value) : Bool := name.isIn t.names

/-- The value in the first bucket that holds the name. -/
def get? (t : BindingTable) (name : Value) : Option Value := entryAt? name t.entries

/-- The number of entries in all buckets. -/
def size (t : BindingTable) : Nat := t.entries.length

/-- All parameters in one table; of a name in several buckets the last value counts. -/
def flatten (t : BindingTable) : Row := ofEntries t.entries

/-- The buckets that hold anything. -/
def filled (t : BindingTable) : List (Bucket × Row) :=
  (Bucket.all.map fun b => (b, t.bucket b)).filter fun p => !p.2.isEmpty

/-- The notation of a table inside messages. -/
def literal (t : BindingTable) : String :=
  "BindingTable(" ++ bracketed "\x7b" (t.filled.map fun p =>
    textLiteral p.1.name ++ ": " ++ Value.literal (.ofPairs p.2)) "\x7d" ++ ")"

/-! ### Storing -/

/-- Stores a value under an exact name. -/
def add (t : BindingTable) (name : Value) (v : Value) (b : Bucket) : BindingTable :=
  t.withBucket (putEntry name v (t.bucket b)) b

/-- The first name from a base that is neither in the table nor reserved. -/
def uniqueName (t : BindingTable) (base : String) (reserved : List String) : String :=
  firstFree (t.textNames ++ reserved) base

/-- The first name from a base that is neither in the table nor reserved, for a base of any kind.
Only the base itself may be no text. -/
def freshName (t : BindingTable) (base : Value) (reserved : List Value) : Value :=
  let taken := t.names ++ reserved
  if base.isIn taken then
    .text (freeFrom (taken.filterMap (·.text?)) base.plainText 1 taken.length)
  else base

/-- Whether a candidate is taken, and what is left of the reserved names after looking: a stream of
them can be gone through only once. -/
def isTaken (t : BindingTable) (reserved candidate : Value) : Result (Bool × Value) :=
  if t.contains candidate then .ok (true, reserved)
  else do
    return (← Result.ofFailure (reserved.holds candidate), reserved.afterSearch candidate)

/-- The first candidate from number `n` on that is not taken, after at most `tries` taken ones, and
what is left of the reserved names. -/
def freeBesides (t : BindingTable) (base : String) : (n tries : Nat) → (reserved : Value) →
    Result (Value × Value)
  | n, 0, reserved => .ok (.text (candidate base n), reserved)
  | n, tries + 1, reserved => do
    let name := candidate base n
    let (taken, left) ← t.isTaken reserved (.text name)
    if taken then freeBesides t base (n + 1) tries left else return (.text name, left)

/-- How many candidates a value can reserve. A text reserves every text inside it. -/
def reservedCount (reserved : Value) : Nat :=
  let size := (reserved.members?.map (·.length)).getD 0
  match reserved with
  | .text _ => size * size
  | _ => size

/-- The first name from a base that is neither in the table nor in a collection of reserved names, and
what is left of these. -/
def nameBesides (t : BindingTable) (base reserved : Value) : Result (Value × Value) := do
  Result.ofFailure base.needKey
  let (taken, left) ← t.isTaken reserved base
  if taken then t.freeBesides base.plainText 1 (t.size + reservedCount reserved + 1) left
  else return (base, left)

/-- Stores a value under the first free name from a base, and gives that name. -/
def bind (t : BindingTable) (base : String) (v : Value) (b : Bucket) : String × BindingTable :=
  let name := t.uniqueName base []
  (name, t.add (.text name) v b)

/-- Stores a whole new content of a bucket. -/
def replace (t : BindingTable) (b : Bucket) (values : Row) : BindingTable :=
  t.withBucket values b

/-- Empties a bucket. -/
def clear (t : BindingTable) (b : Bucket) : BindingTable := t.withBucket [] b

/-! ### Snapshots -/

/-- Keeps the content of a bucket under its name; a bucket that is kept twice has its place from the
first time and its content from the second. -/
def keep (b : Bucket) (values : Row) : Snapshot → Snapshot
  | [] => [(b, values)]
  | (c, old) :: rest => if c = b then (c, values) :: rest else (c, old) :: keep b values rest

/-- Takes the contents of the named buckets out, one after another. An unknown name stops this; the
buckets before it are empty then. -/
def backupInto : (names : List Value) → Snapshot → Exec BindingTable Snapshot
  | [], kept => pure kept
  | name :: rest, kept => do
    let b ← Exec.ofResult (Bucket.named name)
    let t ← get
    set (t.clear b)
    backupInto rest (keep b (t.bucket b) kept)

/-- Empties the named buckets and gives what they held. -/
def backup (names : List Value) : Exec BindingTable Snapshot := backupInto names []

/-- Puts kept contents back. -/
def restore (t : BindingTable) (snapshot : Snapshot) : BindingTable :=
  snapshot.foldl (fun t p => t.replace p.1 p.2) t

/-- Puts a new content into the named bucket. -/
def replaceNamed (name values : Value) : Exec BindingTable Unit := do
  let b ← Exec.ofResult (Bucket.named name)
  let entries ← Exec.ofResult (Result.ofFailure values.toEntries)
  modify (·.replace b entries)

/-- Puts contents of named buckets back, one after another. An unknown name stops this. -/
def restoreNamed : List (Value × Value) → Exec BindingTable Unit
  | [] => pure ()
  | (name, values) :: rest => do
    replaceNamed name values
    restoreNamed rest

/-! ### Taking in another table -/

/-- The new names of bindings that had to be renamed. -/
abbrev Renames := Row

/-- What a binding is called now. -/
def Renames.applyTo (renames : Renames) (name : Value) : Value := (entryAt? name renames).getD name

/-- What a binding with a text for a name is called now. -/
def Renames.apply (renames : Renames) (name : String) : String :=
  ((entryAt? (.text name) renames).bind (·.text?)).getD name

/-- Takes one entry in. If its name is taken it gets another one, which is not taken and not in
`reserved`. -/
def absorbEntry (reserved : List Value) (b : Bucket) (acc : BindingTable × Renames)
    (entry : Value × Value) : BindingTable × Renames :=
  let renames : Renames :=
    if acc.1.contains entry.1 then putEntry entry.1 (acc.1.freshName entry.1 reserved) acc.2
    else acc.2
  (acc.1.add (renames.applyTo entry.1) entry.2 b, renames)

/-- Takes the entries of one bucket in. -/
def absorbBucket (other : BindingTable) (acc : BindingTable × Renames) (b : Bucket) :
    BindingTable × Renames :=
  (other.bucket b).foldl (absorbEntry other.names b) acc

/-- Takes every binding of another table in. A name that is taken here gets the next free number,
and none that the other table still holds. -/
def absorb (t other : BindingTable) : BindingTable × Renames :=
  Bucket.all.foldl (absorbBucket other) (t, [])

/-! ### First laws -/

/-- Adding changes one bucket. -/
theorem bucket_add (t : BindingTable) (name v : Value) (b c : Bucket) :
    (t.add name v b).bucket c = if b = c then putEntry name v (t.bucket b) else t.bucket c := by
  simp [add]

/-- The names of a table are those of its buckets. -/
theorem mem_names {t : BindingTable} {name : Value} :
    name ∈ t.names ↔ ∃ b, name ∈ (t.bucket b).map Prod.fst := by
  simp only [names, entries, List.mem_map, List.mem_flatMap]
  constructor
  · rintro ⟨e, ⟨b, -, he⟩, rfl⟩
    exact ⟨b, e, he, rfl⟩
  · rintro ⟨b, e, he, rfl⟩
    exact ⟨e, ⟨b, Bucket.mem_all b, he⟩, rfl⟩

example : (((empty.bind "age" (.int 1) .filter).2).bind "age" (.int 2) .having).1 = "age_2" := by
  decide

end BindingTable

end GraphQuery
