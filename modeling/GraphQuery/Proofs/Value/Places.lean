import GraphQuery.Value

/-! # Places inside a value

Lists, tuples, sets and maps hold values, which may hold values themselves.  A place is a way down into a
value: a number for each level.

* `Value.parts` : what a value holds, and `Value.at?` : what stands at a place.
* `Value.Throughout` : what holds of all that stands at the places of a value.
* `Value.parts_induction` : induction from the parts of a value to the value.

What a record or a driver node stores is not among its parts. -/

namespace GraphQuery.Value

/-- What a list, a tuple, a set or a map holds, in its order. -/
def parts : Value → List Value
  | .list xs _ | .tuple xs | .set xs => xs
  | .map es _ => es.map Prod.snd
  | _ => []

/-- What stands at a place. -/
def at? : List Nat → Value → Option Value
  | [], v => some v
  | i :: place, v => v.parts[i]?.bind (at? place)

/-- Whether something holds of a value and of all that is in it. -/
def Throughout (P : Value → Prop) (v : Value) : Prop := ∀ place x, v.at? place = some x → P x

/-- Null, truth values, numbers, texts, bytes and times of day. -/
def IsScalar : Value → Prop
  | .null | .bool _ | .int _ | .double _ | .text _ | .bytes _ | .clock _ => True
  | _ => False

/-- Whether the keys of a map are texts. -/
def HasTextKeys (entries : Row) : Prop := ∀ k ∈ entries.map Prod.fst, ∃ s, k = .text s

variable {P : Value → Prop} {v x : Value}

theorem parts_of_isScalar (h : v.IsScalar) : v.parts = [] := by
  cases v with
  | list | tuple | set | map => cases h
  | _ => rfl

theorem throughout_iff : v.Throughout P ↔ P v ∧ ∀ x ∈ v.parts, x.Throughout P := by
  constructor
  · intro h
    refine ⟨h [] v rfl, fun x member place y found => ?_⟩
    obtain ⟨i, here⟩ := List.mem_iff_getElem?.mp member
    refine h (i :: place) y ?_
    rw [at?, here]
    exact found
  · rintro ⟨own, parts⟩ place y found
    cases place with
    | nil => exact Option.some.inj found ▸ own
    | cons i place =>
      obtain ⟨x, here, found⟩ := Option.bind_eq_some_iff.mp found
      exact parts x (List.mem_of_getElem? here) place y found

theorem throughout_leaf (own : P v) (bare : v.parts = []) : v.Throughout P :=
  throughout_iff.mpr ⟨own, by rw [bare]; nofun⟩

theorem sizeOf_lt_of_mem_parts (member : x ∈ v.parts) : sizeOf x < sizeOf v := by
  cases v with
  | list xs mark | tuple xs | set xs =>
    have smaller : sizeOf x < sizeOf xs := List.sizeOf_lt_of_mem member
    simp only [list.sizeOf_spec, tuple.sizeOf_spec, set.sizeOf_spec]
    omega
  | map es mark =>
    obtain ⟨e, inside, rfl⟩ := List.mem_map.mp member
    have entry : sizeOf e < sizeOf es := List.sizeOf_lt_of_mem inside
    have smaller : sizeOf e.2 < sizeOf e := by
      obtain ⟨k, w⟩ := e
      simp only [Prod.mk.sizeOf_spec]
      omega
    simp only [map.sizeOf_spec]
    omega
  | _ => cases member

/-- What holds of a value if it holds of its parts holds of all values. -/
theorem parts_induction (step : ∀ v : Value, (∀ x ∈ v.parts, P x) → P v) (v : Value) : P v :=
  step v fun x _ => parts_induction step x
termination_by sizeOf v
decreasing_by exact sizeOf_lt_of_mem_parts ‹_›

end GraphQuery.Value
