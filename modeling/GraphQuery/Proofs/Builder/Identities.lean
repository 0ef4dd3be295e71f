import GraphQuery.Proofs.Builder.Refusals

/-! # Reading identities

Wherever a node is asked for by its identity, what stands for the identity is read as an integer before
it is bound.

* `Value.Names` : a value is equal to an integer, or a text that spells it;
* `Value.MistakenFor` : it is neither, and is read as an integer all the same;
* `Build.identity_eq_ok` : these are the values that are read, and `Build.identity_refused` tells how the
  others are refused;
* `IsIdentityColumn` : the spellings of the identity of a node. -/

namespace GraphQuery

open GraphQuery.Number GraphQuery.Text GraphQuery.Binding GraphQuery.Schema Exec

/-! ### Values as identities -/

namespace Number.Double

theorem ratio_pos (x : Double) : 0 < x.ratio.2 := by
  unfold ratio
  dsimp only
  split
  · exact Nat.one_pos
  · exact Nat.pow_pos (by decide)

/-- What is neither infinite nor no number is finite. -/
theorem isFinite_iff (x : Double) : x.isFinite = true ↔ x.isNaN = false ∧ x.isInfinite = false := by
  unfold isFinite isNaN isInfinite
  by_cases last : x.exponent = 2047 <;> simp [last]

/-- A finite number is equal to an integer if it is that integer when its fraction is cut off, and has
none. -/
theorem ratio_eq_iff {x : Double} (finite : x.isFinite = true) (n : Int) :
    x.ratio.1 = n * x.ratio.2 ↔ x.isIntegral = true ∧ n = x.truncate := by
  have pos : (x.ratio.2 : Int) ≠ 0 := Int.natCast_ne_zero.mpr (Nat.ne_of_gt x.ratio_pos)
  unfold isIntegral truncate
  rw [finite, Bool.true_and, beq_iff_eq]
  constructor
  · intro same
    rw [same]
    exact ⟨Int.mul_emod_left _ _, (Int.mul_tdiv_cancel _ pos).symm⟩
  · rintro ⟨whole, rfl⟩
    exact (Int.tdiv_mul_cancel (Int.dvd_of_emod_eq_zero whole)).symm

end Number.Double

namespace Value

/-- A value names an integer that it is equal to, and a text names the integer that it spells. -/
def Names (v : Value) (n : Int) : Prop :=
  v.same (.int n) = true ∨ ∃ s, v = .text s ∧ readInteger? s = some n

/-- What names no integer and is read as one: a double loses its fraction, and bytes are read as if they
were a text. -/
def MistakenFor (v : Value) (n : Int) : Prop :=
  (∃ x, v = .double x ∧ x.isFinite = true ∧ x.isIntegral = false ∧ n = x.truncate) ∨
    ∃ bs, v = .bytes bs ∧ (asciiChars? bs).bind readIntegerChars? = some n

theorem same_int_iff {v : Value} {n : Int} :
    v.same (.int n) = true ↔ ∃ r, v.ratio? = some r ∧ r.1 = n * r.2 := by
  have number (w : Value) : numberSame w (.int n) = true ↔ ∃ r, w.ratio? = some r ∧ r.1 = n * r.2 := by
    unfold numberSame
    cases w.ratio? with
    | none => exact ⟨nofun, nofun⟩
    | some r => simp [ratio?, sameRatio]
  cases v with
  | bool b => exact number (.bool b)
  | int m => exact number (.int m)
  | double x => exact number (.double x)
  | stream xs mark => cases mark <;> exact ⟨nofun, nofun⟩
  | path nodes links => cases nodes <;> exact ⟨nofun, nofun⟩
  | _ => exact ⟨nofun, nofun⟩

theorem names_text {s : String} {n : Int} : (text s).Names n ↔ readInteger? s = some n := by
  constructor
  · rintro (same | ⟨_, same, read⟩)
    · cases same
    · cases same
      exact read
  · exact fun read => Or.inr ⟨s, rfl, read⟩

theorem names_iff {v : Value} (some : v.text? = none) {n : Int} :
    v.Names n ↔ ∃ r, v.ratio? = .some r ∧ r.1 = n * r.2 := by
  rw [← same_int_iff]
  refine ⟨fun named => named.resolve_right ?_, Or.inl⟩
  rintro ⟨s, rfl, -⟩
  cases some

/-- A double names an integer if it is finite and has no fraction. -/
theorem names_double {x : Double} {n : Int} :
    (double x).Names n ↔ x.isFinite = true ∧ x.isIntegral = true ∧ n = x.truncate := by
  rw [names_iff rfl]
  constructor
  · rintro ⟨r, ratio, same⟩
    obtain ⟨finite, own⟩ := Option.ite_none_right_eq_some.mp ratio
    obtain rfl := Option.some.inj own
    exact ⟨finite, (Double.ratio_eq_iff finite n).mp same⟩
  · rintro ⟨finite, whole⟩
    exact ⟨x.ratio, if_pos finite, (Double.ratio_eq_iff finite n).mpr whole⟩

theorem toInteger_double {x : Double} {n : Int} :
    (double x).toInteger = .ok n ↔ x.isFinite = true ∧ n = x.truncate := by
  rw [x.isFinite_iff]
  unfold toInteger
  dsimp only
  cases x.isNaN <;> cases x.isInfinite <;> simp [eq_comm]

theorem elim_eq_ok {f : Failure} {read : Option Int} {n : Int} :
    read.elim (.error f) .ok = (.ok n : Except Failure Int) ↔ read = some n := by
  cases read <;> simp

/-- What is read as an integer: what names it, and what is mistaken for it. -/
theorem toInteger_eq_ok {v : Value} {n : Int} :
    v.toInteger = .ok n ↔ v.Names n ∨ v.MistakenFor n := by
  have exact {v : Value} {m : Int} (isNumber : v.text? = none) (ratio : v.ratio? = some (m, 1))
      (read : v.toInteger = .ok m) (clear : ¬ v.MistakenFor n) :
      v.toInteger = .ok n ↔ v.Names n ∨ v.MistakenFor n := by
    rw [names_iff isNumber, ratio, read, or_iff_left clear]
    simp
  cases v with
  | bool b => exact exact rfl rfl rfl (by rintro (⟨_, same, _⟩ | ⟨_, same, _⟩) <;> cases same)
  | int m => exact exact rfl rfl rfl (by rintro (⟨_, same, _⟩ | ⟨_, same, _⟩) <;> cases same)
  | double x =>
    rw [toInteger_double, names_double]
    constructor
    · rintro ⟨finite, cut⟩
      cases whole : x.isIntegral with
      | true => exact Or.inl ⟨finite, rfl, cut⟩
      | false => exact Or.inr (Or.inl ⟨x, rfl, finite, whole, cut⟩)
    · rintro (⟨finite, -, cut⟩ | ⟨y, same, finite, -, cut⟩ | ⟨_, same, -⟩)
      · exact ⟨finite, cut⟩
      · cases same
        exact ⟨finite, cut⟩
      · cases same
  | text s =>
    rw [names_text]
    have read : (text s).toInteger = .ok n ↔ readInteger? s = some n := elim_eq_ok
    exact read.trans (or_iff_left (by rintro (⟨_, same, _⟩ | ⟨_, same, _⟩) <;> cases same)).symm
  | bytes bs =>
    rw [names_iff rfl]
    have read : (bytes bs).toInteger = .ok n ↔ (asciiChars? bs).bind readIntegerChars? = some n :=
      elim_eq_ok
    rw [read]
    constructor
    · exact fun found => Or.inr (Or.inr ⟨bs, rfl, found⟩)
    · rintro (⟨_, number, -⟩ | ⟨_, same, -⟩ | ⟨_, same, found⟩)
      · cases number
      · cases same
      · cases same
        exact found
  | _ =>
    rw [names_iff rfl]
    refine ⟨nofun, ?_⟩
    rintro (⟨_, number, -⟩ | ⟨_, same, -⟩ | ⟨_, same, -⟩)
    · cases number
    · cases same
    · cases same

/-- Why a value is refused for an identity: it is not read as an integer, or it is infinite. -/
inductive RefusedFor : Value → Error → Prop
  | unread {v : Value} (cause : Failure) :
    RefusedFor v (.builder (.identityNotInteger v.literal cause))
  | infinite {x : Double} (endless : x.isInfinite = true) :
    RefusedFor (.double x) (.failure ⟨.overflow, "cannot convert float infinity to integer"⟩)

/-- Only an infinite double is out of range. -/
theorem toInteger_overflow {v : Value} {f : Failure} (failed : v.toInteger = .error f)
    (kind : f.kind = .overflow) : ∃ x, v = .double x ∧ x.isInfinite = true ∧
      f = ⟨.overflow, "cannot convert float infinity to integer"⟩ := by
  have unread {read : Option Int} {cs : List Char} {literal : String} :
      read.elim (.error (notAnInteger cs literal)) .ok ≠ (.error f : Except Failure Int) := by
    intro same
    cases read with
    | some n => cases same
    | none =>
      obtain rfl := Except.error.inj same
      unfold notAnInteger at kind
      split at kind <;> cases kind
  unfold toInteger at failed
  split at failed
  · cases failed
  · cases failed
  · split at failed
    · cases failed
      cases kind
    · split at failed
      · exact ⟨_, rfl, ‹_›, (Except.error.inj failed).symm⟩
      · cases failed
  · exact absurd failed unread
  · exact absurd failed unread
  · cases failed
    cases kind

end Value

namespace Build

/-- What is read as an identity: the integer that a value names, or the one it is mistaken for. -/
theorem identity_eq_ok {v : Value} {n : Int} :
    identity v = .ok n ↔ v.Names n ∨ v.MistakenFor n := by
  rw [← Value.toInteger_eq_ok]
  unfold identity
  cases v.toInteger with
  | ok m => simp
  | error f =>
    dsimp only
    split <;> exact ⟨nofun, nofun⟩

theorem identity_refused {v : Value} {e : Error} (failed : identity v = .error e) :
    v.RefusedFor e := by
  unfold identity at failed
  cases read : v.toInteger with
  | ok n =>
    rw [read] at failed
    cases failed
  | error f =>
    rw [read] at failed
    dsimp only at failed
    split at failed
    · obtain ⟨x, rfl, endless, rfl⟩ := Value.toInteger_overflow read ‹_›
      obtain rfl := Except.error.inj failed
      exact .infinite endless
    · obtain rfl := Except.error.inj failed
      exact .unread f

end Build

/-! ### Spellings of an identity -/

/-- The columns that are the identity of a node: `id` for the primary one, `id(node)`, `Label.id`, and a
reference to one. -/
inductive IsIdentityColumn : Value → Prop
  | own {s : String} (bare : trim s = "id") : IsIdentityColumn (.text s)
  | called {s : String} {node : List Char} (call : identityCall? (trim s).toList = some node) :
    IsIdentityColumn (.text s)
  | labelled {s : String} {label : List Char}
    (split : splitAtFirst '.' (trim s).toList = some (label, "id".toList)) : IsIdentityColumn (.text s)
  | reference {c : ColumnRef} (identity : c.identity = true) : IsIdentityColumn (.column c)

namespace IsIdentityColumn

variable {column : Value}

theorem entries? (h : IsIdentityColumn column) : column.entries? = none := by cases h <;> rfl

/-- Wherever such a column is resolved, it is the identity of a node. -/
theorem resolve (h : IsIdentityColumn column) {q : Query} {c : ColumnRef}
    (found : q.resolve column = .ok c) : c.identity = true := by
  cases h with
  | @own s bare =>
    have point : splitAtFirst '.' "id".toList = none := by decide
    cases Query.resolves_of_resolve found with
    | called | identity => rfl
    | owned _ cut => cases (bare ▸ point).symm.trans cut
    | property _ _ other => exact (other bare).elim
  | @called s node call =>
    cases Query.resolves_of_resolve found with
    | called | identity => rfl
    | owned uncalled | property uncalled => cases uncalled.symm.trans call
  | @labelled s label split =>
    cases Query.resolves_of_resolve found with
    | called | identity => rfl
    | owned _ cut =>
      obtain ⟨-, rfl⟩ := Prod.mk.inj (Option.some.inj (split.symm.trans cut))
      exact beq_self_eq_true "id"
    | property _ whole => cases split.symm.trans whole
  | @reference r identity =>
    have found : (if r.placeholder.isNone then do return { r with placeholder := ← q.placeholder? }
      else .ok r) = Except.ok c := found
    split at found
    · obtain ⟨target, -, found⟩ := Result.bind_eq_ok found
      cases found
      exact identity
    · cases found
      exact identity

end IsIdentityColumn

end GraphQuery
