import GraphQuery.Proofs.Record.ClassResolution

/-! # Identities in element ids

The identity of a driver value is the number behind the last colon of its element id; without one the older
identity counts.  What is taken for a number there and what is read as one are different things.

* `SpellsInteger` : the decimal spelling of an integer, with digits of any script.
* `IsCounted` : what is taken for a number, which is any digits behind any number of minus signs
  (`isIdentityTail_iff`).  Of these the spelled ones are read, unless they are too long
  (`readIntegerChars?_eq_some_iff`); the others are misleading.
* `SucceedsUnless` : an outcome that is a wrong value in known cases only.
* `identity_falls_back` : the identities of nodes and relationships. -/

namespace GraphQuery

open GraphQuery.Text GraphQuery.Number GraphQuery.Schema

/-! ### Digits -/

namespace Text

/-- The decimal digits of every script are digits. -/
theorem isDigit_of_digitValue? {c : Char} {d : Nat} (h : digitValue? c = some d) : isDigit c = true := by
  have inside : ∀ start ∈ zeroCodes, ∃ range ∈ digitRanges, range.1 ≤ start ∧ start + 9 ≤ range.2 := by
    decide +kernel
  unfold digitValue? at h
  unfold isDigit
  dsimp only at h ⊢
  split
  · next small =>
    rw [if_pos small] at h
    split at h
    · assumption
    · cases h
  · next large =>
    rw [if_neg large] at h
    obtain ⟨start, found, -⟩ := Option.map_eq_some_iff.mp h
    have own := List.find?_some found
    obtain ⟨range, member, first, last⟩ := inside start (List.mem_of_find?_eq_some found)
    simp only [Bool.and_eq_true, decide_eq_true_eq] at own
    exact CodeRanges.holds_iff.mpr ⟨range, member, by omega, by omega⟩

theorem isNumeralBlank_of_isDigit {c : Char} (h : isDigit c = true) : isNumeralBlank c = false := by
  have apart : ∀ blank ∈ blankRanges, ∀ range ∈ digitRanges, blank.2 < range.1 ∨ range.2 < blank.1 := by
    decide +kernel
  unfold isDigit at h
  unfold isNumeralBlank
  dsimp only at h ⊢
  split
  · next small =>
    rw [if_pos small] at h
    simp at h ⊢
    omega
  · next large =>
    rw [if_neg large] at h
    obtain ⟨range, member, low, high⟩ := CodeRanges.holds_iff.mp h
    rw [Bool.eq_false_iff]
    intro blank
    obtain ⟨other, among, low', high'⟩ := CodeRanges.holds_iff.mp blank
    have := apart other among range member
    omega

theorem ne_of_isDigit {c d : Char} (h : isDigit c = true) (sign : isDigit d = false) : c ≠ d := by
  rintro rfl
  rw [h] at sign
  cases sign

theorem trimWhere_eq_of_forall {p : Char → Bool} {cs : List Char} (h : ∀ c ∈ cs, p c = false) :
    trimWhere p cs = cs := by
  have kept {ds : List Char} (h : ∀ c ∈ ds, p c = false) : ds.dropWhile p = ds := by
    cases ds with
    | nil => rfl
    | cons c ds => rw [List.dropWhile_cons_of_neg (Bool.eq_false_iff.mp (h c List.mem_cons_self))]
  rw [trimWhere, kept h, kept fun c member => h c (List.mem_reverse.mp member), List.reverse_reverse]

end Text

/-! ### Numerals -/

/-- The decimal digits of a number, first digit first. -/
def SpellsDigits (cs : List Char) (ds : List Nat) : Prop :=
  cs ≠ [] ∧ List.Forall₂ (fun c d => digitValue? c = some d) cs ds

/-- The decimal spelling of an integer: its digits, with at most one minus before them. -/
inductive SpellsInteger : List Char → Int → Prop
  | plain {cs : List Char} {ds : List Nat} : SpellsDigits cs ds → SpellsInteger cs (ofDigits ds)
  | minus {cs : List Char} {ds : List Nat} : SpellsDigits cs ds →
      SpellsInteger ('-' :: cs) (-(ofDigits ds : Int))

/-- Digits of any kind, superscript and circled ones included, behind any number of minus signs. -/
def IsCounted (cs : List Char) : Prop :=
  ∃ signs ds, cs = List.replicate signs '-' ++ ds ∧ ds ≠ [] ∧ ∀ c ∈ ds, isDigit c = true

/-- No more digits than are read. -/
def IsShort (cs : List Char) : Prop := (cs.dropWhile (· == '-')).length ≤ maxIntegerDigits

theorem dropWhile_signs {ds : List Char} (digits : ∀ c ∈ ds, isDigit c = true) (signs : Nat) :
    (List.replicate signs '-' ++ ds).dropWhile (· == '-') = ds := by
  rw [List.dropWhile_append_of_pos fun c member => beq_iff_eq.mpr (List.eq_of_mem_replicate member)]
  cases ds with
  | nil => rfl
  | cons c ds =>
    have other := ne_of_isDigit (digits c List.mem_cons_self) (d := '-') (by decide)
    exact List.dropWhile_cons_of_neg (by simpa using other)

theorem isIdentityTail_iff {cs : List Char} : isIdentityTail cs = true ↔ IsCounted cs := by
  unfold isIdentityTail
  simp only [Bool.and_eq_true, Bool.not_eq_true', List.isEmpty_eq_false_iff, List.all_eq_true]
  constructor
  · rintro ⟨filled, digits⟩
    refine ⟨(cs.takeWhile (· == '-')).length, _, ?_, filled, digits⟩
    have signs := List.eq_replicate_of_mem (a := '-') fun c member =>
      beq_iff_eq.mp (List.all_eq_true.mp (List.all_takeWhile (p := (· == '-')) (l := cs)) c member)
    rw [← signs, List.takeWhile_append_dropWhile]
  · rintro ⟨signs, ds, rfl, filled, digits⟩
    rw [dropWhile_signs digits]
    exact ⟨filled, digits⟩

theorem SpellsDigits.exists_value {cs : List Char} {ds : List Nat} (h : SpellsDigits cs ds) :
    ∀ c ∈ cs, ∃ d, digitValue? c = some d := by
  intro c member
  obtain ⟨i, inside, rfl⟩ := List.mem_iff_getElem.mp member
  have all := List.forall₂_iff_get.mp h.2
  exact ⟨_, all.2 i inside (all.1 ▸ inside)⟩

theorem SpellsDigits.isDigit {cs : List Char} {ds : List Nat} (h : SpellsDigits cs ds) :
    ∀ c ∈ cs, Text.isDigit c = true := by
  intro c member
  obtain ⟨d, value⟩ := h.exists_value c member
  exact isDigit_of_digitValue? value

theorem SpellsDigits.not_minus {cs : List Char} {ds : List Nat} : ¬ SpellsDigits ('-' :: cs) ds :=
  fun h => absurd (h.isDigit '-' List.mem_cons_self) (by decide)

theorem exists_spellsDigits_iff {cs : List Char} (filled : cs ≠ []) :
    (∃ ds, SpellsDigits cs ds) ↔ ∀ c ∈ cs, digitValue? c ≠ none := by
  constructor
  · rintro ⟨ds, spelled⟩ c member
    exact Option.ne_none_iff_exists'.mpr (spelled.exists_value c member)
  · intro decimal
    refine ⟨cs.map fun c => (digitValue? c).getD 0, filled, ?_⟩
    rw [List.forall₂_map_right_iff, List.forall₂_same]
    intro c member
    obtain ⟨d, value⟩ := Option.ne_none_iff_exists'.mp (decimal c member)
    rw [value, Option.getD_some]

theorem spellsInteger_plain_iff {cs : List Char} {n : Int} (digits : ∀ c ∈ cs, isDigit c = true) :
    SpellsInteger cs n ↔ ∃ ds, SpellsDigits cs ds ∧ n = ofDigits ds := by
  constructor
  · intro spelled
    cases spelled with
    | plain spelled => exact ⟨_, spelled, rfl⟩
    | minus => exact absurd (digits '-' List.mem_cons_self) (by decide)
  · rintro ⟨ds, spelled, rfl⟩
    exact .plain spelled

theorem spellsInteger_minus_iff {cs : List Char} {n : Int} :
    SpellsInteger ('-' :: cs) n ↔ ∃ ds, SpellsDigits cs ds ∧ n = -(ofDigits ds : Int) := by
  constructor
  · intro spelled
    cases spelled with
    | plain spelled => exact absurd spelled SpellsDigits.not_minus
    | minus spelled => exact ⟨_, spelled, rfl⟩
  · rintro ⟨ds, spelled, rfl⟩
    exact .minus spelled

theorem SpellsInteger.isCounted {cs : List Char} {n : Int} (h : SpellsInteger cs n) : IsCounted cs := by
  cases h with
  | plain spelled => exact ⟨0, cs, rfl, spelled.1, spelled.isDigit⟩
  | minus spelled => exact ⟨1, _, rfl, spelled.1, spelled.isDigit⟩

/-- What is taken for a number spells one if there is one minus at most and its digits are decimal ones. -/
theorem exists_spellsInteger_iff {signs : Nat} {ds : List Char} (filled : ds ≠ [])
    (digits : ∀ c ∈ ds, isDigit c = true) :
    (∃ n, SpellsInteger (List.replicate signs '-' ++ ds) n) ↔
      signs ≤ 1 ∧ ∀ c ∈ ds, digitValue? c ≠ none := by
  rw [← exists_spellsDigits_iff filled]
  match signs with
  | 0 => simp [spellsInteger_plain_iff digits]
  | 1 => simp [spellsInteger_minus_iff]
  | more + 2 =>
    refine iff_of_false ?_ (by omega)
    rintro ⟨n, spelled⟩
    obtain ⟨values, spelled, -⟩ := spellsInteger_minus_iff.mp spelled
    exact SpellsDigits.not_minus spelled

/-- Digits are read one by one; no low line stands among them. -/
theorem numeralDigits?_eq_some_iff {cs : List Char} {ds : List Nat} (digits : ∀ c ∈ cs, isDigit c = true) :
    numeralDigits? cs = some ds ↔ SpellsDigits cs ds := by
  unfold SpellsDigits
  fun_induction numeralDigits? cs generalizing ds with
  | case1 => simp
  | case2 c => cases ds <;> simp [List.forall₂_cons, eq_comm]
  | case3 c rest =>
    have line := digits '_' (by simp)
    exact absurd line (by decide)
  | case4 c rest single other ih =>
    have others {ds : List Nat} := @ih ds fun c member => digits c (List.mem_cons_of_mem _ member)
    constructor
    · intro read
      obtain ⟨d, first, read⟩ := Option.bind_eq_some_iff.mp read
      obtain ⟨es, later, read⟩ := Option.bind_eq_some_iff.mp read
      obtain rfl := Option.some.inj read
      exact ⟨List.cons_ne_nil _ _, .cons first (others.mp later).2⟩
    · rintro ⟨-, spelled⟩
      cases spelled with
      | cons first later =>
        rw [first, others.mpr ⟨fun none => single none, later⟩]
        rfl

theorem numeralDigits?_minus (cs : List Char) : numeralDigits? ('-' :: cs) = none := by
  have none : digitValue? '-' = none := rfl
  unfold numeralDigits?
  split
  · rfl
  all_goals
    next same =>
      obtain ⟨rfl, -⟩ := List.cons.inj same
      rw [none]
      rfl

theorem readDigits_eq_some_iff {ds : List Char} {negative : Bool} {n : Int}
    (digits : ∀ c ∈ ds, isDigit c = true) :
    ((numeralDigits? ds).bind fun values => if values.length ≤ maxIntegerDigits then
      some (signed negative (ofDigits values)) else none) = some n ↔
      ∃ values, SpellsDigits ds values ∧ ds.length ≤ maxIntegerDigits ∧
        n = signed negative (ofDigits values) := by
  rw [Option.bind_eq_some_iff]
  refine exists_congr fun values => ?_
  rw [numeralDigits?_eq_some_iff digits]
  refine and_congr_right fun spelled => ?_
  rw [← spelled.2.length_eq]
  split
  · next short => simp [short, eq_comm]
  · next long => simp [long]

theorem splitSign_of_digits {ds : List Char} (digits : ∀ c ∈ ds, isDigit c = true) :
    splitSign ds = (false, ds) := by
  cases ds with
  | nil => rfl
  | cons c ds =>
    have minus := ne_of_isDigit (digits c List.mem_cons_self) (d := '-') (by decide)
    have plus := ne_of_isDigit (digits c List.mem_cons_self) (d := '+') (by decide)
    unfold splitSign
    split <;> simp_all

/-- Of what is taken for a number, the spelling of an integer is read, if it is short. -/
theorem readIntegerChars?_eq_some_iff {cs : List Char} {n : Int} (counted : IsCounted cs) :
    readIntegerChars? cs = some n ↔ SpellsInteger cs n ∧ IsShort cs := by
  obtain ⟨signs, ds, rfl, filled, digits⟩ := counted
  have bare : trimWhere isNumeralBlank (List.replicate signs '-' ++ ds) = List.replicate signs '-' ++ ds := by
    refine trimWhere_eq_of_forall fun c member => ?_
    rcases List.mem_append.mp member with sign | digit
    · rw [List.eq_of_mem_replicate sign]
      decide
    · exact isNumeralBlank_of_isDigit (digits c digit)
  have regroup {Good : List Nat → Prop} : (∃ values, SpellsDigits ds values ∧ ds.length ≤ maxIntegerDigits ∧
      Good values) ↔ (∃ values, SpellsDigits ds values ∧ Good values) ∧ ds.length ≤ maxIntegerDigits :=
    ⟨fun ⟨values, spelled, short, good⟩ => ⟨⟨values, spelled, good⟩, short⟩,
      fun ⟨⟨values, spelled, good⟩, short⟩ => ⟨values, spelled, short, good⟩⟩
  rw [IsShort, dropWhile_signs digits]
  unfold readIntegerChars?
  rw [bare]
  match signs with
  | 0 =>
    rw [List.replicate_zero, List.nil_append, splitSign_of_digits digits, spellsInteger_plain_iff digits]
    exact (readDigits_eq_some_iff digits).trans regroup
  | 1 =>
    show _ ↔ SpellsInteger ('-' :: ds) n ∧ _
    rw [spellsInteger_minus_iff]
    exact (readDigits_eq_some_iff digits).trans regroup
  | more + 2 =>
    -- the second minus is no digit
    have none : ¬ ∃ n, SpellsInteger (List.replicate (more + 2) '-' ++ ds) n := by
      rw [exists_spellsInteger_iff filled digits]
      omega
    refine iff_of_false ?_ fun h => none ⟨n, h.1⟩
    show ¬ (numeralDigits? ('-' :: _)).bind _ = _
    rw [numeralDigits?_minus]
    simp

/-! ### Element ids -/

/-- What is taken for a number and is none that is read: there is a second minus, a digit that is no decimal
one, or there are too many of them. -/
def IsMisleading (cs : List Char) : Prop :=
  ∃ signs ds, cs = List.replicate signs '-' ++ ds ∧ (ds ≠ [] ∧ ∀ c ∈ ds, isDigit c = true) ∧
    (1 < signs ∨ (∃ c ∈ ds, digitValue? c = none) ∨ maxIntegerDigits < ds.length)

theorem isMisleading_iff {cs : List Char} :
    IsMisleading cs ↔ IsCounted cs ∧ ∀ n, SpellsInteger cs n → ¬ IsShort cs := by
  constructor
  · rintro ⟨signs, ds, rfl, ⟨filled, digits⟩, wrong⟩
    refine ⟨⟨signs, ds, rfl, filled, digits⟩, fun n spelled short => ?_⟩
    obtain ⟨few, decimal⟩ := (exists_spellsInteger_iff filled digits).mp ⟨n, spelled⟩
    rw [IsShort, dropWhile_signs digits] at short
    rcases wrong with many | ⟨c, member, none⟩ | long
    · omega
    · exact decimal c member none
    · omega
  · rintro ⟨⟨signs, ds, rfl, filled, digits⟩, unread⟩
    refine ⟨signs, ds, rfl, ⟨filled, digits⟩, ?_⟩
    by_contra! right
    obtain ⟨few, decimal, short⟩ := right
    obtain ⟨n, spelled⟩ := (exists_spellsInteger_iff filled digits).mpr ⟨few, decimal⟩
    rw [IsShort, dropWhile_signs digits] at unread
    exact unread n spelled short

theorem Value.toInteger_ofList (cs : List Char) : (Value.text (String.ofList cs)).toInteger =
    (readIntegerChars? cs).elim (.error (Value.notAnInteger cs (textLiteral (String.ofList cs)))) .ok := by
  show (readIntegerChars? _).elim (Except.error (Value.notAnInteger _ _)) Except.ok = _
  rw [String.toList_ofList]

theorem Value.toInteger_counted {cs : List Char} (counted : IsCounted cs) {n : Int} :
    (Value.text (String.ofList cs)).toInteger = .ok n ↔ SpellsInteger cs n ∧ IsShort cs := by
  rw [← readIntegerChars?_eq_some_iff counted, Value.toInteger_ofList]
  cases readIntegerChars? cs with
  | none => exact ⟨nofun, nofun⟩
  | some m => simp

theorem Value.toInteger_misleading {cs : List Char} (misleading : IsMisleading cs) :
    ∃ note, (Value.text (String.ofList cs)).toInteger = .error (.value note) := by
  have unread : readIntegerChars? cs = none := by
    rw [Option.eq_none_iff_forall_ne_some]
    intro n read
    obtain ⟨counted, unread⟩ := isMisleading_iff.mp misleading
    obtain ⟨spelled, short⟩ := (readIntegerChars?_eq_some_iff counted).mp read
    exact unread n spelled short
  rw [Value.toInteger_ofList, unread, Option.elim_none]
  unfold Value.notAnInteger
  split <;> exact ⟨_, rfl⟩

/-- What is behind the last colon of an element id. -/
def idTail (elementId : String) : List Char := afterLast ':' elementId.toList

theorem parseIdentity_text (s : String) : parseIdentity (.text s) =
    if isIdentityTail (idTail s) then
      (Result.ofFailure (Value.text (String.ofList (idTail s))).toInteger).map .int
    else .ok .null := by
  have plain : (Value.text s).plainText = s := by rw [Value.plainText]
  unfold parseIdentity idTail
  dsimp only
  rw [plain]
  generalize (Value.text (String.ofList (afterLast ':' s.toList))).toInteger = read
  refine if_congr Iff.rfl ?_ rfl
  cases read <;> rfl

/-- The identity of a text is what is spelled behind its last colon, if that is short. -/
theorem parseIdentity_eq_int_iff {s : String} {n : Int} :
    parseIdentity (.text s) = .ok (.int n) ↔ SpellsInteger (idTail s) n ∧ IsShort (idTail s) := by
  rw [parseIdentity_text]
  split
  · next counted =>
    rw [← Value.toInteger_counted (isIdentityTail_iff.mp counted)]
    cases (Value.text (String.ofList (idTail s))).toInteger with
    | error f => exact ⟨nofun, nofun⟩
    | ok m => exact ⟨fun h => congrArg _ (Value.int.inj (Except.ok.inj h)), fun h => by cases h; rfl⟩
  · next other =>
    exact iff_of_false nofun fun h => other (isIdentityTail_iff.mpr h.1.isCounted)

/-- A text has no identity where nothing is taken for a number. -/
theorem parseIdentity_eq_null_iff {s : String} :
    parseIdentity (.text s) = .ok .null ↔ ¬ IsCounted (idTail s) := by
  rw [parseIdentity_text, ← isIdentityTail_iff]
  split
  · next counted =>
    refine iff_of_false ?_ fun h => h counted
    cases (Value.text (String.ofList (idTail s))).toInteger <;> exact nofun
  · next other => exact iff_of_true rfl other

theorem parseIdentity_eq_error_iff {s : String} :
    (∃ note, parseIdentity (.text s) = .error (.failure (.value note))) ↔ IsMisleading (idTail s) := by
  constructor
  · rintro ⟨note, failed⟩
    refine isMisleading_iff.mpr ⟨?_, fun n spelled short => ?_⟩
    · by_contra other
      rw [parseIdentity_eq_null_iff.mpr other] at failed
      cases failed
    · rw [parseIdentity_eq_int_iff.mpr ⟨spelled, short⟩] at failed
      cases failed
  · intro misleading
    obtain ⟨note, unread⟩ := Value.toInteger_misleading misleading
    have counted := isIdentityTail_iff.mpr (isMisleading_iff.mp misleading).1
    rw [parseIdentity_text, if_pos counted, unread]
    exact ⟨note, rfl⟩

/-! ### Driver values -/

/-- An outcome that is a wrong value in some cases, and in all others a value with a property. -/
def SucceedsUnless {α : Type} (wrong : Prop) (Good : α → Prop) (outcome : Result α) : Prop :=
  (wrong → ∃ note, outcome = .error (.failure (.value note))) ∧ (¬ wrong → ∃ a, outcome = .ok a ∧ Good a)

section Outcomes

variable {α β : Type} {wrong other : Prop} {Good : α → Prop} {Fine : β → Prop} {outcome : Result α}

theorem SucceedsUnless.bind {next : α → Result β} (h : SucceedsUnless wrong Good outcome)
    (after : ∀ a, Good a → SucceedsUnless other Fine (next a)) :
    SucceedsUnless (wrong ∨ other) Fine (outcome >>= next) := by
  by_cases first : wrong
  · obtain ⟨note, failed⟩ := h.1 first
    rw [failed]
    exact ⟨fun _ => ⟨note, rfl⟩, fun right => absurd (Or.inl first) right⟩
  · obtain ⟨a, found, good⟩ := h.2 first
    rw [found]
    exact ⟨fun some => (after a good).1 (some.resolve_left first),
      fun right => (after a good).2 fun second => right (Or.inr second)⟩

theorem SucceedsUnless.ok {a : α} (good : Good a) : SucceedsUnless False Good (.ok a) :=
  ⟨False.elim, fun _ => ⟨a, rfl, good⟩⟩

end Outcomes

/-- The identity that comes of an element id and an older identity: the number that is spelled behind the
last colon, or the older one if nothing there is taken for a number. -/
inductive TakesIdentity (element : String) (older : Option Int) : Option Int → Prop
  | spelled {n : Int} : SpellsInteger (idTail element) n → IsShort (idTail element) →
      TakesIdentity element older (some n)
  | fallback : ¬ IsCounted (idTail element) → TakesIdentity element older older

theorem driverIdentity_text (element : String) (older : Option Int) :
    SucceedsUnless (IsMisleading (idTail element))
      (fun v => ∃ id, v = .ofInt? id ∧ TakesIdentity element older id)
      (driverIdentity (.text element) (.ofInt? older)) := by
  unfold driverIdentity
  constructor
  · intro misleading
    obtain ⟨note, failed⟩ := parseIdentity_eq_error_iff.mpr misleading
    rw [failed]
    exact ⟨note, rfl⟩
  · intro right
    by_cases counted : IsCounted (idTail element)
    · have read : ∃ n, SpellsInteger (idTail element) n ∧ IsShort (idTail element) := by
        by_contra! unread
        exact right (isMisleading_iff.mpr ⟨counted, unread⟩)
      obtain ⟨n, spelled, short⟩ := read
      rw [parseIdentity_eq_int_iff.mpr ⟨spelled, short⟩]
      exact ⟨_, rfl, some n, rfl, .spelled spelled short⟩
    · rw [parseIdentity_eq_null_iff.mpr counted]
      exact ⟨_, rfl, older, rfl, .fallback counted⟩

/-- A node of the driver, whose element id is a text. -/
structure DriverNode where
  element : String
  older : Option Int
  labels : List String
  properties : Properties

/-- A relationship of the driver; its ends may be unknown. -/
structure DriverLink where
  element : String
  older : Option Int
  type : String
  start : Option DriverNode
  stop : Option DriverNode
  properties : Properties
  typed : trim type ≠ ""

namespace DriverNode

def data (n : DriverNode) : NodeData Value := ⟨.text n.element, .ofInt? n.older, n.labels, n.properties⟩

def Misleads (n : DriverNode) : Prop := IsMisleading (idTail n.element)

/-- The identity of an end; one that is unknown has none. -/
def EndTakes : Option DriverNode → Option Int → Prop
  | some n, id => TakesIdentity n.element n.older id
  | none, id => id = none

end DriverNode

namespace DriverLink

def data (l : DriverLink) : LinkData Value :=
  ⟨.text l.element, .ofInt? l.older, l.type, l.start.map (·.data), l.stop.map (·.data), l.properties⟩

/-- The element id of a relationship or of one of its ends misleads. -/
def Misleads (l : DriverLink) : Prop :=
  IsMisleading (idTail l.element) ∨ (∃ n ∈ l.start, n.Misleads) ∨ ∃ n ∈ l.stop, n.Misleads

end DriverLink

theorem readIdentity_ofInt? (id : Option Int) : readIdentity (.ofInt? id) = .ok id := by
  cases id <;> rfl

theorem readProperties_ofProperties (properties : Properties) :
    readProperties (.ofProperties properties) = .ok (putAll [] properties) := by
  have entries : ∀ properties : Properties,
      readEntries .ok (properties.map fun p => (Value.text p.1, p.2)) = .ok properties := by
    intro properties
    induction properties with
    | nil => rfl
    | cons p rest ih =>
      rw [List.map_cons, readEntries, ih]
      rfl
  show (readEntries .ok _).map _ = _
  rw [entries]
  rfl

theorem Record.ofFields_node (id : Option Int) (labels : List String) (properties : Properties) :
    ∃ record, Record.ofFields [("id", .ofInt? id), ("labels", .set (labels.map .text)),
      ("properties", .ofProperties properties)] = .ok record ∧ record.id = id := by
  have coerced : coerceLabels [("id", .ofInt? id), ("labels", .set (labels.map .text)),
      ("properties", .ofProperties properties)] = .ok [("id", .ofInt? id),
      ("labels", .ofList ((sortedNames labels).map .text)), ("properties", .ofProperties properties)] := by
    show (givenLabels _ >>= _) = _
    rw [givenLabels_set]
    rfl
  unfold Record.ofFields
  rw [coerced]
  refine ⟨⟨id, sortedNames labels, putAll [] properties, [], none, none, ["id", "labels", "properties"]⟩, ?_,
    rfl⟩
  show Result.ofChecked (Except.map _ (((Checked.inside _ (readIdentity _)).and
    (Checked.inside _ (readTexts _))).and ((Checked.inside _ (readProperties _)).and _))) = _
  rw [readIdentity_ofInt?, readTexts_texts, readProperties_ofProperties]
  rfl

theorem Edge.ofFields_link (id start stop : Option Int) {type : String} (typed : trim type ≠ "")
    (properties : Properties) :
    ∃ edge, Edge.ofFields [("id", .ofInt? id), ("start_id", .ofInt? start), ("end_id", .ofInt? stop),
      ("relationship_type", .text type), ("properties", .ofProperties properties)] = .ok edge ∧
      edge.id = id ∧ edge.startId = start ∧ edge.endId = stop := by
  have readType : readRelationshipType (.text type) = .ok (trim type) := by
    have filled : type.length ≠ 0 := by
      rw [ne_eq, String.length_eq_zero_iff]
      rintro rfl
      exact typed rfl
    have name : readName (.text type) = .ok type := by
      show textLength (some 1) none type = .ok type
      simp [textLength, filled]
    unfold readRelationshipType
    rw [name]
    exact if_neg typed
  refine ⟨⟨id, start, stop, trim type, putAll [] properties, none, Edge.fieldNames⟩, ?_, rfl, rfl, rfl⟩
  show Result.ofChecked (Except.map _ ((((Checked.inside _ (readIdentity _)).and
    (Checked.inside _ (readIdentity _))).and ((Checked.inside _ (readIdentity _)).and
    (Checked.inside _ (readRelationshipType _)))).and (Checked.inside _ (readProperties _)))) = _
  rw [readIdentity_ofInt?, readIdentity_ofInt?, readIdentity_ofInt?, readType, readProperties_ofProperties]
  rfl

theorem recordOfNode_data (n : DriverNode) :
    SucceedsUnless n.Misleads (fun record => TakesIdentity n.element n.older record.id)
      (recordOfNode n.data) := by
  have made : SucceedsUnless (IsMisleading (idTail n.element) ∨ False)
      (fun record => TakesIdentity n.element n.older record.id) (recordOfNode n.data) := by
    refine (driverIdentity_text n.element n.older).bind ?_
    rintro _ ⟨id, rfl, taken⟩
    obtain ⟨record, made, rfl⟩ := Record.ofFields_node id n.labels n.properties
    exact made ▸ .ok taken
  rwa [or_false] at made

theorem endIdentity_data (n? : Option DriverNode) :
    SucceedsUnless (∃ n ∈ n?, n.Misleads) (fun v => ∃ id, v = .ofInt? id ∧ DriverNode.EndTakes n? id)
      (endIdentity (n?.map (·.data))) := by
  cases n? with
  | none =>
    refine ⟨nofun, fun _ => ?_⟩
    exact ⟨_, rfl, none, rfl, rfl⟩
  | some n =>
    have own : (∃ m ∈ some n, m.Misleads) ↔ IsMisleading (idTail n.element) := by
      simp [DriverNode.Misleads]
    rw [own]
    exact driverIdentity_text n.element n.older

theorem edgeOfLink_data (l : DriverLink) :
    SucceedsUnless l.Misleads (fun edge => TakesIdentity l.element l.older edge.id ∧
      DriverNode.EndTakes l.start edge.startId ∧ DriverNode.EndTakes l.stop edge.endId)
      (edgeOfLink l.data) := by
  have made : SucceedsUnless (IsMisleading (idTail l.element) ∨ (∃ n ∈ l.start, n.Misleads) ∨
      (∃ n ∈ l.stop, n.Misleads) ∨ False) (fun edge => TakesIdentity l.element l.older edge.id ∧
        DriverNode.EndTakes l.start edge.startId ∧ DriverNode.EndTakes l.stop edge.endId)
      (edgeOfLink l.data) := by
    refine (driverIdentity_text l.element l.older).bind ?_
    rintro _ ⟨id, rfl, taken⟩
    refine (endIdentity_data l.start).bind ?_
    rintro _ ⟨start, rfl, atStart⟩
    refine (endIdentity_data l.stop).bind ?_
    rintro _ ⟨stop, rfl, atStop⟩
    obtain ⟨edge, made, rfl, rfl, rfl⟩ := Edge.ofFields_link id start stop l.typed l.properties
    exact made ▸ .ok ⟨taken, atStart, atStop⟩
  rwa [or_false] at made

/-- The identity of a driver value is the number that is spelled behind the last colon of its element id,
if it is short, and the older identity where nothing there is taken for a number.  In the cases between the
two the element id, and each value that has it, is a wrong value. -/
theorem identity_falls_back (element : String) (n : DriverNode) (l : DriverLink) :
    (∀ id, parseIdentity (.text element) = .ok (.int id) ↔
      SpellsInteger (idTail element) id ∧ IsShort (idTail element)) ∧
    (parseIdentity (.text element) = .ok .null ↔ ¬ IsCounted (idTail element)) ∧
    ((∃ note, parseIdentity (.text element) = .error (.failure (.value note))) ↔
      IsMisleading (idTail element)) ∧
    SucceedsUnless n.Misleads (fun record => TakesIdentity n.element n.older record.id)
      (recordOfNode n.data) ∧
    SucceedsUnless l.Misleads
      (fun edge => TakesIdentity l.element l.older edge.id ∧
        DriverNode.EndTakes l.start edge.startId ∧ DriverNode.EndTakes l.stop edge.endId)
      (edgeOfLink l.data) :=
  ⟨fun _ => parseIdentity_eq_int_iff, parseIdentity_eq_null_iff, parseIdentity_eq_error_iff,
    recordOfNode_data n, edgeOfLink_data l⟩

/-- Behind the last colon are a second minus, and a digit that is no decimal one: neither is a number, and
neither is passed over for the older identity. -/
theorem identity_misleads :
    (∃ note, parseIdentity (.text "4:abc:--5") = .error (.failure (.value note))) ∧
    ∃ note, recordOfNode (DriverNode.data ⟨"4:abc:²", some 7, ["User"], []⟩) =
      .error (.failure (.value note)) := by
  constructor
  · refine parseIdentity_eq_error_iff.mpr ⟨2, ['5'], by decide +kernel, ⟨by simp, ?_⟩, .inl (by decide)⟩
    simp only [List.mem_singleton, forall_eq]
    decide
  · refine (recordOfNode_data _).1 ⟨0, ['²'], by decide +kernel, ⟨by simp, ?_⟩, .inr (.inl ⟨'²', by simp, ?_⟩)⟩
    · simp only [List.mem_singleton, forall_eq]
      decide +kernel
    · decide +kernel

end GraphQuery
