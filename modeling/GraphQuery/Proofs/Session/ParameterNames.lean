import GraphQuery.Proofs.Session.Prepared

/-! # Under which names parameters are sent

A parameter is not always sent under the key it was given under.  An identity reference loses its
parentheses, and a qualified name what stands before its point.  A numeral gives way to the columns of a
map that it stands for, and to a name with that number if it stands for anything else.  So different keys
may come to one name, and then the last of them is sent alone.

* `SentAs`, `Gives` : the names that keys have as parameters, and the parameters that an entry gives.
* `KeepApart` : no two keys come to one name; `keepApart_iff` : then the given names are distinct.
* `prepareParameters_keeps` : every parameter is sent as long as the keys keep apart, and not all of them
  if they do not. -/

namespace GraphQuery

open GraphQuery.Text

variable {k n pattern : String}

/-! ### Names of keys -/

/-- A text of digits. -/
def IsNumeral (s : String) : Prop := s ≠ "" ∧ ∀ c ∈ s.toList, isDigit c = true

theorem isNumericKey_iff : isNumericKey (.text k) = true ↔ IsNumeral k := by
  unfold isNumericKey IsNumeral
  rw [Bool.and_eq_true, List.all_eq_true, decide_eq_true_eq]

/-- How a key is sent: an identity reference without its parentheses, a qualified name without its owner,
and any other one as it is. -/
inductive SentAs : String → String → Prop
  | identity {k : String} : "id(".toList <+: k.toList → SentAs k (identityName k)
  | owned {owner name : String} : ¬ "id(".toList <+: (owner ++ "." ++ name).toList →
      '.' ∉ owner.toList → SentAs (owner ++ "." ++ name) name
  | plain {k : String} : ¬ "id(".toList <+: k.toList → '.' ∉ k.toList → SentAs k k

theorem isIdentityKey_iff (key : Value) :
    isIdentityKey key = true ↔ "id(".toList <+: key.plainText.toList := List.isPrefixOf_iff_prefix

theorem sentAs_parameterKey (key : Value) : SentAs key.plainText (parameterKey key) := by
  unfold parameterKey
  dsimp only
  split
  case isTrue reference => exact .identity ((isIdentityKey_iff key).mp reference)
  case isFalse other =>
    have bare := mt (isIdentityKey_iff key).mpr other
    split
    case h_1 owner name cut =>
      have spelled : key.plainText = String.ofList owner ++ "." ++ String.ofList name := by
        apply String.toList_inj.mp
        rw [append_of_splitAtFirst cut]
        simp
      rw [spelled] at bare ⊢
      exact .owned bare (by rw [String.toList_ofList]; exact not_mem_of_splitAtFirst cut)
    case h_2 whole =>
      refine .plain bare ?_
      rw [← splitAtFirst_isSome_iff, whole]
      exact Bool.false_ne_true

theorem SentAs.parameterKey_eq (sent : SentAs k n) : parameterKey (.text k) = n := by
  cases sent with
  | identity reference =>
    unfold parameterKey
    exact if_pos ((isIdentityKey_iff (.text k)).mpr reference)
  | @owned owner _ bare whole =>
    have cut : splitAtFirst '.' (owner ++ "." ++ n).toList = some (owner.toList, n.toList) := by
      have spelled : (owner ++ "." ++ n).toList = owner.toList ++ '.' :: n.toList := by simp
      rw [spelled, splitAtFirst_append whole]
    have text : (Value.text (owner ++ "." ++ n)).plainText = owner ++ "." ++ n := rfl
    unfold parameterKey
    dsimp only
    rw [if_neg (mt (isIdentityKey_iff (.text (owner ++ "." ++ n))).mp bare), text, cut]
    exact String.ofList_toList
  | plain bare whole =>
    have none : splitAtFirst '.' k.toList = none := by
      rw [← Option.not_isSome_iff_eq_none, splitAtFirst_isSome_iff]
      exact whole
    have text : (Value.text k).plainText = k := rfl
    unfold parameterKey
    dsimp only
    rw [if_neg (mt (isIdentityKey_iff (.text k)).mp bare), text, none]

theorem sentAs_iff {key : Value} : SentAs key.plainText n ↔ parameterKey key = n :=
  ⟨SentAs.parameterKey_eq, fun sent => sent ▸ sentAs_parameterKey key⟩

/-! ### Parameters of entries -/

/-- What an entry gives: a parameter under the name of its key, and if that is a numeral one for each
column of its map, or one with that number. -/
inductive Gives : String × Value → String × Value → Prop
  | named {k n : String} {v : Value} : ¬ IsNumeral k → SentAs k n → Gives (k, v) (n, v)
  | numbered {k : String} {v : Value} : IsNumeral k → v.entries? = none → Gives (k, v) ("param_" ++ k, v)
  | column {k n : String} {v : Value} {es : Row} {e : Value × Value} : IsNumeral k →
      v.entries? = some es → e ∈ es → SentAs e.1.plainText n → Gives (k, v) (n, e.2)

theorem entryParameters_named (h : ¬ IsNumeral k) (v : Value) : entryParameters pattern (.text k) v =
    [(parameterKey (.text k), prepareValue pattern v)] := if_neg (mt isNumericKey_iff.mp h)

theorem entryParameters_numbered (h : IsNumeral k) {v : Value} (single : v.entries? = none) :
    entryParameters pattern (.text k) v = [("param_" ++ k, prepareValue pattern v)] := by
  unfold entryParameters
  rw [if_pos (isNumericKey_iff.mpr h), single]
  rfl

theorem entryParameters_columns (h : IsNumeral k) {v : Value} {es : Row} (map : v.entries? = some es) :
    entryParameters pattern (.text k) v =
      es.map fun e => (parameterKey e.1, prepareValue pattern e.2) := by
  unfold entryParameters
  rw [if_pos (isNumericKey_iff.mpr h), map]
  rfl

/-- The parameters for an entry are those that it gives, with their values prepared. -/
theorem mem_entryParameters {q s : String × Value} : s ∈ entryParameters pattern (.text q.1) q.2 ↔
    ∃ x, Gives q (s.1, x) ∧ s.2 = prepareValue pattern x := by
  obtain ⟨k, v⟩ := q
  obtain ⟨n, w⟩ := s
  by_cases numeral : IsNumeral k
  · cases entries : v.entries? with
    | none =>
      rw [entryParameters_numbered numeral entries, List.mem_singleton, Prod.mk.injEq]
      constructor
      · rintro ⟨rfl, rfl⟩
        exact ⟨v, .numbered numeral entries, rfl⟩
      · rintro ⟨x, gives, rfl⟩
        cases gives with
        | named other => exact absurd numeral other
        | numbered => exact ⟨rfl, rfl⟩
        | column _ map => cases entries.symm.trans map
    | some es =>
      rw [entryParameters_columns numeral entries, List.mem_map]
      constructor
      · rintro ⟨e, member, same⟩
        obtain ⟨rfl, rfl⟩ := Prod.mk.inj same
        exact ⟨e.2, .column numeral entries member (sentAs_parameterKey e.1), rfl⟩
      · rintro ⟨x, gives, rfl⟩
        cases gives with
        | named other => exact absurd numeral other
        | numbered _ single => cases entries.symm.trans single
        | @column _ _ _ _ e _ map member sent =>
          obtain rfl := Option.some.inj (entries.symm.trans map)
          exact ⟨e, member, by rw [sentAs_iff.mp sent]⟩
  · rw [entryParameters_named numeral, List.mem_singleton, Prod.mk.injEq]
    constructor
    · rintro ⟨rfl, rfl⟩
      exact ⟨v, .named numeral (sentAs_parameterKey (.text k)), rfl⟩
    · rintro ⟨x, gives, rfl⟩
      cases gives with
      | named _ sent => exact ⟨sent.parameterKey_eq.symm, rfl⟩
      | numbered digits => exact absurd digits numeral
      | column digits => exact absurd digits numeral

/-! ### Keys that keep apart -/

/-- No two keys come to one name, nor do two columns of a map that a numeral stands for. -/
structure KeepApart (named : Properties) : Prop where
  keys : named.Pairwise fun q q' => ∀ n x x', Gives q (n, x) → ¬ Gives q' (n, x')
  columns : ∀ q ∈ named, IsNumeral q.1 → ∀ es, q.2.entries? = some es →
    es.Pairwise fun e e' => ∀ n, SentAs e.1.plainText n → ¬ SentAs e'.1.plainText n

/-- All parameters that are given, one after another. -/
def allParameters (pattern : String) (named : Properties) : Properties :=
  named.flatMap fun q => entryParameters pattern (.text q.1) q.2

theorem mem_allParameters {named : Properties} {s : String × Value} : s ∈ allParameters pattern named ↔
    ∃ q ∈ named, ∃ x, Gives q (s.1, x) ∧ s.2 = prepareValue pattern x := by
  unfold allParameters
  simp only [List.mem_flatMap, mem_entryParameters]

theorem mem_entryNames {q : String × Value} :
    n ∈ (entryParameters pattern (.text q.1) q.2).map Prod.fst ↔ ∃ x, Gives q (n, x) := by
  rw [List.mem_map]
  constructor
  · rintro ⟨s, member, rfl⟩
    obtain ⟨x, gives, -⟩ := mem_entryParameters.mp member
    exact ⟨x, gives⟩
  · rintro ⟨x, gives⟩
    exact ⟨(n, prepareValue pattern x), mem_entryParameters.mpr ⟨x, gives, rfl⟩, rfl⟩

/-- One entry gives one parameter, unless its key is a numeral that stands for a map. -/
theorem nodup_entryNames {q : String × Value} :
    ((entryParameters pattern (.text q.1) q.2).map Prod.fst).Nodup ↔
      (IsNumeral q.1 → ∀ es, q.2.entries? = some es →
        es.Pairwise fun e e' => ∀ n, SentAs e.1.plainText n → ¬ SentAs e'.1.plainText n) := by
  by_cases numeral : IsNumeral q.1
  · cases entries : q.2.entries? with
    | none => simp [entryParameters_numbered numeral entries]
    | some es =>
      have apart {e e' : Value × Value} : (∀ n, SentAs e.1.plainText n → ¬ SentAs e'.1.plainText n) ↔
          parameterKey e.1 ≠ parameterKey e'.1 := by
        simp only [sentAs_iff]
        exact ⟨fun h same => h _ same rfl, fun h n left right => h (left.trans right.symm)⟩
      rw [entryParameters_columns numeral entries, List.map_map, List.Nodup, List.pairwise_map]
      simp only [apart]
      exact ⟨fun h _ _ same => Option.some.inj same ▸ h, fun h => h numeral es rfl⟩
  · simp [entryParameters_named numeral, numeral]

/-- The given names are distinct exactly if the keys keep apart. -/
theorem keepApart_iff (pattern : String) {named : Properties} :
    KeepApart named ↔ ((allParameters pattern named).map Prod.fst).Nodup := by
  unfold allParameters
  rw [List.map_flatMap, List.nodup_flatMap]
  have disjoint {q q' : String × Value} : (∀ n x x', Gives q (n, x) → ¬ Gives q' (n, x')) ↔
      List.Disjoint ((entryParameters pattern (.text q.1) q.2).map Prod.fst)
        ((entryParameters pattern (.text q'.1) q'.2).map Prod.fst) := by
    constructor
    · intro apart n left right
      obtain ⟨x, gives⟩ := mem_entryNames.mp left
      obtain ⟨x', gives'⟩ := mem_entryNames.mp right
      exact apart n x x' gives gives'
    · intro apart n x x' gives gives'
      exact apart (mem_entryNames.mpr ⟨x, gives⟩) (mem_entryNames.mpr ⟨x', gives'⟩)
  constructor
  · intro apart
    exact ⟨fun q member => nodup_entryNames.mpr (apart.columns q member), apart.keys.imp disjoint.mp⟩
  · rintro ⟨each, keys⟩
    exact ⟨keys.imp disjoint.mpr, fun q member => nodup_entryNames.mp (each q member)⟩

/-! ### What is sent -/

theorem isTruthy_of_entries? {v : Value} {es : Row} (entries : v.entries? = some es) :
    v.isTruthy = !es.isEmpty := by
  cases v with
  | map fs mark =>
    obtain rfl := Option.some.inj entries
    rfl
  | node d =>
    obtain rfl := Option.some.inj entries
    simp [Value.isTruthy]
  | link l =>
    obtain rfl := Option.some.inj entries
    simp [Value.isTruthy]
  | _ => cases entries

theorem bindingEntries_eq {v : Value} {es : Row} (entries : v.entries? = some es) :
    bindingEntries v = .ok es := by
  cases v with
  | map fs mark => exact congrArg Except.ok (Option.some.inj entries)
  | node d => exact congrArg Except.ok (Option.some.inj entries)
  | link l => exact congrArg Except.ok (Option.some.inj entries)
  | _ => cases entries

theorem prepareParameters_entries {bindings : Value} {named : Properties}
    (entries : bindings.entries? = some (namedRow named)) :
    prepareParameters pattern bindings = .ok (putAll [] (allParameters pattern named)) := by
  unfold prepareParameters
  rw [isTruthy_of_entries? entries, bindingEntries_eq entries]
  cases named with
  | nil => rfl
  | cons q named =>
    show Except.ok (putAll [] ((namedRow (q :: named)).flatMap _)) = _
    rw [namedRow, List.flatMap_map]
    rfl

/-- Bindings under texts are sent under distinct names, each with the last value that is given for it.  All
that is given is sent as long as the keys keep apart, and something of it is overwritten if they do not. -/
theorem prepareParameters_keeps (pattern : String) {bindings : Value} {named : Properties}
    (entries : bindings.entries? = some (namedRow named)) :
    ∃ sent, prepareParameters pattern bindings = .ok sent ∧ (sent.map Prod.fst).Nodup ∧
      (∀ s, s ∈ allParameters pattern named ↔
        ∃ q ∈ named, ∃ x, Gives q (s.1, x) ∧ s.2 = prepareValue pattern x) ∧
      (∀ n v, (n, v) ∈ sent ↔ lookup? n (allParameters pattern named).reverse = some v) ∧
      (KeepApart named → sent = allParameters pattern named) ∧
      (¬ KeepApart named → sent.length < (allParameters pattern named).length) := by
  refine ⟨_, prepareParameters_entries entries, nodup_putAll _, fun s => mem_allParameters,
    fun n v => ?_, fun apart => ?_, fun together => ?_⟩
  · rw [← lookup?_putAll, lookup?_eq_some_iff (nodup_putAll _)]
  · have distinct := (keepApart_iff pattern).mp apart
    exact putAll_nil distinct
  · exact length_putAll_lt (mt (keepApart_iff pattern).mpr together)

/-- Keys of every kind that keep apart. -/
theorem prepareParameters_keeps_mixed :
    let named : Properties := [("user.name", .text "jd"), ("0", .ofProperties [("email", .text "jd@x.io")]),
      ("1", .int 5), ("id(user)", .int 4)]
    (Value.ofProperties named).entries? = some (namedRow named) ∧
      prepareParameters standardPattern (.ofProperties named) = .ok [("name", .text "jd"),
        ("email", .text "jd@x.io"), ("param_1", .int 5), ("iduser", .int 4)] ∧ KeepApart named := by
  intro named
  have entries : (Value.ofProperties named).entries? = some (namedRow named) := rfl
  have all : allParameters standardPattern named = [("name", .text "jd"), ("email", .text "jd@x.io"),
      ("param_1", .int 5), ("iduser", .int 4)] := by rfl
  have apart : KeepApart named := by
    refine (keepApart_iff standardPattern).mpr ?_
    rw [all]
    decide
  obtain ⟨sent, made, -, -, -, kept, -⟩ := prepareParameters_keeps standardPattern entries
  exact ⟨entries, made.trans (congrArg Except.ok ((kept apart).trans all)), apart⟩

/-- Names of two nodes, a numeral beside the name with its number, and an identity reference beside its
name: of each two values one is sent. -/
theorem prepareParameters_overwrites :
    prepareParameters standardPattern
        (.ofProperties [("user.name", .text "Ann"), ("post.name", .text "Hello")]) =
      .ok [("name", .text "Hello")] ∧
    prepareParameters standardPattern (.ofProperties [("0", .int 1), ("param_0", .int 2)]) =
      .ok [("param_0", .int 2)] ∧
    prepareParameters standardPattern (.ofProperties [("id(user)", .int 1), ("iduser", .int 2)]) =
      .ok [("iduser", .int 2)] := by
  refine ⟨?_, ?_, ?_⟩ <;> rfl

end GraphQuery
