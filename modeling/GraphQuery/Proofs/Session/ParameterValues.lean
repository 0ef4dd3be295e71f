import GraphQuery.Proofs.Session.ParameterNames
import GraphQuery.Proofs.Value.Places

/-! # What parameters are sent as

A driver takes scalars, lists, and maps with texts for keys.  Dates are sent as texts, and tuples and sets
as lists, wherever they stand in a value.

* `Value.IsBindable`, `Value.IsSendable` : what values consist of before and after.
* `Prepared` : what becomes of a value apart from its parts, and `PreparedFrom` : of all that is in it.
* `at?_prepareValue` : preparing a value prepares what stands at each place.
* `prepareValue_sendable`, `SentAs.sentAs_self` : a second time neither a value nor its name changes.
* `Binds` : the values that are bound under names, in one map or in a list of maps.
* `prepareParameters_sendable` : so it is for all that is bound under plain names. -/

namespace GraphQuery

open GraphQuery.Text

variable {k n pattern : String} {v w : Value}

/-! ### Values -/

namespace Value

/-- What a value that can be bound consists of: scalars, dates, lists, tuples, sets, and maps with texts for
keys. -/
inductive IsBindable : Value → Prop
  | scalar {v : Value} : v.IsScalar → IsBindable v
  | date (d : Date) : IsBindable (.date d)
  | moment (m : Moment) : IsBindable (.moment m)
  | list (xs : List Value) (mark : Option Nat) : IsBindable (.list xs mark)
  | tuple (xs : List Value) : IsBindable (.tuple xs)
  | set (xs : List Value) : IsBindable (.set xs)
  | map {es : Row} (mark : Option Nat) : HasTextKeys es → IsBindable (.map es mark)

/-- What a value that is sent consists of: scalars, new lists, and new maps with texts for keys. -/
inductive IsSendable : Value → Prop
  | scalar {v : Value} : v.IsScalar → IsSendable v
  | list (xs : List Value) : IsSendable (.ofList xs)
  | map {es : Row} : HasTextKeys es → IsSendable (.ofPairs es)

end Value

/-- What a value is sent as, apart from its parts. -/
inductive Prepared (pattern : String) : Value → Value → Prop
  | scalar {v : Value} : v.IsScalar → Prepared pattern v v
  | date (d : Date) : Prepared pattern (.date d) (.text (d.format pattern))
  | moment (m : Moment) : Prepared pattern (.moment m) (.text (m.format pattern))
  | list {xs ys : List Value} {mark : Option Nat} : ys.length = xs.length →
      Prepared pattern (.list xs mark) (.ofList ys)
  | tuple {xs ys : List Value} : ys.length = xs.length → Prepared pattern (.tuple xs) (.ofList ys)
  | set {xs ys : List Value} : ys.length = xs.length → Prepared pattern (.set xs) (.ofList ys)
  | map {es fs : Row} {mark : Option Nat} : fs.map Prod.fst = es.map Prod.fst →
      Prepared pattern (.map es mark) (.ofPairs fs)

/-- A value is sent as another one if all that is in it is, place by place. -/
def PreparedFrom (pattern : String) (v w : Value) : Prop :=
  ∀ place, Option.Rel (Prepared pattern) (v.at? place) (w.at? place)

theorem prepareValues_eq_map : ∀ vs, prepareValues pattern vs = vs.map (prepareValue pattern)
  | [] => rfl
  | v :: vs => by rw [prepareValues, prepareValues_eq_map vs, List.map_cons]

theorem prepareEntries_eq_map :
    ∀ es, prepareEntries pattern es = es.map fun e => (e.1, prepareValue pattern e.2)
  | [] => rfl
  | (k, v) :: es => by rw [prepareEntries, prepareEntries_eq_map es, List.map_cons]

theorem prepareValue_scalar (h : v.IsScalar) : prepareValue pattern v = v := by
  cases v with
  | null | bool | int | double | text | bytes | clock => rw [prepareValue] <;> nofun
  | _ => cases h

theorem parts_prepareValue (h : v.IsBindable) :
    (prepareValue pattern v).parts = v.parts.map (prepareValue pattern) := by
  cases h with
  | scalar scalar => rw [prepareValue_scalar scalar, Value.parts_of_isScalar scalar, List.map_nil]
  | date | moment => rw [prepareValue]; rfl
  | list | tuple | set => rw [prepareValue, prepareValues_eq_map]; rfl
  | @map es =>
    rw [prepareValue, prepareEntries_eq_map]
    show (es.map _).map Prod.snd = (es.map Prod.snd).map _
    rw [List.map_map, List.map_map]
    rfl

theorem prepared_prepareValue (h : v.IsBindable) : Prepared pattern v (prepareValue pattern v) := by
  cases h with
  | scalar scalar => rw [prepareValue_scalar scalar]; exact .scalar scalar
  | date d => rw [prepareValue]; exact .date d
  | moment m => rw [prepareValue]; exact .moment m
  | list => rw [prepareValue, prepareValues_eq_map]; exact .list (List.length_map _)
  | tuple => rw [prepareValue, prepareValues_eq_map]; exact .tuple (List.length_map _)
  | set => rw [prepareValue, prepareValues_eq_map]; exact .set (List.length_map _)
  | map => rw [prepareValue, prepareEntries_eq_map]; exact .map List.map_map

/-- Preparing a value prepares what stands at each place. -/
theorem at?_prepareValue : ∀ (place : List Nat) {v : Value}, v.Throughout Value.IsBindable →
    (prepareValue pattern v).at? place = (v.at? place).map (prepareValue pattern)
  | [], _, _ => rfl
  | i :: place, v, h => by
    obtain ⟨own, parts⟩ := Value.throughout_iff.mp h
    rw [Value.at?, Value.at?, parts_prepareValue own, List.getElem?_map]
    cases here : v.parts[i]? with
    | none => rfl
    | some x => exact at?_prepareValue place (parts x (List.mem_of_getElem? here))

theorem preparedFrom_prepareValue (h : v.Throughout Value.IsBindable) :
    PreparedFrom pattern v (prepareValue pattern v) := by
  intro place
  rw [at?_prepareValue place h]
  cases here : v.at? place with
  | none => exact .none
  | some x => exact .some (prepared_prepareValue (h place x here))

theorem Prepared.isSendable (prepared : Prepared pattern v w) (h : v.IsBindable) : w.IsSendable := by
  cases prepared with
  | scalar scalar => exact .scalar scalar
  | date | moment => exact .scalar trivial
  | list | tuple | set => exact .list _
  | map keys =>
    cases h with
    | scalar scalar => cases scalar
    | map _ texts => exact .map (by rwa [Value.HasTextKeys, keys])

/-- There are no dates, tuples and sets in what a value is sent as. -/
theorem PreparedFrom.throughout (prepared : PreparedFrom pattern v w) (h : v.Throughout Value.IsBindable) :
    w.Throughout Value.IsSendable := by
  intro place y found
  have related := prepared place
  rw [found] at related
  cases before : v.at? place with
  | none =>
    rw [before] at related
    cases related
  | some x =>
    rw [before] at related
    cases related with
    | some here => exact here.isSendable (h place x before)

theorem prepareValue_sendable (h : v.Throughout Value.IsSendable) : prepareValue pattern v = v := by
  induction v using Value.parts_induction with
  | step v ih =>
    obtain ⟨own, parts⟩ := Value.throughout_iff.mp h
    have same : ∀ x ∈ v.parts, prepareValue pattern x = x := fun x member => ih x member (parts x member)
    cases own with
    | scalar scalar => exact prepareValue_scalar scalar
    | list xs =>
      rw [Value.ofList, prepareValue, prepareValues_eq_map]
      exact congrArg Value.ofList ((List.map_congr_left same).trans (List.map_id xs))
    | @map es =>
      rw [Value.ofPairs, prepareValue, prepareEntries_eq_map]
      refine congrArg Value.ofPairs (Eq.trans (List.map_congr_left fun e member => ?_) (List.map_id es))
      exact Prod.ext rfl (same e.2 (List.mem_map_of_mem member))

/-! ### Plain names -/

/-- A name that is neither a numeral nor qualified. -/
structure IsPlainName (k : String) : Prop where
  word : ¬ IsNumeral k
  whole : '.' ∉ k.toList

/-- Without its parentheses an identity reference is no reference any more. -/
theorem identityName_plain (reference : "id(".toList <+: k.toList) (whole : '.' ∉ k.toList) :
    IsPlainName (identityName k) ∧ ¬ "id(".toList <+: (identityName k).toList := by
  have kept {c : Char} : c ∈ (identityName k).toList ↔
      c ∈ k.toList ∧ isBlank c = false ∧ c ≠ '(' ∧ c ≠ ')' := by
    simp only [identityName, dropBlanks, String.toList_ofList, List.mem_filter, Bool.not_eq_true',
      decide_eq_true_eq, and_assoc]
  have letter : 'i' ∈ (identityName k).toList := kept.mpr ⟨reference.subset (by decide), by decide⟩
  refine ⟨⟨fun numeral => ?_, fun point => whole (kept.mp point).1⟩, fun still => ?_⟩
  · exact absurd (numeral.2 _ letter) (by decide)
  · exact (kept.mp (still.subset (by decide : '(' ∈ "id(".toList))).2.2.1 rfl

/-- The name that a plain name is sent under is a plain one, which is sent as it is. -/
theorem SentAs.sentAs_self (plain : IsPlainName k) (sent : SentAs k n) : IsPlainName n ∧ SentAs n n := by
  cases sent with
  | identity reference =>
    obtain ⟨name, other⟩ := identityName_plain reference plain.whole
    exact ⟨name, .plain other name.whole⟩
  | owned => exact absurd (by simp) plain.whole
  | plain bare whole => exact ⟨plain, .plain bare whole⟩

/-! ### Bindings -/

/-- What is bound under names: in one map, or in a list of maps one after another. -/
inductive Binds : Value → Properties → Prop
  | map {v : Value} {named : Properties} : v.entries? = some (namedRow named) → Binds v named
  | list {xs : List Value} {mark : Option Nat} {tables : List Properties} :
      List.Forall₂ (fun x table => x.entries? = some (namedRow table)) xs tables →
      Binds (.list xs mark) tables.flatten
  | tuple {xs : List Value} {tables : List Properties} :
      List.Forall₂ (fun x table => x.entries? = some (namedRow table)) xs tables →
      Binds (.tuple xs) tables.flatten

/-- The parameters for values that are bound under names. -/
def namedParameters (pattern : String) (named : Properties) : Properties :=
  named.map fun q => (parameterKey (.text q.1), prepareValue pattern q.2)

theorem allParameters_eq {named : Properties} (words : ∀ q ∈ named, ¬ IsNumeral q.1) :
    allParameters pattern named = namedParameters pattern named := by
  unfold allParameters namedParameters
  rw [List.map_eq_flatMap]
  exact List.flatMap_congr fun q member => entryParameters_named (words q member) q.2

theorem numberedParameters_eq {xs : List Value} {tables : List Properties}
    (maps : List.Forall₂ (fun x table => x.entries? = some (namedRow table)) xs tables) (start : Nat) :
    (numberedFrom start xs).flatMap (fun e => entryParameters pattern e.1 e.2) =
      namedParameters pattern tables.flatten := by
  induction maps generalizing start with
  | nil => rfl
  | @cons x table xs tables map _ ih =>
    have own : entryParameters pattern (.int start) x = namedParameters pattern table := by
      unfold entryParameters
      rw [map]
      exact List.map_map
    rw [numberedFrom, List.flatMap_cons, own, ih, List.flatten_cons]
    exact List.map_append.symm

theorem prepareParameters_binds {bindings : Value} {named : Properties} (bound : Binds bindings named)
    (words : ∀ q ∈ named, ¬ IsNumeral q.1) :
    prepareParameters pattern bindings = .ok (putAll [] (namedParameters pattern named)) := by
  cases bound with
  | map entries => rw [prepareParameters_entries entries, allParameters_eq words]
  | list maps | tuple maps =>
    -- the maps stand under numbers, which give way to their columns
    rw [← numberedParameters_eq maps 0]
    cases maps <;> rfl

/-- The value that is bound under a key for a name while no later key comes to it. -/
def LastFor (named : Properties) (n : String) (v : Value) : Prop :=
  ∃ before k after, named = before ++ (k, v) :: after ∧ SentAs k n ∧ ∀ q ∈ after, ¬ SentAs q.1 n

theorem lookup?_putAll_namedParameters {named : Properties} (last : LastFor named n v) :
    lookup? n (putAll [] (namedParameters pattern named)) = some (prepareValue pattern v) := by
  obtain ⟨before, k, after, rfl, sent, others⟩ := last
  have later : n ∉ ((namedParameters pattern after).reverse).map Prod.fst := by
    rw [List.map_reverse, List.mem_reverse]
    unfold namedParameters
    rw [List.map_map, List.mem_map]
    rintro ⟨q, member, same⟩
    exact others q member (sentAs_iff.mpr same)
  have split : namedParameters pattern (before ++ (k, v) :: after) =
      namedParameters pattern before ++ (n, prepareValue pattern v) :: namedParameters pattern after := by
    unfold namedParameters
    rw [List.map_append, List.map_cons, sent.parameterKey_eq]
  rw [lookup?_putAll, split, List.reverse_append, List.reverse_cons, List.append_assoc, lookup?_append later,
    List.singleton_append, lookup?, if_pos rfl]

/-- Whether a parameter is sent under its own name as what it is. -/
structure IsSettled (s : String × Value) : Prop where
  name : IsPlainName s.1
  same : SentAs s.1 s.1
  value : s.2.Throughout Value.IsSendable

theorem isSettled_of_mem (pattern : String) {named : Properties} (plain : ∀ q ∈ named, IsPlainName q.1)
    (bindable : ∀ q ∈ named, q.2.Throughout Value.IsBindable) :
    ∀ s ∈ putAll [] (namedParameters pattern named), IsSettled s := by
  intro s member
  obtain ⟨q, given, rfl⟩ := List.mem_map.mp (mem_of_mem_putAll member)
  obtain ⟨name, same⟩ := (sentAs_parameterKey (.text q.1)).sentAs_self (plain q given)
  exact ⟨name, same, (preparedFrom_prepareValue (bindable q given)).throughout (bindable q given)⟩

theorem prepareParameters_settled {sent : Properties} (settled : ∀ s ∈ sent, IsSettled s)
    (distinct : (sent.map Prod.fst).Nodup) : prepareParameters pattern (.ofProperties sent) = .ok sent := by
  have again : namedParameters pattern sent = sent := by
    refine (List.map_congr_left fun s member => ?_).trans (List.map_id sent)
    exact Prod.ext (settled s member).same.parameterKey_eq (prepareValue_sendable (settled s member).value)
  rw [prepareParameters_binds (.map rfl) fun s member => (settled s member).name.word, again,
    putAll_nil distinct]

/-- What is bound under plain names is sent in a form that a driver accepts.  All that was in it is there at
its place, and preparing the parameters once more changes nothing. -/
theorem prepareParameters_sendable (pattern : String) {bindings : Value} {named : Properties}
    (bound : Binds bindings named) (plain : ∀ q ∈ named, IsPlainName q.1)
    (bindable : ∀ q ∈ named, q.2.Throughout Value.IsBindable) :
    ∃ sent, prepareParameters pattern bindings = .ok sent ∧
      (∀ n v, LastFor named n v → ∃ w, lookup? n sent = some w ∧ PreparedFrom pattern v w) ∧
      (∀ s ∈ sent, s.2.Throughout Value.IsSendable) ∧
      prepareParameters pattern (.ofProperties sent) = .ok sent := by
  have settled := isSettled_of_mem pattern plain bindable
  refine ⟨_, prepareParameters_binds bound fun q member => (plain q member).word, fun n v last => ?_,
    fun s member => (settled s member).value, prepareParameters_settled settled (nodup_putAll _)⟩
  refine ⟨_, lookup?_putAll_namedParameters last, preparedFrom_prepareValue ?_⟩
  obtain ⟨before, k, after, rfl, -, -⟩ := last
  exact bindable (k, v) (List.mem_append_right _ List.mem_cons_self)

/-- A day in a tuple, and a moment in a set, in a map, in that tuple. -/
theorem prepareParameters_sendable_nested :
    let day : Date := ⟨2024, 2, 3⟩
    let visits : Value := .tuple [.date day,
      .ofPairs [(.text "at", .set [.moment ⟨day, ⟨4, 5, 6, 0, none⟩⟩]), (.text "count", .int 1)]]
    let sent : Properties := [("visits", .ofList [.text "2024-02-03 00:00:00",
      .ofPairs [(.text "at", .ofList [.text "2024-02-03 04:05:06"]), (.text "count", .int 1)]])]
    Binds (.ofList [.ofProperties [("visits", visits)]]) [("visits", visits)] ∧ IsPlainName "visits" ∧
      visits.Throughout Value.IsBindable ∧
      prepareParameters standardPattern (.ofList [.ofProperties [("visits", visits)]]) = .ok sent ∧
      prepareParameters standardPattern (.ofProperties sent) = .ok sent := by
  intro day visits sent
  have bound : Binds (.ofList [.ofProperties [("visits", visits)]]) [("visits", visits)] :=
    .list (.cons (b := [("visits", visits)]) rfl .nil)
  have plain : IsPlainName "visits" := by
    refine ⟨fun numeral => ?_, by decide⟩
    exact absurd (numeral.2 'v' (by decide)) (by decide)
  have bindable : visits.Throughout Value.IsBindable := by
    have texts : Value.HasTextKeys [(.text "at", .set [.moment ⟨day, ⟨4, 5, 6, 0, none⟩⟩]),
        (.text "count", .int 1)] :=
      List.forall_mem_cons.mpr ⟨⟨"at", rfl⟩, List.forall_mem_singleton.mpr ⟨"count", rfl⟩⟩
    refine Value.throughout_iff.mpr ⟨.tuple _, List.forall_mem_cons.mpr ⟨?_, ?_⟩⟩
    · exact Value.throughout_leaf (.date day) rfl
    refine List.forall_mem_singleton.mpr (Value.throughout_iff.mpr ⟨.map none texts, ?_⟩)
    refine List.forall_mem_cons.mpr ⟨Value.throughout_iff.mpr ⟨.set _, ?_⟩, ?_⟩
    · exact List.forall_mem_singleton.mpr (Value.throughout_leaf (.moment _) rfl)
    · exact List.forall_mem_singleton.mpr (Value.throughout_leaf (.scalar trivial) rfl)
  have dates : Date.format standardPattern day = "2024-02-03 00:00:00" ∧
      Moment.format standardPattern ⟨day, ⟨4, 5, 6, 0, none⟩⟩ = "2024-02-03 04:05:06" := by decide +kernel
  have made : prepareParameters standardPattern (.ofList [.ofProperties [("visits", visits)]]) =
      .ok sent := by
    have key : parameterKey (.text "visits") = "visits" := by rfl
    rw [prepareParameters_binds bound (List.forall_mem_singleton.mpr plain.word)]
    simp only [sent, ← dates.1, ← dates.2, namedParameters, List.map_singleton, key]
    rfl
  obtain ⟨sent', made', -, -, again⟩ := prepareParameters_sendable standardPattern bound
    (List.forall_mem_singleton.mpr plain) (List.forall_mem_singleton.mpr bindable)
  obtain rfl := Except.ok.inj (made'.symm.trans made)
  exact ⟨bound, plain, bindable, made', again⟩

end GraphQuery
