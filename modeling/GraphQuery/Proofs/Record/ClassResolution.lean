import GraphQuery.Proofs.Record.RowRecords
import Mathlib.Data.List.Sort

/-! # The class for a set of labels

Classes are added to a registry one after another, and can be given other labels.  Labels lead to a class
in two ways: if there are classes with exactly these labels the first of them is taken, and otherwise the
first label that some class has decides.

* `Registry.Built` : registries that come about in this way.  `Built.registered_eq` : their classes are
  gone through in the order of their definition.
* `Built.fitting?_earliest` : of the classes with exactly the given labels the first one is found.
* `Built.forLabels?_gains` : a further class changes nothing, or it is what is found then.
* `recordOfNode_labels` : a record has the labels of its node in their order, whatever order the node had
  them in.
* `Built.forLabels?_stable` : what labels lead to is stable. -/

namespace GraphQuery

open GraphQuery.Text

/-! ### Names in order -/

theorem mem_insertName {s t : String} : ∀ {names : List String},
    t ∈ insertName s names ↔ t = s ∨ t ∈ names
  | [] => by simp [insertName]
  | u :: names => by
    rw [insertName]
    split
    case isTrue => simp
    case isFalse =>
      split
      case isTrue same => simp [same]
      case isFalse => rw [List.mem_cons, mem_insertName, List.mem_cons, or_left_comm]

theorem insertName_ordered {s : String} : ∀ {names : List String}, names.Pairwise (· < ·) →
    (insertName s names).Pairwise (· < ·)
  | [], _ => List.pairwise_singleton ..
  | u :: names, ordered => by
    obtain ⟨least, rest⟩ := List.pairwise_cons.mp ordered
    rw [insertName]
    split
    case isTrue before =>
      refine List.pairwise_cons.mpr ⟨fun t member => ?_, ordered⟩
      rcases List.mem_cons.mp member with rfl | member
      · exact before
      · exact String.lt_trans before (least t member)
    case isFalse notBefore =>
      split
      case isTrue => exact ordered
      case isFalse other =>
        refine List.pairwise_cons.mpr ⟨fun t member => ?_, insertName_ordered rest⟩
        rcases mem_insertName.mp member with rfl | member
        · exact Std.lt_of_le_of_ne (String.not_lt.mp notBefore) (Ne.symm other)
        · exact least t member

theorem sortedNames_append (names : List String) (s : String) :
    sortedNames (names ++ [s]) = insertName s (sortedNames names) := by
  unfold sortedNames
  rw [List.foldl_append]
  rfl

theorem mem_sortedNames {s : String} {names : List String} : s ∈ sortedNames names ↔ s ∈ names := by
  induction names using List.reverseRecOn with
  | nil => rfl
  | append_singleton names t ih =>
    rw [sortedNames_append, mem_insertName, ih, List.mem_append, List.mem_singleton, or_comm]

theorem sortedNames_ordered (names : List String) : (sortedNames names).Pairwise (· < ·) := by
  induction names using List.reverseRecOn with
  | nil => exact .nil
  | append_singleton names t ih =>
    rw [sortedNames_append]
    exact insertName_ordered ih

theorem sortedNames_congr {names others : List String} (same : ∀ s, s ∈ names ↔ s ∈ others) :
    sortedNames names = sortedNames others := by
  refine (sortedNames_ordered names).eq_of_mem_iff (sortedNames_ordered others) fun s => ?_
  rw [mem_sortedNames, mem_sortedNames, same]

/-! ### The labels of a record -/

theorem mapM_text? (names : List String) : (names.map Value.text).mapM (·.text?) = some names := by
  induction names with
  | nil => rfl
  | cons s names ih =>
    rw [List.map_cons, List.mapM_cons, ih]
    rfl

theorem eachFrom_readText : ∀ (names : List String) (i : Nat),
    Checked.eachFrom Schema.readText i (names.map .text) = .ok names
  | [], _ => rfl
  | s :: names, i => by
    rw [List.map_cons, Checked.eachFrom, eachFrom_readText names]
    rfl

theorem readTexts_texts (names : List String) :
    Schema.readTexts (.ofList (names.map .text)) = .ok names := eachFrom_readText names 0

theorem givenLabels_set (names : List String) :
    givenLabels (.set (names.map .text)) = .ok (.ofList ((sortedNames names).map .text)) := by
  have ordered : orderedLabels (names.map .text) = (sortedNames names).map .text := by
    unfold orderedLabels
    rw [mapM_text?]
  rw [givenLabels, ordered]

theorem recordOfNode_labels {n : NodeData Value} {record : Record}
    (made : recordOfNode n = .ok record) : record.labels = sortedNames n.labels := by
  obtain ⟨id, -, made⟩ := Result.bind_eq_ok made
  obtain ⟨fields, coerced, made⟩ := Result.bind_eq_ok made
  obtain ⟨labels, given, coerced⟩ := Result.bind_eq_ok coerced
  obtain rfl := Except.ok.inj ((givenLabels_set n.labels).symm.trans given)
  obtain rfl := Except.ok.inj coerced
  obtain ⟨parts, checked, rfl⟩ := Checked.map_eq_ok (Result.ofChecked_eq_ok made)
  have read := Checked.inside_eq_ok (Checked.and_eq_ok (Checked.and_eq_ok checked).1).2
  exact (Except.ok.inj ((readTexts_texts _).symm.trans read)).symm

namespace Registry

/-! ### Registries -/

/-- A registry to which classes were added one after another, and in which some were given other
labels. -/
inductive Built : Registry → Prop
  | empty : Built empty
  | define {r : Registry} (name : String) (base : Option ClassId) (fields : List Schema.Field)
      (labels : Option (List String)) : Built r →
      Built (r.define name base fields (labels.map (·.map .text))).2
  | relabel {r : Registry} (id : ClassId) (labels : List String) : Built r →
      Built (r.relabel id (labels.map .text))

/-- A class that can be found, with its labels. -/
def Labelled (r : Registry) (c : EntityClass) (labels : List String) : Prop :=
  c ∈ r.classes ∧ c.isRegistered = true ∧ c.labels = some (labels.map .text)

/-- A class whose labels are the given ones, in any order and any number of times. -/
def IsExact (r : Registry) (labels : List String) (c : EntityClass) : Prop :=
  ∃ own, r.Labelled c own ∧ ∀ s, s ∈ own ↔ s ∈ labels

/-- What holds of the classes of a registry: they are numbered and ranked by their places, and each that
can be found has labels of its own. -/
structure Orderly (r : Registry) : Prop where
  numbers : r.classes.map (·.id.index) = List.range r.classes.length
  ranks : ∀ c ∈ r.classes, c.rank = firstRank + c.id.index
  labelled : ∀ c ∈ r.classes, c.isRegistered = true → ∃ labels, r.Labelled c labels

variable {r : Registry}

theorem orderly_empty : Orderly empty where
  numbers := rfl
  ranks _ member := absurd member List.not_mem_nil
  labelled _ member := absurd member List.not_mem_nil

theorem Orderly.define (h : r.Orderly) (name : String) (base : Option ClassId)
    (fields : List Schema.Field) (labels : Option (List String)) :
    (r.define name base fields (labels.map (·.map .text))).2.Orderly := by
  let c := (r.define name base fields (labels.map (·.map .text))).1
  have classes : (r.define name base fields (labels.map (·.map .text))).2.classes = r.classes ++ [c] := rfl
  refine ⟨?_, fun d member => ?_, fun d member found => ?_⟩
  · rw [classes, List.map_append, h.numbers, List.length_append, List.length_singleton, List.range_succ]
    rfl
  · rcases List.mem_append.mp (classes ▸ member) with old | new
    · exact h.ranks d old
    · obtain rfl := List.mem_singleton.mp new
      rfl
  · rcases List.mem_append.mp (classes ▸ member) with old | new
    · obtain ⟨own, -, -, labels⟩ := h.labelled d old found
      exact ⟨own, member, found, labels⟩
    · obtain rfl := List.mem_singleton.mp new
      refine ⟨labels.getD [name], member, found, ?_⟩
      have other : (name == rootClassName) = false := by simpa [c, Registry.define] using found
      cases labels <;> simp [c, Registry.define, other]

theorem Orderly.relabel (h : r.Orderly) (id : ClassId) (labels : List String) :
    (r.relabel id (labels.map .text)).Orderly := by
  have classes (f : EntityClass → Nat)
      (kept : ∀ c, f { c with labels := some (labels.map .text) } = f c) :
      (r.relabel id (labels.map .text)).classes.map f = r.classes.map f := by
    show (r.classes.map _).map f = _
    rw [List.map_map]
    refine List.map_congr_left fun c _ => ?_
    show f (if c.id = id then _ else c) = f c
    split
    · exact kept c
    · rfl
  refine ⟨?_, fun d member => ?_, fun d member found => ?_⟩
  · rw [classes (·.id.index) fun _ => rfl, h.numbers]
    show List.range _ = List.range (r.classes.map _).length
    rw [List.length_map]
  · obtain ⟨c, old, rfl⟩ := List.mem_map.mp member
    split
    · exact h.ranks c old
    · exact h.ranks c old
  · obtain ⟨c, old, rfl⟩ := List.mem_map.mp member
    split at found
    case isTrue own =>
      rw [if_pos own] at member
      rw [if_pos own]
      exact ⟨labels, member, found, rfl⟩
    case isFalse other =>
      rw [if_neg other] at member
      rw [if_neg other]
      obtain ⟨kept, -, -, same⟩ := h.labelled c old found
      exact ⟨kept, member, found, same⟩

theorem Built.isOrderly (built : r.Built) : r.Orderly := by
  induction built with
  | empty => exact orderly_empty
  | define name base fields labels _ ih => exact ih.define name base fields labels
  | relabel id labels _ ih => exact ih.relabel id labels

theorem Orderly.increasing (h : r.Orderly) : r.classes.Pairwise (·.id.index < ·.id.index) := by
  refine List.pairwise_map.mp ?_
  rw [h.numbers]
  exact List.pairwise_lt_range

theorem Orderly.find?_eq (h : r.Orderly) {c : EntityClass} (member : c ∈ r.classes) :
    r.find? c.id = some c := by
  obtain ⟨before, after, split⟩ := List.append_of_mem member
  have increasing := h.increasing
  unfold Registry.find?
  rw [split] at increasing ⊢
  refine List.find?_eq_some_iff_append.mpr ⟨beq_self_eq_true _, before, after, rfl, fun d earlier => ?_⟩
  have less := (List.pairwise_append.mp increasing).2.2 d earlier c List.mem_cons_self
  have different : d.id ≠ c.id := fun same => absurd (congrArg ClassId.index same) (Nat.ne_of_lt less)
  simpa using different

theorem Orderly.labels?_eq (h : r.Orderly) {c : EntityClass} {labels : List String}
    (own : r.Labelled c labels) : r.labels? c.id = some (labels.map .text) := by
  obtain ⟨depth, size⟩ : ∃ depth, r.classes.length = depth + 1 :=
    Nat.exists_eq_succ_of_ne_zero (List.length_pos_of_mem own.1).ne'
  unfold labels?
  rw [size, labelsUp, h.find?_eq own.1]
  dsimp only
  rw [own.2.2]

/-- The classes of a registry are gone through in the order of their definition, each with its labels. -/
theorem Built.registered_eq (built : r.Built) : r.registered =
    (r.classes.filter (·.isRegistered)).map fun c => (c, c.labels.getD []) := by
  have h := built.isOrderly
  have ranked : (r.classes.filter (·.isRegistered)).Pairwise fun c d => decide (c.rank ≤ d.rank) = true := by
    refine (h.increasing.imp_of_mem fun {c d} left right less => ?_).filter _
    rw [decide_eq_true_eq, h.ranks c left, h.ranks d right]
    omega
  unfold registered
  rw [List.mergeSort_of_pairwise ranked]
  refine List.map_congr_left fun c member => ?_
  obtain ⟨member, found⟩ := List.mem_filter.mp member
  obtain ⟨labels, own⟩ := h.labelled c member found
  rw [h.labels?_eq own, own.2.2]

theorem Built.mem_registered (built : r.Built) {p : EntityClass × List Value} :
    p ∈ r.registered ↔ ∃ labels : List String, r.Labelled p.1 labels ∧ p.2 = labels.map .text := by
  rw [built.registered_eq, List.mem_map]
  constructor
  · rintro ⟨c, member, rfl⟩
    obtain ⟨member, found⟩ := List.mem_filter.mp member
    obtain ⟨labels, own⟩ := built.isOrderly.labelled c member found
    exact ⟨labels, own, by rw [own.2.2, Option.getD_some]⟩
  · rintro ⟨labels, own, same⟩
    refine ⟨p.1, List.mem_filter.mpr ⟨own.1, own.2.1⟩, ?_⟩
    rw [own.2.2, Option.getD_some, ← same]

/-! ### Exactly the given labels -/

theorem sameLabels_texts {own labels : List String} :
    sameLabels (own.map .text) (labels.map .text) = true ↔ ∀ s, s ∈ own ↔ s ∈ labels := by
  have member {s : String} {names : List String} :
      (Value.text s).isIn (names.map .text) = true ↔ s ∈ names := by
    rw [text_isIn_iff, List.mem_map_of_injective fun _ _ => Value.text.inj]
  unfold sameLabels
  simp only [Bool.and_eq_true, List.all_map, List.all_eq_true, Function.comp_apply, member]
  exact ⟨fun h s => ⟨h.1 s, h.2 s⟩, fun h => ⟨fun s => (h s).mp, fun s => (h s).mpr⟩⟩

/-- The first class with exactly the given labels. -/
def fitting? (r : Registry) (labels : List String) : Option EntityClass :=
  (r.registered.find? fun c => sameLabels c.2 (labels.map .text)).map (·.1)

theorem forLabels?_eq (r : Registry) {labels : List String} (given : labels ≠ []) :
    r.forLabels? (labels.map .text) =
      (r.fitting? labels).or ((labels.map .text).findSome? r.forLabel?) := by
  unfold forLabels? fitting?
  rw [List.isEmpty_map, List.isEmpty_eq_false_iff.mpr given, if_neg Bool.false_ne_true]
  cases r.registered.find? fun c => sameLabels c.2 (labels.map .text) <;> rfl

theorem fitting?_congr {labels others : List String} (same : ∀ s, s ∈ labels ↔ s ∈ others) :
    r.fitting? labels = r.fitting? others := by
  unfold fitting?
  congr 2
  funext c
  unfold sameLabels
  have members (v : Value) : v.isIn (labels.map .text) = v.isIn (others.map .text) := by
    rw [Bool.eq_iff_iff, isIn_iff, isIn_iff]
    simp only [List.mem_map, same]
  have all (p : Value → Bool) : (labels.map Value.text).all p = (others.map Value.text).all p := by
    rw [Bool.eq_iff_iff, List.all_eq_true, List.all_eq_true]
    simp only [List.mem_map, same]
  simp only [members, all]

theorem Built.fitting?_eq_none_iff (built : r.Built) {labels : List String} :
    r.fitting? labels = none ↔ ∀ c, ¬ r.IsExact labels c := by
  unfold fitting?
  rw [Option.map_eq_none_iff, List.find?_eq_none]
  constructor
  · rintro none c ⟨own, has, same⟩
    exact none (c, own.map .text) (built.mem_registered.mpr ⟨own, has, rfl⟩) (sameLabels_texts.mpr same)
  · intro none p member exact
    obtain ⟨own, has, same⟩ := built.mem_registered.mp member
    rw [same] at exact
    exact none p.1 ⟨own, has, sameLabels_texts.mp exact⟩

/-- If there are classes with exactly the given labels, then the earliest of them is found. -/
theorem Built.fitting?_earliest (built : r.Built) {labels : List String} {c : EntityClass}
    (found : r.fitting? labels = some c) :
    r.IsExact labels c ∧ ∀ d, r.IsExact labels d → d = c ∨ c.rank < d.rank := by
  obtain ⟨p, first, rfl⟩ := Option.map_eq_some_iff.mp found
  obtain ⟨exact, before, after, split, others⟩ := List.find?_eq_some_iff_append.mp first
  obtain ⟨own, has, labelsOf⟩ := built.mem_registered.mp (List.mem_of_find?_eq_some first)
  refine ⟨⟨own, has, sameLabels_texts.mp (labelsOf ▸ exact)⟩, ?_⟩
  rintro d ⟨own', has', same'⟩
  have member : (d, own'.map Value.text) ∈ r.registered := built.mem_registered.mpr ⟨own', has', rfl⟩
  rw [split] at member
  rcases List.mem_append.mp member with early | late
  · have other := others _ early
    rw [sameLabels_texts.mpr same'] at other
    cases other
  · rcases List.mem_cons.mp late with same | late
    · exact Or.inl (congrArg Prod.fst same)
    · right
      have increasing : r.registered.Pairwise (·.1.id.index < ·.1.id.index) := by
        rw [built.registered_eq, List.pairwise_map]
        exact built.isOrderly.increasing.filter _
      rw [split] at increasing
      have less : p.1.id.index < d.id.index :=
        (List.pairwise_cons.mp (List.pairwise_append.mp increasing).2.1).1 _ late
      rw [built.isOrderly.ranks _ has.1, built.isOrderly.ranks _ has'.1]
      omega

/-! ### A further class -/

/-- A registry with a further class that has the given labels: it is defined with them, or without labels
under its name, or it is given them afterwards. -/
inductive Gains (r : Registry) : List String → Registry → Prop
  | define (name : String) (base : Option ClassId) (fields : List Schema.Field)
      (labels : Option (List String)) :
      Gains r (labels.getD [name]) (r.define name base fields (labels.map (·.map .text))).2
  | relabel (name : String) (base : Option ClassId) (fields : List Schema.Field)
      (labels : Option (List String)) (others : List String) :
      Gains r others ((r.define name base fields (labels.map (·.map .text))).2.relabel
        ⟨r.classes.length⟩ (others.map .text))

variable {r' : Registry} {further : List String}

theorem Gains.built (built : r.Built) (gains : r.Gains further r') : r'.Built := by
  cases gains with
  | define name base fields labels => exact built.define name base fields labels
  | relabel name base fields labels => exact (built.define name base fields labels).relabel _ _

theorem Gains.classes_eq (built : r.Built) (gains : r.Gains further r') :
    ∃ c, r'.classes = r.classes ++ [c] ∧ c.id = ⟨r.classes.length⟩ ∧
      (c.isRegistered = true → c.labels = some (further.map .text)) := by
  cases gains with
  | define name base fields labels =>
    refine ⟨_, rfl, rfl, fun found => ?_⟩
    have other : (name == rootClassName) = false := by simpa using found
    cases labels <;> simp [other]
  | relabel name base fields labels =>
    let c := (r.define name base fields (labels.map (·.map .text))).1
    refine ⟨{ c with labels := some (further.map .text) }, ?_, rfl, fun _ => rfl⟩
    have old : r.classes.map (fun d => if d.id = ⟨r.classes.length⟩ then
        { d with labels := some (further.map .text) } else d) = r.classes := by
      refine (List.map_congr_left fun d member => ?_).trans (List.map_id _)
      have below : d.id.index < r.classes.length := by
        rw [← List.mem_range, ← built.isOrderly.numbers]
        exact List.mem_map_of_mem member
      exact if_neg fun same => absurd (congrArg ClassId.index same) (Nat.ne_of_lt below)
    show (r.classes ++ [c]).map _ = _
    rw [List.map_append, old, List.map_singleton]
    exact congrArg (r.classes ++ [·]) (if_pos rfl)

/-- What is gone through is what was gone through before, and then the further class. -/
theorem Gains.registered_eq (built : r.Built) (gains : r.Gains further r') :
    ∃ c, c.id = ⟨r.classes.length⟩ ∧ (r'.registered = r.registered ∨
      r'.registered = r.registered ++ [(c, further.map .text)]) := by
  obtain ⟨c, classes, id, labels⟩ := gains.classes_eq built
  refine ⟨c, id, ?_⟩
  rw [(gains.built built).registered_eq, built.registered_eq, classes, List.filter_append,
    List.map_append, List.filter_singleton]
  cases found : c.isRegistered with
  | false => exact Or.inl (List.append_nil _)
  | true =>
    have own : (c, c.labels.getD []) = (c, further.map .text) := by rw [labels found, Option.getD_some]
    exact Or.inr (congrArg (_ ++ [·]) own)

theorem forLabel?_append {c : EntityClass} (more : r'.registered = r.registered ++ [(c, further.map .text)])
    (s : String) : r'.forLabel? (.text s) = r.forLabel? (.text s) ∨
      (r'.forLabel? (.text s) = some c ∧ s ∈ further) := by
  have member : (Value.text s).isIn (further.map .text) = true ↔ s ∈ further := by
    rw [text_isIn_iff, List.mem_map_of_injective fun _ _ => Value.text.inj]
  unfold forLabel?
  dsimp only
  rw [more, List.filter_append, List.filter_singleton]
  by_cases has : s ∈ further
  · rw [member.mpr has, cond_true, List.find?_append, List.head?_append, List.find?_singleton]
    -- the class with this label alone, then the first one with it; the further class comes behind both
    cases (r.registered.filter fun c => (Value.text s).isIn c.2).find?
        fun c => sameList c.2 [.text s] with
    | some d => exact Or.inl rfl
    | none =>
      split
      case isTrue => exact Or.inr ⟨rfl, has⟩
      case isFalse =>
        cases (r.registered.filter fun c => (Value.text s).isIn c.2).head? with
        | some d => exact Or.inl rfl
        | none => exact Or.inr ⟨rfl, has⟩
  · rw [Bool.eq_false_iff.mpr (mt member.mp has), cond_false, List.append_nil]
    exact Or.inl rfl

/-- The first label that has a class: the same one leads to the same class, unless the further class has a
label that is asked for. -/
theorem findSome?_append {c : EntityClass}
    (more : r'.registered = r.registered ++ [(c, further.map .text)]) : ∀ labels : List String,
    (labels.map .text).findSome? r'.forLabel? = (labels.map .text).findSome? r.forLabel? ∨
      ((labels.map .text).findSome? r'.forLabel? = some c ∧ ∃ s ∈ labels, s ∈ further)
  | [] => Or.inl rfl
  | s :: labels => by
    rw [List.map_cons, List.findSome?_cons, List.findSome?_cons]
    rcases forLabel?_append more s with same | ⟨new, has⟩
    · rw [same]
      cases r.forLabel? (.text s) with
      | some d => exact Or.inl rfl
      | none =>
        refine (findSome?_append more labels).imp_right fun ⟨found, t, member, has⟩ => ?_
        exact ⟨found, t, List.mem_cons_of_mem _ member, has⟩
    · rw [new]
      exact Or.inr ⟨rfl, s, List.mem_cons_self, has⟩

/-- A further class changes nothing, or it is found itself: then it has one of the labels, and no class had
exactly these labels before. -/
theorem Built.forLabels?_gains (built : r.Built) (gains : r.Gains further r') {labels : List String}
    (given : labels ≠ []) : r'.forLabels? (labels.map .text) = r.forLabels? (labels.map .text) ∨
      (∃ s ∈ labels, s ∈ further) ∧ (∀ d, ¬ r.IsExact labels d) ∧
        ∃ c, r'.forLabels? (labels.map .text) = some c ∧ c.id = ⟨r.classes.length⟩ := by
  obtain ⟨c, id, same | more⟩ := gains.registered_eq built
  · left
    unfold forLabels? forLabel?
    simp only [same]
  · have after : r'.fitting? labels = (r.fitting? labels).or
        (if sameLabels (further.map .text) (labels.map .text) then some c else none) := by
      unfold fitting?
      rw [more, List.find?_append, Option.map_or, List.find?_singleton]
      split <;> rfl
    rw [forLabels?_eq r' given, forLabels?_eq r given, after]
    cases before : r.fitting? labels with
    | some d => exact Or.inl rfl
    | none =>
      have inexact := built.fitting?_eq_none_iff.mp before
      split
      case isTrue exact =>
        obtain ⟨s, member⟩ := List.exists_mem_of_ne_nil labels given
        exact Or.inr ⟨⟨s, member, (sameLabels_texts.mp exact s).mpr member⟩, inexact, c, rfl, id⟩
      case isFalse =>
        refine (findSome?_append more labels).imp_right fun ⟨found, shared⟩ => ?_
        exact ⟨shared, inexact, c, found, id⟩

/-! ### Stability -/

theorem exists_class_of_labels (r : Registry) (chosen : Value) (labels : List String) :
    ∃ class?, ∀ (n : NodeData Value) (x : Value), (∀ s, s ∈ n.labels ↔ s ∈ labels) →
      (toRecord (.node n) >>= r.hydrate chosen) = .ok x →
        ∃ record, recordOfNode n = .ok record ∧ HydratedAs class? record x := by
  refine ⟨(r.classFor? chosen (sortedNames labels)).toOption.join, fun n x same hydrated => ?_⟩
  obtain ⟨v, converted, hydrated⟩ := Result.bind_eq_ok hydrated
  obtain ⟨record, made, rfl⟩ := Result.map_eq_ok converted
  obtain ⟨class?, found, as⟩ := hydrate_eq_ok hydrated
  rw [recordOfNode_labels made, sortedNames_congr same] at found
  refine ⟨record, made, ?_⟩
  rw [found]
  exact as

/-- What some labels lead to is stable. -/
structure Stable (r : Registry) (labels : List String) : Prop where
  /-- If there are classes with exactly these labels, the earliest of them is found, in whatever order and
  how often the labels are given. -/
  exact : ∀ c, r.IsExact labels c → ∃ e, r.IsExact labels e ∧
    (∀ d, r.IsExact labels d → d = e ∨ e.rank < d.rank) ∧
    ∀ others : List String, (∀ s, s ∈ others ↔ s ∈ labels) → r.forLabels? (others.map .text) = some e
  /-- A further class makes a difference only if it has one of these labels and no class has had exactly
  these; then it is what is found. -/
  gains : ∀ further r', r.Gains further r' →
    r'.forLabels? (labels.map .text) ≠ r.forLabels? (labels.map .text) →
      (∃ s ∈ labels, s ∈ further) ∧ (∀ c, ¬ r.IsExact labels c) ∧
        ∃ c, r'.forLabels? (labels.map .text) = some c ∧ c.id = ⟨r.classes.length⟩
  /-- All driver nodes with these labels become entities of one class, or stay records. -/
  hydrated : ∀ chosen, ∃ class?, ∀ (n : NodeData Value) (x : Value),
    (∀ s, s ∈ n.labels ↔ s ∈ labels) → (toRecord (.node n) >>= r.hydrate chosen) = .ok x →
      ∃ record, recordOfNode n = .ok record ∧ HydratedAs class? record x

/-- In every registry it is stable what labels lead to. -/
theorem Built.forLabels?_stable (built : r.Built) {labels : List String} (given : labels ≠ []) :
    r.Stable labels where
  exact c exact := by
    have some : r.fitting? labels ≠ none := fun none => built.fitting?_eq_none_iff.mp none c exact
    obtain ⟨e, found⟩ := Option.ne_none_iff_exists'.mp some
    obtain ⟨own, earliest⟩ := built.fitting?_earliest found
    refine ⟨e, own, earliest, fun others same => ?_⟩
    have nonempty : others ≠ [] := by
      rintro rfl
      obtain ⟨s, member⟩ := List.exists_mem_of_ne_nil labels given
      exact List.not_mem_nil ((same s).mpr member)
    rw [forLabels?_eq r nonempty, fitting?_congr same, found, Option.some_or]
  gains further r' gains changed := (built.forLabels?_gains gains given).resolve_left changed
  hydrated chosen := exists_class_of_labels r chosen labels

/-- Writers, and editors who are writers too: the labels of an editor in another order. -/
theorem forLabels?_stable_editors :
    let r := ((empty.define "Writer" none [] none).2.define "Editor" none []
      (some [.text "Writer", .text "Editor"])).2
    r.Built ∧ ["Editor", "Writer", "Editor"] ≠ [] ∧ r.Stable ["Editor", "Writer", "Editor"] := by
  intro r
  have built : r.Built :=
    (Built.empty.define "Writer" none [] none).define "Editor" none [] (some ["Writer", "Editor"])
  exact ⟨built, List.cons_ne_nil _ _, built.forLabels?_stable (List.cons_ne_nil _ _)⟩

end Registry

end GraphQuery
