import GraphQuery.Proofs.Builder.Identities
import GraphQuery.Proofs.Builder.KeptQueries
import GraphQuery.Proofs.Builder.Taking
import GraphQuery.Proofs.Builder.Twin
import Mathlib.Data.Set.Basic

/-! # Errors that callers do not expect

Callers can catch the errors of the library as one family (`Error.isOwn`).  A check of a clause and a
number that is out of range fail with errors of other families.  These are the *strays*.

* `Result.LetsOut strays r` : what fails does so with an error of the family or with one of the strays, and
  what succeeds has no strays.  `Exec.LetsOut` says the same of a step.  Two steps after each other let
  out the strays of both;
* `Checked.Finds issues x` : the issues that a check finds, one field after another;
* `Query.HasTextNodes.resolve`, `Build.identity_letsOut` : a column lets out one stray if it has no name,
  and a value for an identity one if it is infinite. -/

namespace GraphQuery

open GraphQuery.Text GraphQuery.Binding GraphQuery.Schema Exec

/-! ### What is let out -/

/-- Whether an error belongs to the family that callers can catch as a whole. -/
def Error.isOwn : Error → Bool
  | .builder _ | .unknownBucket _ | .render _ | .nothingToCommit | .execution _ _ _ => true
  | .notConnected _ | .unreachable _ _ | .noReconnector | .invalid _ | .failure _ => false

/-- An error on a condition. -/
def Error.when (e : Error) (p : Prop) : Set Error := {x | p ∧ x = e}

theorem Error.when_eq_empty_iff {e : Error} {p : Prop} : e.when p = ∅ ↔ ¬ p :=
  ⟨fun none holds => (none ▸ ⟨holds, rfl⟩ : e ∈ (∅ : Set Error)), fun h =>
    Set.eq_empty_of_forall_notMem fun _ member => h member.1⟩

theorem Error.when_of_not {e : Error} {p : Prop} (h : ¬ p) : e.when p = ∅ := when_eq_empty_iff.mpr h

/-- No error of a set belongs to the family. -/
def AreForeign (errors : Set Error) : Prop := ∀ e ∈ errors, e.isOwn = false

namespace AreForeign

variable {A B : Set Error}

theorem empty : AreForeign ∅ := fun _ member => member.elim

theorem when {e : Error} {p : Prop} (h : e.isOwn = false) : AreForeign (e.when p) :=
  fun _ ⟨_, same⟩ => same ▸ h

theorem union (first : AreForeign A) (second : AreForeign B) : AreForeign (A ∪ B) :=
  fun e member => member.elim (first e) (second e)

end AreForeign

/-- A result fails with an error of the family or with one of the strays.  With strays it does not succeed. -/
structure Result.LetsOut {α : Type} (strays : Set Error) (r : Result α) : Prop where
  fails : ∀ e, r = .error e → e.isOwn = true ∨ e ∈ strays
  succeeds : ∀ a, r = .ok a → strays = ∅

namespace Result.LetsOut

variable {α β : Type} {A B : Set Error} {x : Result α}

theorem of_ok (a : α) : LetsOut ∅ (.ok a) := ⟨nofun, fun _ _ => rfl⟩

theorem of_error {e : Error} (h : e.isOwn = true ∨ e ∈ A) : LetsOut A (.error e : Result α) :=
  ⟨fun _ same => Except.error.inj same ▸ h, nofun⟩

theorem of_own {e : Error} (own : e.isOwn = true) : LetsOut A (.error e : Result α) := of_error (Or.inl own)

theorem of_when {e : Error} {p : Prop} (stray : p → x = .error e) (none : ¬ p → LetsOut ∅ x) :
    LetsOut (e.when p) x := by
  by_cases h : p
  · rw [stray h]
    exact of_error (Or.inr ⟨h, rfl⟩)
  · rw [Error.when_of_not h]
    exact none h

theorem bind {f : α → Result β} (first : LetsOut A x) (next : ∀ a, x = .ok a → LetsOut B (f a)) :
    LetsOut (A ∪ B) (x >>= f) := by
  cases x with
  | error e => exact of_error ((first.fails e rfl).imp_right Or.inl)
  | ok a =>
    rw [first.succeeds a rfl, Set.empty_union]
    exact next a rfl

theorem after {f : α → Result β} (first : LetsOut ∅ x) (next : ∀ a, x = .ok a → LetsOut B (f a)) :
    LetsOut B (x >>= f) := Set.empty_union B ▸ first.bind next

theorem before {f : α → Result β} (first : LetsOut A x) (next : ∀ a, x = .ok a → LetsOut ∅ (f a)) :
    LetsOut A (x >>= f) := Set.union_empty A ▸ first.bind next

theorem map {f : α → β} (first : LetsOut A x) : LetsOut A (x.map f) := by
  cases x with
  | error e => exact of_error (first.fails e rfl)
  | ok a =>
    rw [first.succeeds a rfl]
    exact of_ok (f a)

theorem mapM {strays : α → Set Error} {f : α → Result β} : ∀ {as : List α},
    (∀ a ∈ as, LetsOut (strays a) (f a)) → LetsOut {e | ∃ a ∈ as, e ∈ strays a} (as.mapM f)
  | [], _ => ⟨nofun, fun _ _ => Set.eq_empty_of_forall_notMem fun e => by simp⟩
  | a :: as, each => by
    have both : {e | ∃ x ∈ a :: as, e ∈ strays x} = strays a ∪ ({e | ∃ x ∈ as, e ∈ strays x} ∪ ∅) :=
      Set.ext fun e => by simp
    rw [both, List.mapM_cons]
    refine (each a (List.mem_cons_self ..)).bind fun b _ => ?_
    exact (mapM fun x member => each x (List.mem_cons_of_mem _ member)).bind fun bs _ => of_ok (b :: bs)

/-- A stray that each member lets out on a condition. -/
theorem mapM_when {e : Error} {p : α → Prop} {f : α → Result β} {as : List α}
    (each : ∀ a ∈ as, LetsOut (e.when (p a)) (f a)) : LetsOut (e.when (∃ a ∈ as, p a)) (as.mapM f) := by
  have same : e.when (∃ a ∈ as, p a) = {x | ∃ a ∈ as, x ∈ e.when (p a)} :=
    Set.ext fun x => ⟨fun ⟨⟨a, member, h⟩, found⟩ => ⟨a, member, h, found⟩,
      fun ⟨a, member, h, found⟩ => ⟨⟨a, member, h⟩, found⟩⟩
  rw [same]
  exact mapM each

end Result.LetsOut

/-- What a step lets out that begins in a state. -/
def Exec.LetsOut {σ α : Type} (strays : Set Error) (step : Exec σ α) (s : σ) : Prop :=
  Result.LetsOut strays (step.outcome s).1

namespace Exec.LetsOut

variable {σ α β : Type} {A B : Set Error} {s : σ}

theorem bind {x : Exec σ α} {f : α → Exec σ β} (first : x.LetsOut A s)
    (next : ∀ a s', x.outcome s = (.ok a, s') → (f a).LetsOut B s') : (x >>= f).LetsOut (A ∪ B) s := by
  unfold LetsOut at first ⊢
  rw [outcome_bind]
  cases ended : x.outcome s with
  | mk r s' =>
    rw [ended] at first
    cases r with
    | error e => exact .of_error ((first.fails e rfl).imp_right Or.inl)
    | ok a =>
      rw [first.succeeds a rfl, Set.empty_union]
      exact next a s' ended

theorem bind_kept {inv : σ → Prop} {x : Exec σ α} {f : α → Exec σ β} (first : x.LetsOut A s)
    (keeps : x.Maintains inv) (holds : inv s) (next : ∀ a s', inv s' → (f a).LetsOut B s') :
    (x >>= f).LetsOut (A ∪ B) s :=
  first.bind fun a s' ended => next a s' ((keeps.ends holds).1 a s' ended)

theorem after_kept {inv : σ → Prop} {x : Exec σ α} {f : α → Exec σ β} (first : x.LetsOut ∅ s)
    (keeps : x.Maintains inv) (holds : inv s) (next : ∀ a s', inv s' → (f a).LetsOut B s') :
    (x >>= f).LetsOut B s := Set.empty_union B ▸ first.bind_kept keeps holds next

theorem before {x : Exec σ α} {f : α → Exec σ β} (first : x.LetsOut A s)
    (next : ∀ a s', x.outcome s = (.ok a, s') → (f a).LetsOut ∅ s') : (x >>= f).LetsOut A s :=
  Set.union_empty A ▸ first.bind next

theorem discard {x : Exec σ α} (h : x.LetsOut A s) : (Functor.discard x).LetsOut A s := by
  have same : (Functor.discard x : Exec σ PUnit) = x >>= fun _ => pure ⟨⟩ := (bind_pure_comp _ x).symm
  rw [same]
  exact h.before fun _ _ _ => .of_ok _

theorem step {x : Exec σ α} {f : α → Exec σ β} {a : α} {s' : σ} (ended : x.outcome s = (.ok a, s'))
    (next : (f a).LetsOut B s') : (x >>= f).LetsOut B s := by
  unfold LetsOut
  rw [outcome_bind_ok ended]
  exact next

theorem of_outcome {x : Exec σ α} {r : Result α} {s' : σ} (ended : x.outcome s = (r, s'))
    (h : Result.LetsOut A r) : x.LetsOut A s := by
  unfold LetsOut
  rw [ended]
  exact h

theorem of_result {r : Result α} (h : Result.LetsOut A r) : (Exec.ofResult r : Exec σ α).LetsOut A s := h

theorem after_result {r : Result α} {f : α → Exec σ β} (first : Result.LetsOut A r)
    (next : ∀ a, r = .ok a → (f a).LetsOut B s) : (Exec.ofResult r >>= f).LetsOut (A ∪ B) s :=
  bind first fun a _ ended => (Prod.mk.inj ended).2 ▸ next a (Prod.mk.inj ended).1

/-- A first result that lets out nothing. -/
theorem after_own {r : Result α} {f : α → Exec σ β} (first : Result.LetsOut ∅ r)
    (next : ∀ a, r = .ok a → (f a).LetsOut B s) : (Exec.ofResult r >>= f).LetsOut B s :=
  Set.empty_union B ▸ after_result first next

end Exec.LetsOut

/-! ### What checks find -/

/-- The issues that a check finds.  Without any it succeeds.  None of them is a limit that the value cannot
be compared with. -/
def Checked.Finds {α : Type} (issues : List Issue) : Checked α → Prop
  | .ok _ => issues = []
  | .error found => found = issues ∧ issues ≠ [] ∧ ∀ i ∈ issues, i.code ≠ .incomparable

/-- The issue of a field with a value that does not fit. -/
def fieldIssues (field : String) (code : IssueCode) (fits : Bool) : List Issue :=
  if fits then [] else [⟨code, [field], none⟩]

namespace Checked.Finds

variable {α β : Type} {issues more : List Issue} {x : Checked α} {y : Checked β}

theorem of_ok (a : α) : Finds [] (.ok a) := rfl

theorem and (first : Finds issues x) (second : Finds more y) : Finds (issues ++ more) (x.and y) := by
  cases x with
  | ok a =>
    obtain rfl : issues = [] := first
    cases y with
    | ok b => exact second
    | error found => exact second
  | error found =>
    obtain ⟨rfl, some, comparable⟩ := first
    cases y with
    | ok b =>
      obtain rfl : more = [] := second
      rw [List.append_nil]
      exact ⟨rfl, some, comparable⟩
    | error found' =>
      obtain ⟨rfl, -, comparable'⟩ := second
      exact ⟨rfl, by simp [some], List.forall_mem_append.mpr ⟨comparable, comparable'⟩⟩

theorem map {f : α → β} (h : Finds issues x) : Finds issues (x.map f) := by
  cases x <;> exact h

theorem inside {code : IssueCode} {fits : Bool} {field : String} (comparable : code ≠ .incomparable)
    (good : fits = true → ∃ a, x = .ok a) (bad : fits = false → x = .fail code) :
    Finds (fieldIssues field code fits) (Checked.inside field x) := by
  cases fits with
  | true =>
    obtain ⟨a, rfl⟩ := good rfl
    exact of_ok a
  | false =>
    rw [bad rfl]
    exact ⟨rfl, by simp [fieldIssues], by simpa [fieldIssues] using comparable⟩

theorem ofChecked (h : Finds issues x) :
    Result.LetsOut ((Error.invalid issues).when (issues ≠ [])) (Result.ofChecked x) := by
  cases x with
  | ok a =>
    obtain rfl : issues = [] := h
    rw [Error.when_of_not (by simp)]
    exact .of_ok a
  | error found =>
    obtain ⟨rfl, some, comparable⟩ := h
    have compared : found.any (·.code == .incomparable) = false := by simpa using comparable
    refine .of_when (fun _ => ?_) fun none => absurd some none
    simp [Result.ofChecked, compared]

end Checked.Finds

/-! ### Columns -/

/-- The nodes of a query are given by texts, and nothing stands for a part of it. -/
structure Query.HasTextNodes (q : Query) : Prop where
  plain : q.standIns = []
  labels : ∃ labels : List String, q.labels = .tuple (labels.map .text)
  patterns : ∀ m ∈ q.patterns, ∃ p, m = .clause p

/-- Whether a column has no name: it is blank, or ends at its first point. -/
def namesNothing (column : String) : Bool :=
  match splitAtFirst '.' (trim column).toList with
  | some (_, name) => name.isEmpty
  | none => trim column = ""

/-- The error of a column without a name. -/
def emptyName : Error := .invalid [⟨.textTooShort, ["name"], none⟩]

/-- A call for an identity ends with its bracket. -/
theorem getLast?_of_identityCall? {cs node : List Char} (call : identityCall? cs = some node) :
    cs.getLast? = some ')' := by
  obtain ⟨before, after, rfl, -⟩ := identityCall?_eq_some call
  exact List.getLast?_concat

theorem namesNothing_of_identityCall? {column : String} {node : List Char}
    (call : identityCall? (trim column).toList = some node) : namesNothing column = false := by
  have closed := getLast?_of_identityCall? call
  unfold namesNothing
  split
  · next before name cut =>
    cases name with
    | cons c cs => rfl
    | nil =>
      rw [append_of_splitAtFirst cut, List.getLast?_append] at closed
      cases closed
  · refine decide_eq_false fun blank => ?_
    rw [blank] at closed
    cases closed

/-- Clauses are all that a list of clauses is asked for. -/
theorem mapM_need_isOk {α : Type} {members : List (Member α)} (clauses : ∀ m ∈ members, ∃ c, m = .clause c)
    (name : String) : ∃ all, members.mapM (·.need name) = .ok all := by
  induction members with
  | nil => exact ⟨[], rfl⟩
  | cons m rest ih =>
    obtain ⟨⟨c, rfl⟩, others⟩ := List.forall_mem_cons.mp clauses
    obtain ⟨read, found⟩ := ih others
    exact ⟨c :: read, by rw [List.mapM_cons, found]; rfl⟩

theorem needPlaceholder_letsOut (labels : List String) :
    Result.LetsOut ∅ (needPlaceholder (labels.map .text)) := by
  unfold needPlaceholder
  split
  · exact .of_own rfl
  · rw [labelTexts_texts]
    exact .of_ok _

namespace Query.HasTextNodes

variable {q : Query}

theorem ask (h : q.HasTextNodes) (part : QueryPart) (name : String) : q.ask part name = .ok () := by
  unfold QueryOver.ask QueryOver.standIn?
  rw [h.plain]
  rfl

theorem walk (h : q.HasTextNodes) (part : QueryPart) : q.walk part = .ok () := by
  unfold QueryOver.walk QueryOver.standIn?
  rw [h.plain]
  rfl

theorem presentLabels (h : q.HasTextNodes) :
    ∃ labels : List String, presentLabels q.labels = .ok (labels.map .text) := by
  obtain ⟨labels, given⟩ := h.labels
  refine ⟨labels.filter (Value.isTruthy ∘ .text), ?_⟩
  rw [given, ← List.filter_map]
  rfl

theorem placeholder? (h : q.HasTextNodes) : Result.LetsOut ∅ q.placeholder? := by
  unfold Query.placeholder?
  split
  · obtain ⟨labels, present⟩ := h.presentLabels
    rw [h.ask, present]
    exact (needPlaceholder_letsOut labels).after fun p _ => .of_ok _
  · exact .of_ok none

theorem knownPlaceholders (h : q.HasTextNodes) : Result.LetsOut ∅ q.knownPlaceholders := by
  refine h.placeholder?.after fun primary _ => ?_
  rw [h.walk]
  obtain ⟨all, found⟩ := mapM_need_isOk h.patterns "kind"
  show Result.LetsOut ∅ (q.patterns.mapM (·.need "kind") >>= _)
  rw [found]
  exact .of_ok _

theorem knows (h : q.HasTextNodes) (s : String) : Result.LetsOut ∅ (q.knows s) :=
  h.knownPlaceholders.after fun _ _ => .of_ok _

theorem ownerPlaceholder (h : q.HasTextNodes) (owner : String) :
    Result.LetsOut ∅ (q.ownerPlaceholder owner) := by
  refine (h.knows owner).after fun _ _ => ?_
  split
  · exact .of_ok owner
  · rw [h.ask]
    show Result.LetsOut ∅ (needPlaceholder (if owner = "" then [] else [.text owner]))
    split
    · exact needPlaceholder_letsOut []
    · exact needPlaceholder_letsOut [owner]

/-- Resolving a column fails with an error of another family only if the column has no name. -/
theorem resolve (h : q.HasTextNodes) (column : String) :
    Result.LetsOut (emptyName.when (namesNothing column)) (q.resolve (.text column)) := by
  have named (name : String) (placeholder : Option String) (identity : Bool) :
      Result.LetsOut (emptyName.when (name = "")) (namedColumn name placeholder identity) :=
    .of_when (fun empty => by rw [empty]; rfl) fun some => by
      rw [namedColumn_eq_ok_iff.mpr ⟨some, rfl⟩]
      exact .of_ok _
  show Result.LetsOut _ (q.resolveText column)
  unfold Query.resolveText
  dsimp only
  split
  · next node call =>
    rw [Error.when_of_not (by simp [namesNothing_of_identityCall? call])]
    exact .of_ok _
  · split
    · next before after cut =>
      have same : namesNothing column = true ↔ String.ofList after = "" := by
        simp [namesNothing, cut]
      rw [same]
      exact (h.ownerPlaceholder _).after fun placeholder _ => named (String.ofList after) placeholder _
    · next whole =>
      have same : namesNothing column = true ↔ trim column = "" := by
        simp [namesNothing, whole]
      rw [same]
      split
      · next id =>
        rw [Error.when_of_not (by simp [id])]
        refine h.placeholder?.after fun target _ => ?_
        split
        · exact .of_ok _
        · exact .of_own rfl
      · exact h.placeholder?.after fun target _ => named (trim column) target false

end Query.HasTextNodes

/-- Whether a query reads a column as an identity. -/
def Query.AsksIdentity (q : Query) (column : String) : Prop :=
  ∃ c, q.resolve (.text column) = .ok c ∧ c.identity = true

/-! ### Values -/

/-- The error of an infinite number that has to be an integer. -/
def outOfRange : Error := .failure ⟨.overflow, "cannot convert float infinity to integer"⟩

/-- The error of a text that is too short to be looked into. -/
def outsideText : Error := .failure ⟨.outside, "string index out of range"⟩

/-- Whether a value is an infinite number. -/
def Value.isInfinite : Value → Bool
  | .double x => x.isInfinite
  | _ => false

/-- The members of a value that conditions compare with, after streams have been gone through. -/
def membersLeft (used : Remains) (v : Value) : List Value :=
  (membershipValues (used.useUp v).1).toOption.getD []

namespace Build

variable {α : Type} {b : Builder}

theorem identity_letsOut (v : Value) : Result.LetsOut (outOfRange.when v.isInfinite) (identity v) := by
  refine .of_when (fun endless => ?_) fun bounded => ?_
  · cases v with
    | double x =>
      have infinite : x.isInfinite = true := endless
      have number : x.isNaN = false := by
        unfold Number.Double.isInfinite at infinite
        unfold Number.Double.isNaN
        simp_all
      simp [identity, Value.toInteger, number, infinite, outOfRange]
    | _ => cases endless
  · cases read : identity v with
    | ok n => exact .of_ok n
    | error e =>
      cases identity_refused read with
      | unread cause => exact .of_own rfl
      | infinite endless => exact absurd endless bounded

theorem valueFor_letsOut (c : ColumnRef) (v : Value) :
    Result.LetsOut (outOfRange.when (c.identity = true ∧ v.isInfinite = true)) (valueFor c v) := by
  unfold valueFor
  cases c.identity with
  | true =>
    simp only [true_and, if_true]
    exact (identity_letsOut v).map
  | false =>
    rw [Error.when_of_not (by simp)]
    exact .of_ok v

theorem valuesFor_letsOut (c : ColumnRef) (vs : List Value) :
    Result.LetsOut (outOfRange.when (c.identity = true ∧ ∃ v ∈ vs, v.isInfinite = true))
      (valuesFor c vs) := by
  have same : (c.identity = true ∧ ∃ v ∈ vs, v.isInfinite = true) ↔
      ∃ v ∈ vs, c.identity = true ∧ v.isInfinite = true := by
    simp only [← exists_and_left, and_left_comm]
  rw [same]
  exact .mapM_when fun v _ => valueFor_letsOut c v

theorem membershipValues_letsOut (v : Value) : Result.LetsOut ∅ (membershipValues v) := by
  unfold membershipValues
  dsimp only
  split
  iterate 5 exact .of_own rfl
  cases Value.members? _ with
  | none => exact .of_own rfl
  | some vs => exact .of_ok vs

theorem useUp_outcome (v : Value) :
    (useUp v).outcome b = (.ok (b.used.useUp v).1, { b with used := (b.used.useUp v).2 }) := rfl

theorem bind_letsOut (plain : b.query.standIns = []) (base : String) (v : Value) (bucket : Bucket) :
    (bind base v bucket).LetsOut ∅ b := .step (ask_outcome plain ..) (.of_ok _)

theorem bindValue_letsOut (plain : b.query.standIns = []) (c : ColumnRef) (v : Value) (bucket : Bucket) :
    (bindValue c v bucket).LetsOut ∅ b := by
  refine .step (ask_outcome plain ..) ?_
  split
  · exact .step (ask_outcome plain ..) (bind_letsOut plain ..)
  · exact bind_letsOut plain ..

end Build

/-! ### Fields -/

/-- The error of a check that finds issues. -/
def refusals (issues : List Issue) : Set Error := (Error.invalid issues).when (issues ≠ [])

/-- The issues of a word that joins a condition to the one before it. -/
def jointIssues (word : String) : List Issue :=
  fieldIssues "boolean" .notAChoice (lookup? word connectiveNames).isSome

/-- The issues of a text that may not be empty. -/
def lengthIssues (field text : String) : List Issue := fieldIssues field .textTooShort (text ≠ "")

/-- The issues of a word for a direction. -/
def directionIssues (word : String) : List Issue :=
  fieldIssues "direction" .notAChoice (directionOfWord? word).isSome

theorem readChoice_finds {α : Type} (field : String) (choices : List (String × α)) (word : String) :
    Checked.Finds (fieldIssues field .notAChoice (lookup? word choices).isSome)
      (Checked.inside field (readChoice choices (.text word))) := by
  show Checked.Finds _ (Checked.inside field ((lookup? word choices).elim (.fail .notAChoice) .ok))
  cases lookup? word choices with
  | none => exact .inside (by decide) nofun fun _ => rfl
  | some choice => exact .inside (by decide) (fun _ => ⟨choice, rfl⟩) nofun

theorem readDirection_finds (word : String) :
    Checked.Finds (directionIssues word) (Checked.inside "direction" (readDirection (.text word))) := by
  refine .inside (by decide) (fun known => ?_) fun unknown => ?_
  · obtain ⟨direction, found⟩ := Option.isSome_iff_exists.mp known
    exact ⟨direction, by simp [readDirection, Value.text?, found]⟩
  · have none : directionOfWord? word = none := by simpa using unknown
    simp [readDirection, Value.text?, none]

theorem readName_finds (field text : String) :
    Checked.Finds (lengthIssues field text) (Checked.inside field (readName (.text text))) := by
  refine .inside (by decide) (fun filled => ⟨text, ?_⟩) fun empty => ?_
  · have long : ¬ text.length < 1 := by
      simpa [Nat.lt_one_iff, String.length_eq_zero_iff] using filled
    show textLength (some 1) none text = .ok text
    simp [textLength, long]
  · obtain rfl : text = "" := by simpa using empty
    rfl

theorem readOptional_finds (field : String) (text : Option String) :
    Checked.Finds [] (Checked.inside field (readOptional readText (.ofText? text))) := by
  cases text <;> exact .of_ok _

end GraphQuery
