import GraphQuery.Proofs.Builder.Strays

/-! # Calls with texts

A `TextCall` is a call whose names are all texts: columns, operators, labels, words for directions and
connectives.  The value that it binds can be anything.  Some of these texts are checked by the library
itself, and others only where a clause is made of them or where they are looked into.

* `conditionStrays` : what a condition on a column can let out;
* `TextCall.strays` : the errors of other families that a call can fail with, by the arguments that are to
  blame for them;
* `TextCall.call_letsOut` : a call fails with an error of the family or with one of its strays, and with
  strays it does not succeed. -/

namespace GraphQuery

open GraphQuery.Text GraphQuery.Binding GraphQuery.Schema Exec

namespace Build

variable {b : Builder}

theorem addChecked_letsOut (plain : b.query.standIns = []) {issues : List Issue} {p : Checked Predicate}
    (found : Checked.Finds issues p) : (addChecked p).LetsOut (refusals issues) b := by
  unfold Exec.LetsOut
  rw [addChecked_result plain]
  exact found.ofChecked.before fun _ _ => .of_ok _

theorem addJoined_letsOut (plain : b.query.standIns = []) (word : String) {α : Type} (negated : Checked α)
    (known : Checked.Finds [] negated) (f : Connective × α → Predicate) :
    (addChecked (((joint (.text word)).and negated).map f)).LetsOut (refusals (jointIssues (lowercase word)))
      b := by
  refine addChecked_letsOut plain (.map ?_)
  rw [← List.append_nil (jointIssues _)]
  exact (readChoice_finds "boolean" connectiveNames (lowercase word)).and known

end Build

/-! ### Conditions -/

/-- What a condition on a column can let out: the column has no name, a value for an identity is infinite,
or the word that joins the condition is unknown. -/
def conditionStrays (q : Query) (column : String) (values : List Value) (word : String) : Set Error :=
  emptyName.when (namesNothing column) ∪
    (outOfRange.when (q.AsksIdentity column ∧ ∃ v ∈ values, v.isInfinite = true) ∪
      refusals (jointIssues (lowercase word)))

namespace Build

variable {b : Builder}

/-- A condition is made of its column and of what follows, which the values and the word decide. -/
theorem condition_letsOut (nodes : b.query.HasTextNodes) {column : String} {values : List Value}
    {word : String} {next : ColumnRef → Build Unit}
    (after : ∀ c, (next c).LetsOut (outOfRange.when (c.identity = true ∧ ∃ v ∈ values, v.isInfinite = true) ∪
      refusals (jointIssues (lowercase word))) b) :
    (resolveOperand (.value (.text column)) >>= next).LetsOut (conditionStrays b.query column values word)
      b := by
  have outcome : (resolveOperand (.value (.text column))).outcome b = (b.query.resolve (.text column), b) := rfl
  refine Exec.LetsOut.bind (.of_outcome outcome (nodes.resolve column)) fun c b' ended => ?_
  obtain ⟨read, rfl⟩ := Prod.mk.inj (outcome.symm.trans ended)
  have same : b.query.AsksIdentity column ↔ c.identity = true := by
    refine ⟨fun ⟨other, found, asks⟩ => ?_, fun asks => ⟨c, read, asks⟩⟩
    obtain rfl := Except.ok.inj (read.symm.trans found)
    exact asks
  rw [same]
  exact after c

theorem isNull_letsOut (nodes : b.query.HasTextNodes) (column word : String) (negated : Bool) :
    (isNull (.value (.text column)) (.text word) (.bool negated)).LetsOut
      (conditionStrays b.query column [.null] word) b := by
  unfold isNull
  refine .step (needList_outcome nodes.plain .wheres) (condition_letsOut nodes fun c => ?_)
  rw [Error.when_of_not (by simp [Value.isInfinite]), Set.empty_union]
  exact addJoined_letsOut nodes.plain word _ (.of_ok negated) _

theorem compare_letsOut (nodes : b.query.HasTextNodes) (column : String) {operator : Operand}
    (known : operator.isOperator = true) (v : Value) (word : String) :
    (compare (.value (.text column)) operator v (.text word)).LetsOut
      (conditionStrays b.query column [v] word) b := by
  obtain ⟨sign, written⟩ : ∃ sign, normalizeOperator operator.toValue = .ok sign := by
    cases operator with
    | value o => exact normalizeOperator_isOk known
    | body _ | query _ => cases known
  unfold compare
  refine condition_letsOut nodes fun c => ?_
  have single : (∃ x ∈ [v], x.isInfinite = true) ↔ v.isInfinite = true := by simp
  rw [single]
  unfold bindColumn
  rw [bind_assoc]
  refine .after_result (valueFor_letsOut c v) fun x _ => ?_
  refine .after_kept (bindValue_letsOut nodes.plain c x _)
    (bindValue_keepsQuery (P := fun q => q.standIns = []) c x _) nodes.plain fun binding b' plain => ?_
  refine .step (needList_outcome plain .wheres) ?_
  rw [written]
  refine .step (outcome_ofResult ..) ?_
  exact addChecked_letsOut plain (.map (readChoice_finds "boolean" connectiveNames (lowercase word)))

theorem among_letsOut (nodes : b.query.HasTextNodes) (column : String) (values : Value) (word : String)
    (negated : Bool) : (among (.value (.text column)) (.value values) (.text word) (.bool negated)).LetsOut
      (conditionStrays b.query column (membersLeft b.used values) word) b := by
  have listed : (Functor.discard (Exec.ofResult (membershipValues values)) : Build PUnit).LetsOut ∅ b :=
    .discard (.of_result (membershipValues_letsOut values))
  have keeps : (Functor.discard (Exec.ofResult (membershipValues values)) : Build PUnit).Maintains (· = b) :=
    .discard (.ofResult _)
  unfold among
  refine .after_kept listed keeps rfl fun _ b' same => ?_
  obtain rfl : b' = b := same
  refine condition_letsOut nodes fun c => ?_
  refine .step (useUp_outcome values) ?_
  generalize (b'.used.useUp values).2 = used
  refine .after_own (membershipValues_letsOut _) fun given read => ?_
  have left : membersLeft b'.used values = given := by
    unfold membersLeft
    rw [read]
    rfl
  rw [left]
  refine .after_result (valuesFor_letsOut c given) fun vs _ => ?_
  have later : ({ b' with used } : Builder).query.standIns = [] := nodes.plain
  refine .after_kept (bindValue_letsOut later c _ _)
    (bindValue_keepsQuery (P := fun q => q.standIns = []) c _ _) later fun binding after plain => ?_
  exact addJoined_letsOut plain word _ (.of_ok negated) _

end Build

/-- The values that a condition compares with.  A text that is no operator is compared with itself, and the
value is left out. -/
def comparedValues (used : Remains) (operator : Option String) (v : Value) : List Value :=
  match operator with
  | none => [v]
  | some s =>
    if lowercase s = "in" then membersLeft used v
    else if isOperator (.text s) then [v] else [.text s]

/-- The arguments behind a column: an operator and a value, or a value alone. -/
def signedArguments (operator : Option String) (v : Value) : Option Argument × Option Argument :=
  match operator with
  | none => (some (.value v), none)
  | some s => (some (.value (.text s)), some (.value v))

namespace Build

variable {b : Builder}

theorem compareOperand_letsOut (nodes : b.query.HasTextNodes) (column : String) {operator : Operand}
    (known : operator.isOperator = true) (v : Value) (word : String) :
    (compareOperand (.value (.text column)) operator (.value v) (.text word)).LetsOut
      (conditionStrays b.query column [v] word) b := by
  cases given : v.isNull with
  | true =>
    obtain rfl := isNull_iff.mp given
    exact isNull_letsOut nodes column word _
  | false =>
    rw [compareOperand_given given]
    exact compare_letsOut nodes column known v word

theorem comparison_letsOut {operator value : Operand} {strays : Set Error}
    {next : Operand × Operand → Build Unit} (h : (next (operator, value)).LetsOut strays b) :
    (Exec.ofResult (comparison (some operator) (some value)) >>= next).LetsOut strays b := by
  have pair : comparison (some operator) (some value) =
      if isIllegalPair operator value then .error (.builder .illegalComparison)
      else .ok (operator, value) := rfl
  rw [pair]
  cases isIllegalPair operator value with
  | true => exact .after_own (.of_own rfl) nofun
  | false => exact .step (outcome_ofResult ..) h

/-- What a comparison does whose arguments behind the column are a text and a value, or a value alone. -/
theorem filter_signed (column : Value) (operator : Option String) (v joint : Value)
    (single : column.entries? = none) :
    filter (.value column) (operand? (signedArguments operator v).1) (operand? (signedArguments operator v).2)
      joint = match operator with
        | none => compareOperand (.value column) equality (.value v) joint
        | some s =>
          if lowercase s = "in" then among (.value column) (.value v) joint (.bool false)
          else if isIllegalPair (.value (.text s)) (.value v) then fault .illegalComparison
          else if isOperator (.text s) then
            compareOperand (.value column) (.value (.text s)) (.value v) joint
          else compareOperand (.value column) equality (.value (.text s)) joint := by
  have compares {o w : Option Operand} (h : (Operand.isMembership o && w.isSome) = false) :
      filter (.value column) o w joint = (Exec.ofResult (comparison o w) >>= fun p =>
        if p.1.isOperator then compareOperand (.value column) p.1 p.2 joint
        else compareOperand (.value column) equality p.1 joint) :=
    filter_column joint h single fun _ same => by cases same
  cases operator with
  | none =>
    show filter (.value column) (some (.value v)) none joint = _
    rw [compares (by simp)]
    rfl
  | some s =>
    show filter (.value column) (some (.value (.text s))) (some (.value v)) joint = _
    dsimp only
    split
    · next member =>
      have named : Operand.isMembership (some (.value (.text s))) = true := by
        simp [Operand.isMembership, member]
      unfold Build.filter
      rw [named]
    · next other =>
      have membership : Operand.isMembership (some (.value (.text s))) = false := by
        simp [Operand.isMembership, other]
      have pair : comparison (some (.value (.text s))) (some (.value v)) =
          if isIllegalPair (.value (.text s)) (.value v) then .error (.builder .illegalComparison)
          else .ok (.value (.text s), .value v) := rfl
      rw [compares (by rw [membership]; rfl), pair]
      split <;> rfl

theorem filter_letsOut (nodes : b.query.HasTextNodes) (column : String) (operator : Option String)
    (v : Value) (word : String) : (filter (.value (.text column)) (operand? (signedArguments operator v).1)
      (operand? (signedArguments operator v).2) (.text word)).LetsOut
        (conditionStrays b.query column (comparedValues b.used operator v) word) b := by
  have sign : equality.isOperator = true := by decide
  have equal (v : Value) := compareOperand_letsOut nodes column sign v word
  rw [filter_signed _ operator v _ rfl]
  unfold comparedValues
  cases operator with
  | none => exact equal v
  | some s =>
    dsimp only
    by_cases member : lowercase s = "in"
    · rw [if_pos member, if_pos member]
      exact among_letsOut nodes column v word false
    · rw [if_neg member, if_neg member]
      by_cases illegal : isIllegalPair (.value (.text s)) (.value v) = true
      · rw [if_pos illegal]
        exact .of_result (.of_own rfl)
      · rw [if_neg illegal]
        by_cases known : isOperator (.text s) = true
        · have sign : (Operand.value (.text s)).isOperator = true := known
          rw [if_pos known, if_pos known]
          exact compareOperand_letsOut nodes column sign v word
        · rw [if_neg known, if_neg known]
          exact equal (.text s)

/-! ### Patterns -/

theorem readLabels_text (label : String) : readLabels (.text label) = (do
    ask .grammar "normalize_labels"
    if label = "" then fault .labelsMissing else pure [.text label]) := by
  have given : labels (.text label) =
      if label = "" then .error (.builder .labelsMissing) else .ok [.text label] := by
    show (if (if label = "" then [] else [Value.text label]).isEmpty then (_ : Result _) else _) = _
    split <;> rfl
  have used : useUp (.text label) = pure (.text label) := rfl
  unfold readLabels
  rw [used]
  simp only [pure_bind, given]
  split <;> rfl

theorem readLabels_letsOut {α : Type} (plain : b.query.standIns = []) {label : String} {strays : Set Error}
    {next : List Value → Build α} (h : (next [.text label]).LetsOut strays b) :
    (readLabels (.text label) >>= next).LetsOut strays b := by
  rw [readLabels_text, bind_assoc]
  refine .step (ask_outcome plain ..) ?_
  split
  · exact .after_own (.of_own rfl) nofun
  · exact .step (outcome_pure ..) h

theorem parentNode_letsOut (plain : b.query.standIns = []) {label : String} {strays : Set Error}
    {next : NodePattern → Build Unit} (h : ∀ node, (next node).LetsOut strays b) :
    (parentNode (.text label) >>= next).LetsOut strays b := by
  unfold parentNode
  rw [bind_assoc]
  refine readLabels_letsOut plain ?_
  simp only [bind_assoc]
  exact .after_own (needPlaceholder_letsOut [label]) fun placeholder _ => .step rfl (h ⟨placeholder, _⟩)

theorem constrain_letsOut (plain : b.query.standIns = []) (parent : String) (property : Option String)
    (v : Value) : (constrain parent (.ofText? property) v).LetsOut
      (outOfRange.when (property = some "id" ∧ v.isInfinite = true)) b := by
  have bound (base : String) (v : Value) : (some <$> bind base v .pattern : Build _).LetsOut ∅ b := by
    rw [← bind_pure_comp]
    exact (bind_letsOut plain base v .pattern).before fun name _ _ => .of_ok (some name)
  have unread {p : Prop} (h : ¬ p) {step : Build (Option String)} (only : step.LetsOut ∅ b) :
      step.LetsOut (outOfRange.when p) b := by
    rw [Error.when_of_not h]
    exact only
  by_cases absent : property = none ∨ v = .null
  · have free : constrain parent (.ofText? property) v = pure none :=
      constrain_none parent (absent.imp_left fun none => by rw [none]; rfl)
    rw [free]
    refine unread (fun both => ?_) (.of_ok none)
    rcases absent with rfl | rfl
    · cases both.1
    · cases both.2
  · obtain ⟨given, value⟩ := not_or.mp absent
    obtain ⟨p, rfl⟩ := Option.ne_none_iff_exists'.mp given
    show (constrain parent (.text p) v).LetsOut _ b
    rw [constrain_text parent p value]
    split
    · next id =>
      refine .step (ask_outcome plain ..) (.step (ask_outcome plain ..) ?_)
      have both := Exec.LetsOut.after_result (s := b) (identity_letsOut v) fun n _ =>
        bound (identityName ("id(" ++ parent ++ ")")) (.int n)
      simpa [id] using both
    · next other => exact unread (by simp [other]) (bound _ v)

theorem frame_finds (parent : NodePattern) (isOptional : Bool) (binding : Option String) (direction : String)
    (property : Option String) : Checked.Finds (directionIssues direction)
      (frame parent isOptional binding (.text direction) (.ofText? property)) := by
  rw [← List.append_nil (directionIssues direction)]
  exact .map ((readDirection_finds direction).and (readOptional_finds "property" property))

theorem addPattern_letsOut (plain : b.query.standIns = []) {issues : List Issue} {p : Checked Pattern}
    (found : Checked.Finds issues p) : (addPattern p).LetsOut (refusals issues) b := by
  exact .step (needList_outcome plain .patterns) (.before (.of_result found.ofChecked) fun _ _ _ => .of_ok _)

theorem constrained_letsOut (plain : b.query.standIns = []) (parent : String) (property : Option String)
    (v : Value) {issues : List Issue} {p : Option String → Checked Pattern}
    (found : ∀ binding, Checked.Finds issues (p binding)) :
    (constrain parent (.ofText? property) v >>= fun binding => addPattern (p binding)).LetsOut
      (outOfRange.when (property = some "id" ∧ v.isInfinite = true) ∪ refusals issues) b :=
  .bind_kept (constrain_letsOut plain parent property v)
    (constrain_keepsQuery (P := fun q => q.standIns = []) parent _ v) plain fun binding _ plain =>
      addPattern_letsOut plain (found binding)

theorem relatedNode_finds (placeholder label : String) : Checked.Finds (lengthIssues "alias" placeholder)
    (relatedNode (.text placeholder) [.text label]) := by
  rw [← List.append_nil (lengthIssues ..)]
  exact .map ((readName_finds "alias" placeholder).and (.of_ok [label]))

theorem relation_letsOut (plain : b.query.standIns = []) (parent related placeholder relationship : String)
    (property : Option String) (v : Value) (direction word : String) :
    (relation (.text parent) (.text related) (.text placeholder) (.text relationship) (.ofText? property) v
      (.text direction) (.text word)).LetsOut
        (refusals (lengthIssues "alias" placeholder) ∪
          (outOfRange.when (property = some "id" ∧ v.isInfinite = true) ∪
            refusals (directionIssues direction ++ lengthIssues "relationship" relationship))) b := by
  refine parentNode_letsOut plain fun node => .step (needList_outcome plain .patterns) ?_
  refine readLabels_letsOut plain (.after_result (relatedNode_finds placeholder related).ofChecked
    fun far _ => .step rfl (constrained_letsOut plain _ property v fun binding => ?_))
  exact .map ((frame_finds ..).and (readName_finds "relationship" relationship))

theorem anyRelation_letsOut (plain : b.query.standIns = []) (parent placeholder : String)
    (property : Option String) (v : Value) (direction word : String) (relationship : Option String) :
    (anyRelation (.text parent) (.text placeholder) (.ofText? property) v (.text direction) (.text word)
      (.ofText? relationship)).LetsOut
        (outOfRange.when (property = some "id" ∧ v.isInfinite = true) ∪
          refusals (directionIssues direction ++ lengthIssues "related_alias" placeholder)) b := by
  refine parentNode_letsOut plain fun node => .step (needList_outcome plain .patterns) ?_
  refine .step rfl (constrained_letsOut plain _ property v fun binding => .map ((frame_finds ..).and ?_))
  rw [← List.append_nil (lengthIssues ..)]
  exact (readName_finds "related_alias" placeholder).and (readOptional_finds "relationship" relationship)

/-! ### Groups and order -/

theorem addHaving_letsOut (plain : b.query.standIns = []) (column operator : String) (v : Value)
    (word : String) : (addHaving (.text column) (.text operator) v (.text word)).LetsOut
      (outsideText.when (operator = "") ∪ refusals (jointIssues word)) b := by
  have sign : Result.LetsOut (outsideText.when (operator = "")) (normalizeOperator (.text operator)) := by
    refine .of_when (fun empty => by rw [empty]; rfl) fun filled => ?_
    unfold normalizeOperator
    dsimp only
    split
    · exact .of_ok _
    · split
      · next empty => exact absurd (String.toList_eq_nil_iff.mp empty) (lowercase_ne_empty filled)
      · exact .of_ok _
  refine .step (ask_outcome plain ..) (.step (outcome_ofResult ..) ?_)
  refine .after_kept (bind_letsOut plain _ v _)
    (bind_keepsQuery (P := fun q => q.standIns = []) _ v _) plain fun binding b' plain => ?_
  refine .step (needList_outcome plain .havings) (.after_result sign fun _ _ => ?_)
  exact .before (.of_result (readChoice_finds "boolean" connectiveNames word).ofChecked) fun _ _ _ => .of_ok _

theorem having_letsOut (plain : b.query.standIns = []) (column : String) (operator : Option String)
    (v : Value) (word : String) : (Call.run (.having (.text column) (signedArguments operator v).1
      (signedArguments operator v).2 (.text word))).LetsOut
        (outsideText.when (operator = some "") ∪ refusals (jointIssues word)) b := by
  unfold Call.run
  cases operator with
  | none =>
    have equal := addHaving_letsOut plain column "=" v word
    rw [Error.when_of_not (by decide)] at equal
    rw [Error.when_of_not (by simp)]
    exact .step (outcome_ofResult ..) equal
  | some s =>
    rw [Option.some.injEq]
    exact comparison_letsOut (addHaving_letsOut plain column s v word)

theorem orderBy_letsOut (plain : b.query.standIns = []) (column direction : String) :
    (orderBy (.text column) (.text direction)).LetsOut ∅ b := by
  refine .after_own ?_ fun _ _ => .step (needList_outcome plain .sortKeys) (.of_ok ())
  unfold readSortDirection
  split
  · exact .of_ok _
  · exact .of_ok _
  · exact .of_own rfl

theorem target_letsOut (plain : b.query.standIns = []) (label : String) :
    (target (.text label)).LetsOut ∅ b := by
  have set : (change fun q => { q with labels := .tuple [.text label] }).LetsOut ∅ b := .of_ok ()
  exact readLabels_letsOut plain set

end Build

/-! ### Calls -/

/-- A call whose names are all texts.  The value that goes with them can be anything. -/
inductive TextCall where
  | target (label : String)
  /-- without an operator the column has to be equal to the value -/
  | filter (column : String) (operator : Option String) (value : Value) (joint : String)
  | among (column : String) (values : Value) (joint : String) (negated : Bool)
  | relation (parent related placeholder relationship : String) (property : Option String) (value : Value)
    (direction joint : String)
  | anyRelation (parent placeholder : String) (property : Option String) (value : Value)
    (direction joint : String) (relationship : Option String)
  | select (columns : List String)
  | groupBy (columns : List String)
  | having (column : String) (operator : Option String) (value : Value) (joint : String)
  | orderBy (column direction : String)

namespace TextCall

/-- The call. -/
def call : TextCall → Call
  | target label => .target (.text label)
  | filter column operator v joint =>
    .filter (.value (.text column)) (signedArguments operator v).1 (signedArguments operator v).2 (.text joint)
  | among column values joint negated =>
    .among (.value (.text column)) (.value values) (.text joint) (.bool negated)
  | relation parent related placeholder relationship property v direction joint =>
    .relation (.text parent) (.text related) (.text placeholder) (.text relationship) (.ofText? property) v
      (.text direction) (.text joint)
  | anyRelation parent placeholder property v direction joint relationship =>
    .anyRelation (.text parent) (.text placeholder) (.ofText? property) v (.text direction) (.text joint)
      (.ofText? relationship)
  | select columns => .select (columns.map .text)
  | groupBy columns => .groupBy (columns.map .text)
  | having column operator v joint =>
    .having (.text column) (signedArguments operator v).1 (signedArguments operator v).2 (.text joint)
  | orderBy column direction => .orderBy (.text column) (.text direction)

/-- The errors of other families that a call can let out. -/
def strays (b : Builder) : TextCall → Set Error
  | filter column operator v joint => conditionStrays b.query column (comparedValues b.used operator v) joint
  | among column values joint _ => conditionStrays b.query column (membersLeft b.used values) joint
  | relation _ _ placeholder relationship property v direction _ =>
    refusals (lengthIssues "alias" placeholder) ∪
      (outOfRange.when (property = some "id" ∧ v.isInfinite = true) ∪
        refusals (directionIssues direction ++ lengthIssues "relationship" relationship))
  | anyRelation _ placeholder property v direction _ _ =>
    outOfRange.when (property = some "id" ∧ v.isInfinite = true) ∪
      refusals (directionIssues direction ++ lengthIssues "related_alias" placeholder)
  | having _ operator _ joint => outsideText.when (operator = some "") ∪ refusals (jointIssues joint)
  | target _ | select _ | groupBy _ | orderBy _ _ => ∅

/-- No stray belongs to the family. -/
theorem strays_areForeign (b : Builder) (c : TextCall) : AreForeign (c.strays b) := by
  cases c with
  | filter _ _ _ _ | among _ _ _ _ => exact .union (.when rfl) (.union (.when rfl) (.when rfl))
  | relation _ _ _ _ _ _ _ _ => exact .union (.when rfl) (.union (.when rfl) (.when rfl))
  | anyRelation _ _ _ _ _ _ _ | having _ _ _ _ => exact .union (.when rfl) (.when rfl)
  | target _ | select _ | groupBy _ | orderBy _ _ => exact .empty

/-- A call with texts fails with an error of the family or with one of its strays, and with strays it does
not succeed. -/
theorem call_letsOut {b : Builder} (nodes : b.query.HasTextNodes) (c : TextCall) :
    c.call.run.LetsOut (c.strays b) b := by
  unfold call
  cases c with
  | target label => exact Build.target_letsOut nodes.plain label
  | filter column operator v joint => exact Build.filter_letsOut nodes column operator v joint
  | among column values joint negated => exact Build.among_letsOut nodes column values joint negated
  | relation parent related placeholder relationship property v direction joint =>
    exact Build.relation_letsOut nodes.plain parent related placeholder relationship property v direction joint
  | anyRelation parent placeholder property v direction joint relationship =>
    exact Build.anyRelation_letsOut nodes.plain parent placeholder property v direction joint relationship
  | select columns => exact .of_ok ()
  | groupBy columns => exact .step (Build.ask_outcome nodes.plain ..) (.of_ok ())
  | having column operator v joint => exact Build.having_letsOut nodes.plain column operator v joint
  | orderBy column direction => exact Build.orderBy_letsOut nodes.plain column direction

end TextCall

end GraphQuery
