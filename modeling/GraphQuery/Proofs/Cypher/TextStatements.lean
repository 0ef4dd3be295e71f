import GraphQuery.Proofs.Builder.TextCalls
import GraphQuery.Proofs.Cypher.UnboundNodes

/-! # Statements of calls with texts

After any number of calls with texts, failing ones included, a query holds texts in all places
(`Query.InTexts`).  The columns of its groups, of its projection and of its order are resolved only when the
query gets its text, so that fails with an error of another family where one of them has no name.

* `call_keepsTexts`, `afterTexts_inTexts` : what one call and any number of them make of such a query;
* `Query.WritesNameless` : a column without a name has to be written;
* `statementText_letsOut` : what the text of such a query lets out;
* `afterTexts_letsOut` : what comes out of a builder after any calls with texts, when another one follows
  and when its query gets its text. -/

namespace GraphQuery

open GraphQuery.Text GraphQuery.Schema GraphQuery.Cypher Exec

/-! ### Queries in texts -/

/-- A query that has texts in all places, nothing that stands for a part, and no other query inside. -/
structure Query.InTexts (q : Query) : Prop extends q.HasTextNodes where
  wheres : areOnColumns q.wheres = true
  stages : q.stages = []
  columns : q.columns = .null ∨ ∃ columns : List String, q.columns = .ofTexts columns
  groups : ∀ v ∈ q.groups, ∃ s, v = .text s
  havings : ∀ m ∈ q.havings, ∃ h, m = .clause h
  sortKeys : ∀ m ∈ q.sortKeys, ∃ s direction, m = .clause ⟨.text s, direction⟩
  branches : q.branches = []
  aggregate : q.aggregate = none
  limit : q.limit = .null
  offset : q.offset = .null

theorem areOnColumns_append (more : List Predicate) : ∀ wheres : List Predicate,
    areOnColumns (wheres ++ more) = (areOnColumns wheres && areOnColumns more)
  | [] => rfl
  | p :: rest => by
    show (p.isOnColumns && areOnColumns (rest ++ more)) = _
    rw [areOnColumns_append more rest, ← Bool.and_assoc]
    rfl

namespace Query.InTexts

variable {q : Query}

theorem empty : Query.InTexts .empty where
  plain := rfl
  labels := ⟨[], rfl⟩
  patterns := by simp [Query.empty]
  wheres := rfl
  stages := rfl
  columns := Or.inl rfl
  groups := by simp [Query.empty]
  havings := by simp [Query.empty]
  sortKeys := by simp [Query.empty]
  branches := rfl
  aggregate := rfl
  limit := rfl
  offset := rfl

theorem hasStages (h : q.InTexts) : q.hasStages = false := by
  simp [QueryOver.hasStages, QueryOver.isPresent, QueryOver.standIn?, h.stages, h.plain]

theorem hasBranches (h : q.InTexts) : q.hasBranches = false := by
  simp [QueryOver.hasBranches, QueryOver.isPresent, QueryOver.standIn?, h.branches, h.plain]

theorem withPredicate (h : q.InTexts) {p : Predicate} (onColumns : p.isOnColumns = true) :
    Query.InTexts { q with wheres := q.wheres ++ [p] } :=
  { h with
    wheres := by
      rw [areOnColumns_append, h.wheres]
      simp [areOnColumns, onColumns] }

theorem groupStart (h : q.InTexts) {start : Query} (found : Build.groupStart q = .ok start) :
    start.InTexts := by
  obtain ⟨-, -, found⟩ := Result.bind_eq_ok found
  obtain rfl := Except.ok.inj found
  have bare : (Build.subStart q).standIns = [] := by simp [Build.subStart, h.plain]
  exact { empty with plain := bare, labels := h.labels, patterns := h.patterns }

theorem withPattern (h : q.InTexts) (p : Pattern) :
    Query.InTexts { q with patterns := q.patterns ++ [.clause p] } :=
  { h with patterns := List.forall_mem_append.mpr ⟨h.patterns, by simp⟩ }

theorem withLabel (h : q.InTexts) (label : String) :
    Query.InTexts { q with labels := .tuple [.text label] } :=
  { h with labels := ⟨[label], rfl⟩ }

theorem withColumns (h : q.InTexts) (columns : List String) :
    Query.InTexts { q with columns := .ofTexts columns } :=
  { h with columns := Or.inr ⟨columns, rfl⟩ }

theorem withGroups (h : q.InTexts) (columns : List String) :
    Query.InTexts { q with groups := q.groups ++ columns.map .text } :=
  { h with groups := List.forall_mem_append.mpr ⟨h.groups, by simp⟩ }

theorem withHaving (h : q.InTexts) (having : Having) :
    Query.InTexts { q with havings := q.havings ++ [.clause having] } :=
  { h with havings := List.forall_mem_append.mpr ⟨h.havings, by simp⟩ }

theorem withSortKey (h : q.InTexts) (column : String) (direction : SortDirection) :
    Query.InTexts { q with sortKeys := q.sortKeys ++ [.clause ⟨.text column, direction⟩] } :=
  { h with sortKeys := List.forall_mem_append.mpr ⟨h.sortKeys, by simp⟩ }

end Query.InTexts

/-! ### What calls with texts keep -/

theorem flatColumns_texts (columns : List String) :
    flatColumns (columns.map .text) = columns.map .text := by
  induction columns with
  | nil => rfl
  | cons column rest ih => exact congrArg (Value.text column :: ·) ih

namespace Build

/-- The query holds texts in all places after the step, if it did before. -/
abbrev KeepsTexts {α : Type} (step : Build α) : Prop := step.KeepsQuery Query.InTexts

theorem addPredicate_keepsTexts {p : Predicate} (onColumns : p.isOnColumns = true) :
    (addPredicate p).KeepsTexts := addPredicate_keepsQuery fun _ kept => kept.withPredicate onColumns

theorem group_keepsTexts {body : Build Unit} (h : body.KeepsTexts) (joined : Value) :
    (group body joined).KeepsTexts :=
  group_keepsQuery h (fun _ _ kept found => kept.groupStart found)
    (fun _ _ _ inner kept => kept.withPredicate inner.wheres) joined

end Build

/-- Predicates about values keep texts in all places. -/
def textPredicates : PredicateLaws fun b => b.query.InTexts where
  columns _ := True
  operators _ := True
  operands o := ∃ v, o = .value v
  nested _ := False
  bodies := Build.KeepsTexts
  references _ := True
  signs _ := True
  queries _ := False
  asks _ _ := Build.ask_keepsQuery
  usesUp _ := Build.useUp_keepsQuery
  resolves _ _ := .of_maintains Build.withQuery_keepsQuery fun _ => trivial
  binds c v _ := Build.bindValue_keepsQuery c v .filter
  knows _ _ := trivial
  normalizes _ _ _ _ := trivial
  plain := Operand.exists_value
  defers := Operand.not_deferred_of_value
  takesIn _ none := none.elim
  adds p made := Build.addPredicate_keepsTexts (by
    cases p
    case comparedRow => exact made.2.2.elim
    case amongRows => exact made.2.elim
    case between | present | carried | nested | foreign => exact made.elim
    all_goals rfl)
  keeping _ := id
  groups _ := Build.group_keepsTexts

namespace Build

theorem filter_keepsTexts (column : String) (operator : Option String) (v joined : Value) :
    (filter (.value (.text column)) (operand? (signedArguments operator v).1)
      (operand? (signedArguments operator v).2) joined).KeepsTexts := by
  have value {v : Value} : ∀ o ∈ some (Operand.value v), textPredicates.operands o :=
    fun _ found => ⟨v, (Option.some.inj found).symm⟩
  refine textPredicates.filter (fun _ _ => trivial) (fun _ found => by cases found)
    (fun _ same => by cases same) ?_ ?_ joined
  · cases operator <;> exact value
  · cases operator with
    | none => exact nofun
    | some _ => exact value

theorem target_keepsTexts (label : String) : (target (.text label)).KeepsTexts := by
  show (readLabels (.text label) >>= fun labels =>
    change fun q => { q with labels := .tuple labels }).KeepsTexts
  rw [readLabels_text, bind_assoc]
  refine .bind ask_keepsQuery fun _ => ?_
  split
  · exact .after fun _ found => by cases found
  · rw [pure_bind]
    exact change_keepsQuery fun _ kept => kept.withLabel label

/-- A call with texts keeps a query that holds texts in all places, also when it fails. -/
theorem call_keepsTexts (c : TextCall) : c.call.run.KeepsTexts := by
  have joins : ∀ {placeholder : Value} (p : Pattern), Joins placeholder p → ∀ q : Query, q.InTexts →
      Query.InTexts { q with patterns := q.patterns ++ [.clause p] } := fun p _ _ kept => kept.withPattern p
  cases c with
  | target label => exact target_keepsTexts label
  | filter column operator v joint => exact filter_keepsTexts column operator v (.text joint)
  | among column values joint negated => exact textPredicates.among (fun _ _ => trivial) ⟨values, rfl⟩ _ _
  | relation parent related placeholder relationship property v direction joint =>
    exact relation_keepsQuery joins _ _ _ _ v _ _
  | anyRelation parent placeholder property v direction joint relationship =>
    exact anyRelation_keepsQuery joins _ _ v _ _ _
  | select columns =>
    refine change_keepsQuery fun q kept => ?_
    rw [flatColumns_texts]
    cases columns with
    | nil => exact kept.withColumns ["*"]
    | cons column rest => exact kept.withColumns (column :: rest)
  | groupBy columns =>
    exact .bind ask_keepsQuery fun _ => change_keepsQuery fun _ kept => by
      rw [flatColumns_texts]
      exact kept.withGroups columns
  | having column operator v joint =>
    exact .bind (.ofResult _) fun p =>
      addHaving_keepsQuery (fun _ _ _ _ _ _ _ kept => kept.withHaving _) _ _
  | orderBy column direction =>
    exact .bind (.ofResult _) fun _ => .bind ask_keepsQuery fun _ =>
      change_keepsQuery fun _ kept => kept.withSortKey column _

end Build

/-- A builder after calls with texts, one after another.  The errors of calls that fail are caught. -/
def Builder.afterTexts (b : Builder) (calls : List TextCall) : Builder :=
  calls.foldl (fun b c => (c.call.run.outcome b).2) b

theorem Builder.afterTexts_inTexts (calls : List TextCall) : ∀ {b : Builder}, b.query.InTexts →
    (b.afterTexts calls).query.InTexts := by
  induction calls with
  | nil => exact id
  | cons c rest ih => exact fun kept => ih (Build.call_keepsTexts c _ kept)

/-! ### What the text of a query lets out -/

/-- Whether a column has no name and is no node of the query either. -/
def Query.IsNameless (q : Query) (column : String) : Prop :=
  namesNothing column = true ∧ q.knows column = .ok false

/-- A column without a name groups rows. -/
def Query.GroupsNameless (q : Query) : Prop := ∃ s, Value.text s ∈ q.groups ∧ q.IsNameless s

/-- A column without a name is chosen, and rows are not grouped. -/
def Query.ChoosesNameless (q : Query) : Prop :=
  isStaged q = false ∧ ∃ columns, chosenColumns q = .ok columns ∧
    ∃ s, Value.text s ∈ columns ∧ q.IsNameless s

/-- Rows are sorted by a column without a name that no group carries on. -/
def Query.SortsNameless (q : Query) : Prop :=
  ∃ carried, carriedNames q = .ok carried ∧ ∃ s direction,
    Member.clause (SortKey.mk (.text s) direction) ∈ q.sortKeys ∧ s ∉ carried ∧ q.IsNameless s

/-- A column without a name has to be written. -/
def Query.WritesNameless (q : Query) : Prop := q.GroupsNameless ∨ q.ChoosesNameless ∨ q.SortsNameless

namespace Cypher

variable {q : Query} {write : String → String}

theorem letsOut_of_failsAtLost {α : Type} {columns : List ColumnRef} {r : Result α}
    (h : FailsAtLost columns r) : Result.LetsOut ∅ r := by
  unfold FailsAtLost at h
  split at h
  · obtain ⟨a, rfl⟩ := h
    exact .of_ok a
  · rw [h]
    exact .of_own rfl

theorem nodeText_letsOut (node : NodePattern) (seen : Introduced) :
    Result.LetsOut ∅ (nodeText node seen) := by
  unfold nodeText
  split
  · split
    · exact .of_own rfl
    · exact .of_ok _
  · exact .of_ok _

theorem farText_letsOut (far : FarEnd) (seen : Introduced) : Result.LetsOut ∅ (farText far seen) := by
  cases far with
  | node pattern relationship => exact (nodeText_letsOut pattern seen).after fun _ _ => .of_ok _
  | anyNode placeholder relationship =>
    unfold farText
    dsimp only
    split
    · exact .of_own rfl
    · exact .of_ok _
  | foreign kind placeholder => exact .of_own rfl

theorem patternText_letsOut (p : Pattern) (seen : Introduced) : Result.LetsOut ∅ (patternText p seen) := by
  have check : Result.LetsOut ∅ (FarEnd.check p.far) := by
    unfold FarEnd.check
    split
    · exact .of_own rfl
    · exact .of_ok ()
  refine check.after fun _ _ => ?_
  split
  · exact .of_own rfl
  · exact (nodeText_letsOut p.parent seen).after fun parent _ =>
      (farText_letsOut p.far parent.2).after fun _ _ => .of_ok _

theorem requiredClauses_letsOut : ∀ {patterns : List (Member Pattern)} (_ : ∀ m ∈ patterns, ∃ p, m = .clause p)
    (seen : Introduced), Result.LetsOut ∅ (requiredClauses patterns seen)
  | [], _, seen => .of_ok ([], seen)
  | m :: rest, clauses, seen => by
    obtain ⟨⟨p, rfl⟩, others⟩ := List.forall_mem_cons.mp clauses
    rw [requiredClauses]
    split
    · exact requiredClauses_letsOut others seen
    · exact (patternText_letsOut p seen).after fun first _ =>
        (requiredClauses_letsOut others first.2).after fun _ _ => .of_ok _

theorem optionalClauses_letsOut : ∀ {patterns : List (Member Pattern)} (_ : ∀ m ∈ patterns, ∃ p, m = .clause p)
    (seen : Introduced), Result.LetsOut ∅ (optionalClauses write patterns seen)
  | [], _, seen => .of_ok ([], seen)
  | m :: rest, clauses, seen => by
    obtain ⟨⟨p, rfl⟩, others⟩ := List.forall_mem_cons.mp clauses
    rw [optionalClauses]
    split
    · exact (patternText_letsOut p seen).after fun first _ =>
        (optionalClauses_letsOut others first.2).after fun _ _ => .of_ok _
    · exact optionalClauses_letsOut others seen

theorem requiredText_letsOut (h : q.InTexts) (seen : Introduced) :
    Result.LetsOut ∅ (requiredText q seen) := by
  refine h.placeholder?.after fun target _ => ?_
  cases target with
  | none =>
    dsimp only
    rw [h.walk]
    exact (requiredClauses_letsOut h.patterns seen).after fun _ _ => .of_ok _
  | some node =>
    have labels : Result.LetsOut ∅ (labelsText q.labels) := by
      obtain ⟨labels, present⟩ := h.presentLabels
      unfold labelsText
      rw [present]
      show Result.LetsOut ∅ ((labels.map Value.text).mapM textOf >>= fun texts => .ok (labelText texts))
      rw [mapM_textOf_texts]
      exact .of_ok _
    dsimp only
    rw [h.walk]
    exact labels.after fun text _ => (requiredClauses_letsOut h.patterns _).after fun _ _ => .of_ok _

theorem optionalText_letsOut (h : q.InTexts) (seen : Introduced) :
    Result.LetsOut ∅ (optionalText write q seen) := by
  unfold optionalText
  rw [h.walk]
  exact (optionalClauses_letsOut h.patterns seen).after fun _ _ => .of_ok _

theorem matchStage_letsOut (h : q.InTexts) (seen : Introduced) :
    Result.LetsOut ∅ (matchStage write q (conditionsOf write q) seen) := by
  refine (requiredText_letsOut h seen).after fun required _ => ?_
  refine (optionalText_letsOut h required.2).after fun optional _ => ?_
  rw [h.walk]
  obtain ⟨reads, found⟩ := predicatesRead_eq_ok h.wheres
  have told : (conditionsOf write q).reads = .ok reads := found
  have text : Result.LetsOut ∅ (conditionsOf write q).text :=
    (letsOut_of_failsAtLost (conditionTexts_failsAtLost h.wheres)).after fun _ _ => .of_ok _
  show Result.LetsOut ∅ ((conditionsOf write q).reads >>= _)
  rw [told]
  refine text.after fun predicates _ => ?_
  split
  · exact .of_ok _
  · exact .of_ok _

/-! ### Columns -/

/-- A column that is written as it stands if it is a node, and is resolved otherwise. -/
theorem resolved_letsOut (h : q.InTexts) (s : String) {f : ColumnRef → Result String}
    (written : ∀ c, Result.LetsOut ∅ (f c)) :
    Result.LetsOut (emptyName.when (q.IsNameless s))
      (q.knows s >>= fun known => if known then .ok s else q.resolve (.text s) >>= f) := by
  refine (h.knows s).after fun known told => ?_
  cases known with
  | true =>
    have named : ¬ q.IsNameless s := fun nameless => by cases told.symm.trans nameless.2
    rw [Error.when_of_not named]
    exact .of_ok s
  | false =>
    have same : q.IsNameless s ↔ namesNothing s = true := ⟨And.left, fun nothing => ⟨nothing, told⟩⟩
    rw [same]
    exact (h.resolve s).before fun c _ => written c

theorem expressionText_letsOut (h : q.InTexts) (s : String) :
    Result.LetsOut (emptyName.when (q.IsNameless s)) (expressionText q (.text s)) := by
  by_cases star : s = "*"
  · subst star
    rw [Error.when_of_not fun nameless => absurd nameless.1 (by decide)]
    exact .of_ok "*"
  · have read : expressionText q (.text s) = (q.knows s >>= fun known =>
        if known then .ok s else q.resolve (.text s) >>= columnText) := by
      unfold expressionText
      dsimp only
      rw [if_neg star]
      rfl
    rw [read]
    exact resolved_letsOut h s fun c => letsOut_of_failsAtLost (columnText_failsAtLost c)

theorem groupName_letsOut (h : q.InTexts) (s : String) :
    Result.LetsOut (emptyName.when (q.IsNameless s)) (groupName q (.text s)) := by
  have read : groupName q (.text s) = (q.knows s >>= fun known =>
      if known then .ok s else q.resolve (.text s) >>= fun c => .ok (quote c.name)) := rfl
  rw [read]
  exact resolved_letsOut h s fun c => .of_ok _

theorem groupItem_letsOut (h : q.InTexts) (s : String) :
    Result.LetsOut (emptyName.when (q.IsNameless s)) (groupItem q (.text s)) := by
  rw [← Set.union_self (emptyName.when _)]
  refine (expressionText_letsOut h s).bind fun expression _ => ?_
  exact (groupName_letsOut h s).before fun name _ => .of_ok _

theorem itemText_letsOut (h : q.InTexts) (s : String) :
    Result.LetsOut (emptyName.when (q.IsNameless s)) (itemText q (.text s)) :=
  (expressionText_letsOut h s).before fun _ _ => .of_ok _

theorem sortText_letsOut (h : q.InTexts) (carried : List String) (s : String) (direction : SortDirection) :
    Result.LetsOut (emptyName.when (s ∉ carried ∧ q.IsNameless s))
      (sortText q carried ⟨.text s, direction⟩) := by
  unfold sortText
  dsimp only
  by_cases member : s ∈ carried
  · rw [if_pos member, Error.when_of_not fun both => both.1 member]
    exact .of_ok _
  · rw [if_neg member]
    refine .before ?_ fun _ _ => .of_ok _
    simpa [member] using expressionText_letsOut h s

/-! ### Parts of a select -/

theorem mapM_texts_letsOut {e : Error} {p : String → Prop} {f : Value → Result String} {vs : List Value}
    (texts : ∀ v ∈ vs, ∃ s, v = .text s) (each : ∀ s, Result.LetsOut (e.when (p s)) (f (.text s))) :
    Result.LetsOut (e.when (∃ s, Value.text s ∈ vs ∧ p s)) (vs.mapM f) := by
  have same : (∃ s, Value.text s ∈ vs ∧ p s) ↔ ∃ v ∈ vs, ∃ s, v = .text s ∧ p s :=
    ⟨fun ⟨s, member, h⟩ => ⟨_, member, s, rfl, h⟩, fun ⟨_, member, s, given, h⟩ => ⟨s, given ▸ member, h⟩⟩
  rw [same]
  refine .mapM_when fun v member => ?_
  obtain ⟨s, rfl⟩ := texts v member
  simpa using each s

theorem groupTexts_letsOut (h : q.InTexts) {f : Query → Value → Result String}
    (each : ∀ s, Result.LetsOut (emptyName.when (q.IsNameless s)) (f q (.text s))) :
    Result.LetsOut (emptyName.when q.GroupsNameless) (groupTexts q f) := by
  unfold groupTexts
  rw [h.walk]
  exact mapM_texts_letsOut h.groups each

theorem not_groupsNameless (h : q.InTexts) (plain : isStaged q = false) : ¬ q.GroupsNameless := by
  rintro ⟨s, member, -⟩
  have none : q.groups = [] := by
    have absent : q.hasGroups = false := (Bool.or_eq_false_iff.mp plain).1
    unfold QueryOver.hasGroups QueryOver.isPresent QueryOver.standIn? at absent
    rw [h.plain] at absent
    simpa using absent
  rw [none] at member
  cases member

theorem carriedNames_letsOut (h : q.InTexts) :
    Result.LetsOut (emptyName.when q.GroupsNameless) (carriedNames q) := by
  unfold carriedNames
  split
  · rw [h.aggregate]
    exact (groupTexts_letsOut h (groupName_letsOut h)).before fun names _ => .of_ok names
  · next plain =>
    rw [Error.when_of_not (not_groupsNameless h (Bool.eq_false_iff.mpr plain))]
    exact .of_ok []

theorem havingText_letsOut (h : q.InTexts) : Result.LetsOut ∅ (havingText write q) := by
  obtain ⟨all, found⟩ := mapM_need_isOk h.havings "column"
  unfold havingText
  rw [h.walk]
  show Result.LetsOut ∅ (q.havings.mapM (·.need "column") >>= _)
  rw [found]
  exact .of_ok _

theorem withText_letsOut (h : q.InTexts) :
    Result.LetsOut (emptyName.when q.GroupsNameless) (withText write q) := by
  unfold withText
  rw [if_neg (by simp [h.hasStages])]
  split
  · next plain =>
    rw [Error.when_of_not (not_groupsNameless h (by simpa using plain))]
    exact .of_ok ""
  · split
    · exact .of_own rfl
    · rw [h.aggregate]
      refine (groupTexts_letsOut h (groupItem_letsOut h)).before fun groups _ => ?_
      dsimp only
      split
      · exact (havingText_letsOut h).after fun text _ => .of_ok _
      · exact .of_ok _

theorem chosenColumns_texts (h : q.InTexts) :
    ∃ columns : List String, chosenColumns q = .ok (columns.map .text) := by
  unfold chosenColumns
  split
  · next given =>
    rcases h.columns with null | ⟨columns, texts⟩
    · rw [null] at given
      cases given
    · exact ⟨columns, by rw [texts]; rfl⟩
  · exact ⟨["*"], rfl⟩

/-- The groups have names, so what a stage carries on lets out nothing. -/
theorem carriedNames_own (h : q.InTexts) (named : ¬ q.GroupsNameless) :
    Result.LetsOut ∅ (carriedNames q) := by
  rw [← Error.when_of_not named]
  exact carriedNames_letsOut h

theorem returnItems_letsOut (h : q.InTexts) (named : ¬ q.GroupsNameless) (seen : Introduced) :
    Result.LetsOut (emptyName.when q.ChoosesNameless) (returnItems q seen) := by
  unfold returnItems
  split
  · next staged =>
    rw [Error.when_of_not fun chooses => by rw [chooses.1] at staged; cases staged]
    exact carriedNames_own h named
  · next plain =>
    obtain ⟨columns, chosen⟩ := chosenColumns_texts h
    have same : q.ChoosesNameless ↔ ∃ s, Value.text s ∈ columns.map .text ∧ q.IsNameless s := by
      refine ⟨fun ⟨_, other, found, nameless⟩ => ?_, fun nameless =>
        ⟨Bool.eq_false_iff.mpr plain, _, chosen, nameless⟩⟩
      obtain rfl := Except.ok.inj (chosen.symm.trans found)
      exact nameless
    have stages : q.hasStages = false := h.hasStages
    have read : (do
        let columns ← chosenColumns q
        if isStar columns then
          if q.hasStages then return ["*"]
          else if seen.isEmpty then .error (.render .nothingToReturn)
          else return seen.map (·.1)
        else columns.mapM (itemText q) : Result (List String)) =
        if isStar (columns.map .text) then
          if seen.isEmpty then .error (.render .nothingToReturn) else .ok (seen.map (·.1))
        else (columns.map .text).mapM (itemText q) := by
      rw [chosen, stages]
      rfl
    rw [read, same]
    by_cases star : isStar (columns.map Value.text) = true
    · rw [if_pos star]
      have single : columns = ["*"] := by
        unfold isStar at star
        split at star
        · next s given =>
          obtain rfl : s = "*" := by simpa using star
          exact List.map_injective_iff.mpr (fun _ _ => Value.text.inj) given
        · cases star
      subst single
      have named : ¬ ∃ s, Value.text s ∈ ["*"].map Value.text ∧ q.IsNameless s := by
        rintro ⟨s, member, nothing, -⟩
        obtain rfl : s = "*" := by simpa using member
        exact absurd nothing (by decide)
      rw [Error.when_of_not named]
      split
      · exact .of_own rfl
      · exact .of_ok _
    · rw [if_neg star]
      exact mapM_texts_letsOut (by simp) (itemText_letsOut h)

theorem orderText_letsOut (h : q.InTexts) (named : ¬ q.GroupsNameless) :
    Result.LetsOut (emptyName.when q.SortsNameless) (orderText q) := by
  unfold orderText
  split
  · next absent =>
    have unsorted : ¬ q.SortsNameless := by
      rintro ⟨_, -, s, direction, member, -⟩
      have none : q.sortKeys = [] := by
        unfold QueryOver.hasSortKeys QueryOver.isPresent QueryOver.standIn? at absent
        rw [h.plain] at absent
        simpa using absent
      rw [none] at member
      cases member
    rw [Error.when_of_not unsorted]
    exact .of_ok ""
  · refine (carriedNames_own h named).after fun carried told => ?_
    rw [h.walk]
    have same : q.SortsNameless ↔ ∃ m ∈ q.sortKeys, ∃ s direction,
        m = Member.clause (SortKey.mk (.text s) direction) ∧ s ∉ carried ∧ q.IsNameless s := by
      constructor
      · rintro ⟨other, found, s, direction, member, nameless⟩
        obtain rfl := Except.ok.inj (told.symm.trans found)
        exact ⟨_, member, s, direction, rfl, nameless⟩
      · rintro ⟨_, member, s, direction, rfl, nameless⟩
        exact ⟨carried, told, s, direction, member, nameless⟩
    rw [same]
    show Result.LetsOut _ (q.sortKeys.mapM (fun key => key.need "column" >>= sortText q carried) >>= _)
    refine Result.LetsOut.before (.mapM_when fun m member => ?_) fun keys _ => .of_ok _
    obtain ⟨s, direction, rfl⟩ := h.sortKeys m member
    have only : (∃ s' direction', Member.clause (SortKey.mk (.text s) direction) =
        Member.clause (SortKey.mk (.text s') direction') ∧ s' ∉ carried ∧ q.IsNameless s') ↔
          s ∉ carried ∧ q.IsNameless s := by
      simp
    rw [only]
    exact sortText_letsOut h carried s direction

/-! ### Selects -/

theorem afterStage_letsOut (h : q.InTexts) (seen : Introduced) :
    Result.LetsOut (emptyName.when q.WritesNameless) (afterStage write q none seen) := by
  have parts : emptyName.when q.WritesNameless = emptyName.when q.GroupsNameless ∪
      (emptyName.when q.ChoosesNameless ∪ emptyName.when q.SortsNameless) :=
    Set.ext fun e => by simp [Error.when, Query.WritesNameless, or_and_right]
  unfold afterStage
  rw [parts, h.aggregate]
  refine (withText_letsOut h).bind fun carried written => ?_
  have named : ¬ q.GroupsNameless := Error.when_eq_empty_iff.mp ((withText_letsOut h).succeeds carried written)
  have counts : skipText q = .ok "" ∧ limitText q = .ok "" := by
    rw [skipText, limitText, h.offset, h.limit]
    exact ⟨rfl, rfl⟩
  have ends (items : List String) : Result.LetsOut (emptyName.when q.SortsNameless) (do
      let order ← orderText q
      return ([carried, "RETURN " ++ distinctText q ++ joined ", " items, order, ← skipText q,
        ← limitText q], items.map columnName)) := by
    rw [counts.1, counts.2]
    exact (orderText_letsOut h named).before fun order _ => .of_ok _
  cases isStaged q <;> exact (returnItems_letsOut h named seen).bind fun items _ => ends items

theorem singleSelect_letsOut (h : q.InTexts) :
    Result.LetsOut (emptyName.when q.WritesNameless)
      (singleSelect write q (conditionsOf write q) none) := by
  rw [singleSelect_eq]
  exact (matchStage_letsOut h []).after fun stage _ =>
    (afterStage_letsOut h stage.2).before fun _ _ => .of_ok _

/-- A query that holds texts in all places has a text or fails with an error of the family, unless a column
without a name has to be written. -/
theorem statementText_letsOut (h : q.InTexts) :
    Result.LetsOut (emptyName.when q.WritesNameless) (statementText q) := by
  unfold statementText
  rw [h.ask]
  show Result.LetsOut _
    (assembleSelect parameter q (conditionsOf parameter q) (branchTexts parameter q.branches))
  unfold assembleSelect
  rw [h.hasBranches, h.branches]
  show Result.LetsOut _ (plainSelect parameter q (conditionsOf parameter q) [])
  refine (singleSelect_letsOut h).before fun first _ => ?_
  rw [h.walk]
  exact .of_ok first.1

end Cypher

/-- What callers meet after any calls with texts on a builder that asks for nothing yet.  Another call with
texts, and the text of the query, succeed or fail with an error of the family, but for the strays.  These
are errors of other families, and with strays nothing succeeds. -/
theorem Builder.afterTexts_letsOut (table : BindingTable) (number : Nat) (used : Remains)
    (calls : List TextCall) :
    let b := Builder.afterTexts ⟨.empty, table, number, used⟩ calls
    (∀ c : TextCall, AreForeign (c.strays b) ∧ c.call.run.LetsOut (c.strays b) b) ∧
      AreForeign (emptyName.when b.query.WritesNameless) ∧
      Result.LetsOut (emptyName.when b.query.WritesNameless) (statementText b.query) := by
  intro b
  have texts : b.query.InTexts := Builder.afterTexts_inTexts calls .empty
  exact ⟨fun c => ⟨c.strays_areForeign b, c.call_letsOut texts.toHasTextNodes⟩, .when rfl,
    Cypher.statementText_letsOut texts⟩

/-- A column, a word or a value that the library does not check itself fails with an error of another
family. -/
theorem Builder.afterTexts_astray :
    let b := Builder.afterTexts ⟨.empty, .empty, 1, []⟩ [.target "User"]
    (∀ p ∈ [(TextCall.filter "" none (.int 1) "and", emptyName),
        (.filter "age" none (.int 1) "xor", .invalid [⟨.notAChoice, ["boolean"], none⟩]),
        (.filter "id" none (.double .infinity) "and", outOfRange),
        (.having "age" (some "") (.int 1) "and", outsideText),
        (.relation "User" "Post" "" "POSTED" none .null "out" "and",
          .invalid [⟨.textTooShort, ["alias"], none⟩])],
      (p.1.call.run.outcome b).1 = .error p.2 ∧ p.2.isOwn = false) ∧
    statementText (b.afterTexts [.select [""]]).query = .error emptyName := by
  intro b
  refine ⟨?_, rfl⟩
  simp only [List.forall_mem_cons, List.not_mem_nil, false_imp_iff, implies_true, and_true]
  exact ⟨⟨rfl, rfl⟩, ⟨rfl, rfl⟩, ⟨rfl, rfl⟩, ⟨rfl, rfl⟩, rfl, rfl⟩

end GraphQuery
