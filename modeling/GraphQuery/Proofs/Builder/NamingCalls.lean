import GraphQuery.Proofs.Builder.KeptQueries
import GraphQuery.Proofs.Builder.Reached
import GraphQuery.Proofs.Builder.Spelled
import GraphQuery.Proofs.Cypher.NamedSelect

/-! # Calls that ask for things by their names

`Call.IsNaming` says of a call that it chooses the labels of the primary node, adds a pattern, compares
columns with values, or selects columns, all of them by their names.  The name that a caller chooses for
the far node of a pattern is written as it is, so it has to be a plain one.

Such calls build queries that only ask for things by their names (`call_keepsNamed`), so in what such a
query is written as, every label, type and property is one token, whatever it holds
(`Build.statement_tokens`). -/

namespace GraphQuery

open GraphQuery.Text GraphQuery.Binding GraphQuery.Cypher GraphQuery.Schema

/-! ### What calls are given -/

/-- Whether an argument is a value. -/
def Argument.IsValue (a : Argument) : Prop := ∃ v, a = .value v

mutual
/-- Whether a call asks for things by their names. -/
def Call.IsNaming : Call → Prop
  | .target _ => True
  | .filter column operator value _ =>
    column.IsNaming ∧ (∀ a ∈ operator, a.IsValue) ∧ ∀ a ∈ value, a.IsValue
  | .relation _ _ placeholder _ _ _ _ _ | .anyRelation _ placeholder _ _ _ _ _ =>
    ∀ node, readName placeholder = .ok node → IsIdentifier node
  | .select columns => ∀ v ∈ flatColumns columns, ∃ s, v = .text s
  | _ => False
/-- The same of a column, or of the calls of a callback. -/
def Argument.IsNaming : Argument → Prop
  | .value v => v.namesTextually = true
  | .body calls => areNaming calls
  | _ => False
/-- The same of every one of some calls. -/
def areNaming : List Call → Prop
  | [] => True
  | c :: rest => c.IsNaming ∧ areNaming rest
end

mutual
/-- Such calls are clauses with columns given by name, and take in nothing. -/
theorem Call.IsNaming.plain : ∀ {c : Call}, c.IsNaming →
    c.isClause = true ∧ c.isTextual = true ∧ c.queries = []
  | .filter column operator value _, ⟨named, compared, given⟩ => by
    have values : ∀ a : Option Argument, (∀ b ∈ a, b.IsValue) →
        areClauses? a = true ∧ areTextual? a = true ∧ queries? a = [] := by
      intro a h
      cases a with
      | none => exact ⟨rfl, rfl, rfl⟩
      | some b =>
        obtain ⟨v, rfl⟩ := h b rfl
        exact ⟨rfl, rfl, rfl⟩
    obtain ⟨clause, textual, names, queries⟩ := Argument.IsNaming.plain named
    obtain ⟨clause', textual', queries'⟩ := values operator compared
    obtain ⟨clause'', textual'', queries''⟩ := values value given
    exact ⟨by simp [Call.isClause, *], by simp [Call.isTextual, *], by simp [Call.queries, *]⟩
  | .target _, _ | .relation .., _ | .anyRelation .., _ | .select _, _ => ⟨rfl, rfl, rfl⟩
theorem Argument.IsNaming.plain : ∀ {a : Argument}, a.IsNaming →
    a.isClause = true ∧ a.isTextual = true ∧ a.namesTextually = true ∧ a.queries = []
  | .value _, named => ⟨rfl, rfl, named, rfl⟩
  | .body _, named => by
    obtain ⟨clauses, textual, queries⟩ := areNaming_plain named
    exact ⟨clauses, textual, rfl, queries⟩
theorem areNaming_plain : ∀ {calls : List Call}, areNaming calls →
    areClauses calls = true ∧ areTextual calls = true ∧ queriesOfAll calls = []
  | [], _ => ⟨rfl, rfl, rfl⟩
  | _ :: _, ⟨first, others⟩ => by
    obtain ⟨clause, textual, queries⟩ := Call.IsNaming.plain first
    obtain ⟨clauses, texts, more⟩ := areNaming_plain others
    exact ⟨by simp [areClauses, *], by simp [areTextual, *], by simp [queriesOfAll, *]⟩
end

/-- Known operators stand between blanks. -/
theorem spaced_mem_gaps {small : String} (h : small ∈ operators) :
    " " ++ small ++ " " ∈ gaps ∧ " " ++ uppercase small ++ " " ∈ gaps :=
  ⟨List.mem_append_right _ (List.mem_append_left _ (List.mem_map_of_mem h)),
    List.mem_append_right _ (List.mem_append_right _ (List.mem_map_of_mem h))⟩

theorem spaced_mem_gaps_of_isOperator {operator : Value} (h : isOperator operator = true) {sign : String}
    (normal : normalizeOperator operator = .ok sign) : " " ++ sign ++ " " ∈ gaps := by
  unfold isOperator at h
  split at h
  · next s =>
    have other : "<>" ∈ operators := by decide
    obtain ⟨small, capital⟩ := spaced_mem_gaps (List.contains_iff_mem.mp h)
    unfold normalizeOperator at normal
    dsimp only at normal
    split at normal
    · obtain rfl := Except.ok.inj normal
      exact (spaced_mem_gaps other).1
    · split at normal
      · cases normal
      · obtain rfl := Except.ok.inj normal
        split
        · exact capital
        · exact small
  · cases h

/-! ### Parts of queries -/

theorem areNamed_append {ps : List Predicate} : ∀ {qs : List Predicate}, areNamed qs →
    areNamed ps → areNamed (qs ++ ps)
  | [], _, h => h
  | _ :: _, h, h' => ⟨h.1, areNamed_append h.2 h'⟩

namespace Query

variable {q : Query}

theorem IsPlainSelect.other (h : q.IsPlainSelect) (labels entity : Value)
    (patterns : List (Member Pattern)) (wheres : List Predicate) (columns : Value) :
    IsPlainSelect { q with labels, entity, patterns, wheres, columns } :=
  ⟨h.stages, h.groups, h.havings, h.sortKeys, h.branches, h.limit, h.offset, h.isDistinct, h.aggregate,
    h.standIns⟩

theorem empty_isNamed : Query.empty.IsNamed := by
  refine ⟨⟨rfl, rfl, rfl, rfl, rfl, rfl, rfl, rfl, rfl, rfl⟩, fun _ h => ?_, trivial, fun columns h => ?_⟩
  · cases h
  · obtain rfl := Except.ok.inj h
    exact List.forall_mem_singleton.mpr ⟨_, rfl⟩

namespace IsNamed

variable (named : q.IsNamed)

include named

theorem other (labels entity : Value) : IsNamed { q with labels, entity } :=
  ⟨named.plain.other labels entity q.patterns q.wheres q.columns, named.nodes, named.wheres, named.columns⟩

theorem withPredicate {p : Predicate} (h : p.IsNamed) : IsNamed { q with wheres := q.wheres ++ [p] } :=
  ⟨named.plain.other q.labels q.entity q.patterns _ q.columns, named.nodes,
    areNamed_append named.wheres ⟨h, trivial⟩, named.columns⟩

theorem withPattern {p : Pattern} (h : ∀ node, p.Binds node → IsIdentifier node) :
    IsNamed { q with patterns := q.patterns ++ [.clause p] } := by
  refine ⟨named.plain.other q.labels q.entity _ q.wheres q.columns, fun p' member => ?_, named.wheres,
    named.columns⟩
  rcases List.mem_append.mp member with old | new
  · exact named.nodes p' old
  · obtain rfl := Member.clause.inj (List.mem_singleton.mp new)
    exact h

theorem withColumns {columns : List Value} (h : ∀ v ∈ columns, ∃ s, v = .text s) :
    IsNamed { q with columns := .ofList columns } := by
  refine ⟨named.plain.other q.labels q.entity q.patterns q.wheres _, named.nodes, named.wheres,
    fun chosen found => ?_⟩
  unfold chosenColumns at found
  split at found
  · obtain rfl := Except.ok.inj found
    exact h
  · obtain rfl := Except.ok.inj found
    exact List.forall_mem_singleton.mpr ⟨_, rfl⟩

theorem groupStart {start : Query} (found : Build.groupStart q = .ok start) : start.IsNamed := by
  obtain ⟨-, -, found⟩ := Result.bind_eq_ok found
  obtain rfl := Except.ok.inj found
  have empty := empty_isNamed
  refine ⟨⟨rfl, rfl, rfl, rfl, rfl, rfl, rfl, rfl, rfl, ?_⟩, named.nodes, trivial, empty.columns⟩
  simp [Build.subStart, named.plain.standIns]

theorem resolve {column : Value} (given : column.isTextual = true) {c : ColumnRef}
    (h : q.resolve column = .ok c) : c.IsNamed := by
  unfold Query.resolve at h
  split at h
  · cases given
  · exact named.resolveText h
  all_goals cases h

end IsNamed

end Query

/-! ### Steps -/

namespace Build

open Exec

variable {α β : Type}

/-- The query of the builder only asks for things by their names after the step, if it did before. -/
abbrev KeepsNamed (step : Build α) : Prop := KeepsQuery Query.IsNamed step

theorem group_keepsNamed {body : Build Unit} (h : KeepsNamed body) (joined : Value) :
    KeepsNamed (group body joined) :=
  group_keepsQuery h (fun _ _ named found => named.groupStart found)
    (fun _ _ _ inner named => named.withPredicate inner.wheres) joined

end Build

/-- Predicates about values keep what a query asks for by its name: columns are given by name, and no
query is taken in. -/
def namedPredicates : PredicateLaws fun b => b.query.IsNamed where
  columns v := v.isTextual = true
  operators v := isOperator v = true
  operands o := ∃ v, o = .value v
  nested _ := False
  bodies := Build.KeepsNamed
  references := ColumnRef.IsNamed
  signs sign := " " ++ sign ++ " " ∈ gaps
  queries _ := False
  asks _ _ := Build.ask_keepsQuery
  usesUp _ := Build.useUp_keepsQuery
  resolves _ given _ named := Build.withQuery_ends (fun _ found => ⟨named.resolve given found, named⟩) named
  binds c v _ := Build.bindValue_keepsQuery c v .filter
  knows _ := id
  normalizes _ known _ := spaced_mem_gaps_of_isOperator known
  plain := Operand.exists_value
  defers := Operand.not_deferred_of_value
  takesIn _ none := none.elim
  adds p made := Build.addPredicate_keepsQuery fun _ named => named.withPredicate (by
    cases p
    case comparedRow => exact made.2.2.elim
    case amongRows => exact made.2.elim
    case between | present | carried | nested | foreign => exact made.elim
    all_goals exact made)
  keeping _ := id
  groups _ := Build.group_keepsNamed

namespace Build

open Exec

theorem target_keepsNamed (v : Value) : KeepsNamed (target v) :=
  target_keepsQuery (fun _ labels entity named => named.other labels entity) v

theorem addNamedPattern {placeholder : Value}
    (h : ∀ node, readName placeholder = .ok node → IsIdentifier node) :
    ∀ p, Joins placeholder p → ∀ q : Query, q.IsNamed →
      Query.IsNamed { q with patterns := q.patterns ++ [.clause p] } := fun _ joins _ named =>
  named.withPattern fun node binds => (joins node binds).elim id (h node)

theorem select_keepsNamed {columns : List Value} (h : ∀ v ∈ flatColumns columns, ∃ s, v = .text s) :
    KeepsNamed (select columns) := by
  refine change_keepsQuery fun q named => named.withColumns ?_
  split
  · exact List.forall_mem_singleton.mpr ⟨_, rfl⟩
  · exact h

/-! ### Calls -/

theorem values_operand {a : Option Argument} (h : ∀ b ∈ a, b.IsValue) :
    ∀ o ∈ operand? a, ∃ v, o = .value v := by
  intro o found
  cases a with
  | none => cases found
  | some b =>
    obtain ⟨v, rfl⟩ := h b rfl
    obtain rfl := Option.some.inj found
    exact ⟨v, rfl⟩

mutual
theorem call_keepsNamed : ∀ {c : Call}, c.IsNaming → KeepsNamed c.run
  | .target v, _ => target_keepsNamed v
  | .filter column operator value joint, ⟨named, compared, given⟩ => by
    obtain ⟨textual, keys⟩ := Argument.namesTextually_operand (Argument.IsNaming.plain named).2.2.1
    exact namedPredicates.filter textual keys (argument_keepsNamed named) (values_operand compared)
      (values_operand given) joint
  | .relation .., named => relation_keepsQuery (addNamedPattern named) _ _ _ _ _ _ _
  | .anyRelation .., named => anyRelation_keepsQuery (addNamedPattern named) _ _ _ _ _ _
  | .select _, named => select_keepsNamed named
theorem argument_keepsNamed : ∀ {a : Argument}, a.IsNaming →
    ∀ build, a.operand = .body build → KeepsNamed build
  | .value _, _, _, same => by cases same
  | .body _, named, _, same => Operand.body.inj same ▸ calls_keepNamed named
theorem calls_keepNamed : ∀ {calls : List Call}, areNaming calls → KeepsNamed (runAll calls)
  | [], _ => .of_pure _
  | _ :: _, ⟨first, others⟩ => .bind (call_keepsNamed first) fun _ => calls_keepNamed others
end

/-! ### Statements -/

/-- The parameters of what such calls build are names of bindings, and none of these has a line break. -/
theorem isWhole_of_parameter {calls : List Call} (naming : areNaming calls) (number : Nat)
    (used : Remains) :
    ∀ n ∈ ((runAll calls).outcome ⟨.empty, .empty, number, used⟩).2.query.parameters, IsWhole n := by
  obtain ⟨clauses, textual, alone⟩ := areNaming_plain naming
  obtain ⟨-, ledger, reached⟩ := Reached.afterCalls (b := ⟨.empty, .empty, number, used⟩) (fun _ => []) rfl
    (.fresh number) clauses (by simp [alone])
  have spelled : BoundByName ((runAll calls).outcome ⟨.empty, .empty, number, used⟩).2.table :=
    .afterCalls .empty textual (by simp [alone])
  intro n hn _ ends
  obtain ⟨v, inside⟩ := reached.accounted.covered n hn
  have bound := Option.isSome_of_eq_some (reached.accounted.bound _ inside)
  obtain ⟨m, same, name⟩ := spelled.hasBindingNames _ (reached.accounted.named.bound_isSome_iff.mp bound)
  obtain rfl := Value.text.inj same
  exact name.2 _ (List.mem_of_mem_getLast? ends) (by decide)

/-- However the labels, types and properties are called that such calls ask for, the statement is put
together from pieces in which they stand as names, apart from what its writer says and from plain names,
and it is read as the tokens of these pieces, one by one: a name is one token. -/
theorem statement_tokens {calls : List Call} (naming : areNaming calls) {number : Nat} {used : Remains}
    {q : Query} (built : ((runAll calls).outcome ⟨.empty, .empty, number, used⟩).2.query = q)
    (whole : ∀ n ∈ q.names, IsWhole n) {text : String} (written : statementText q = .ok text) :
    ∃ pieces : List Piece, (∀ p ∈ pieces, p.IsOneOf (· ∈ q.names) (· ∈ q.parameters)) ∧
      text = String.join (pieces.map (·.text)) ∧ tokens text = some (pieces.flatMap (·.tokens)) := by
  subst built
  have named := calls_keepNamed naming ⟨.empty, .empty, number, used⟩ Query.empty_isNamed
  obtain ⟨pieces, known, same, reads⟩ :=
    statementText_spells named whole (isWhole_of_parameter naming number used) written
  exact ⟨pieces, known, same, reads.tokens⟩

/-- Names with blanks, back quotes and signs. -/
theorem statement_tokens_signs :
    let calls : List Call := [.target (.text "Blog Post"),
      .relation (.text "Blog Post") (.text "User") (.text "author") (.text "written\x60by") .null .null
        (.text "out") Call.andName,
      .equals (.text "author.first name") (.text "A"),
      .select [.text "title) RETURN 1 //", .text "author"]]
    let q := ((runAll calls).outcome ⟨.empty, .empty, 1, []⟩).2.query
    let text := "MATCH (blog_post:\x60Blog Post\x60) " ++
      "MATCH (blog_post)-[rel_written_by_author:\x60written\x60\x60by\x60]->(author:User) " ++
      "WHERE author.\x60first name\x60 = $first_name RETURN blog_post.\x60title) RETURN 1 //\x60, author"
    areNaming calls ∧ (∀ n ∈ q.names, IsWhole n) ∧ statementText q = .ok text ∧
      ∃ pieces : List Piece, (∀ p ∈ pieces, p.IsOneOf (· ∈ q.names) (· ∈ q.parameters)) ∧
        text = String.join (pieces.map (·.text)) ∧ tokens text = some (pieces.flatMap (·.tokens)) := by
  intro calls q text
  have author : IsIdentifier "author" :=
    isIdentifier_of_all 'a' "uthor".toList rfl (by decide) (by decide)
  have naming : areNaming calls := by
    refine ⟨trivial, fun node chosen => ?_, ⟨rfl, ?_, ?_⟩, ?_, trivial⟩
    · exact Except.ok.inj chosen ▸ author
    · exact fun a found => ⟨_, (Option.some.inj found).symm⟩
    · exact fun a found => ⟨_, (Option.some.inj found).symm⟩
    · exact List.forall_mem_cons.mpr ⟨⟨_, rfl⟩, List.forall_mem_singleton.mpr ⟨_, rfl⟩⟩
  have whole : ∀ n ∈ q.names, IsWhole n := by decide +kernel
  have written : statementText q = .ok text := Result.of_toOption (by decide +kernel)
  exact ⟨naming, whole, written, statement_tokens naming rfl whole written⟩

/-- The name that is chosen for a node is written as it is: with a blank in it, it is read as two names. -/
theorem statement_tokens_chosen :
    let q := ((runAll [.target (.text "User"), .relation (.text "User") (.text "Post") (.text "post x")
      (.text "POSTED") .null .null (.text "out") Call.andName]).outcome ⟨.empty, .empty, 1, []⟩).2.query
    let text := "MATCH (user:User) MATCH (user)-[rel_posted_post x:POSTED]->(post x:Post) " ++
      "RETURN user, post x"
    statementText q = .ok text ∧ ∃ ts, tokens text = some ts ∧ .name "post x" ∉ ts ∧
      .name "post" ∈ ts ∧ .name "x" ∈ ts := by
  intro q text
  refine ⟨Result.of_toOption (by decide +kernel), (tokens text).getD [], ?_⟩
  decide +kernel

end Build

end GraphQuery
