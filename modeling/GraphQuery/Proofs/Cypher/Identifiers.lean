import GraphQuery.Proofs.Cypher.GroupNames
import GraphQuery.Proofs.Cypher.Tokens

/-! # Identifiers

Every name in a statement is one token.  The names of labels, types, properties and parameters are written as
they are or between back quotes; the names of nodes, their placeholders, are always written as they are, and
so they have to be plain names.

* `Written` : a name in one of its two forms.  `nameRead` : the name that the written form of a name is read
  as, which is the name itself, except that a line break behind a plain name is lost.
* `quote_names` : the written forms of all names.
* `needPlaceholder_of_givesLabels`, `resolve_isPlaceholder` : labels and resolved columns have placeholders
  that are plain names.
* `StandsAlone` : a placeholder is one token wherever it is printed. -/

namespace GraphQuery

open GraphQuery.Text

namespace Cypher

/-! ### Plain names -/

theorem isPlainRest_append {cs : List Char} (h : ∀ c ∈ cs, isNamePart c = true) :
    isPlainRest (cs ++ ['\n']) = true := by
  induction cs with
  | nil => rfl
  | cons c cs ih =>
    obtain ⟨first, others⟩ := List.forall_mem_cons.mp h
    rw [List.cons_append, isPlainRest]
    · rw [first, ih others]
      rfl
    · simp

/-- What is taken for a plain name is one, or one with a line break behind it. -/
theorem isPlainName_iff {s : String} :
    isPlainName s.toList = true ↔ IsIdentifier s ∨ ∃ w, IsIdentifier w ∧ s = w ++ "\n" := by
  constructor
  · intro plain
    obtain ⟨c, w, first, word, shape⟩ := isPlainName_cases plain
    have parts {d : Char} (member : d ∈ s.toList) := isNamePart_of_mem_isPlainName plain member
    -- a line break is no part of a word
    have named (inside : ∀ d ∈ w, d ∈ s.toList) : ∀ d ∈ w, isNamePart d = true := by
      refine fun d member => (parts (inside d member)).resolve_right ?_
      rintro rfl
      exact absurd (word '\n' member) (by decide)
    rcases shape with chars | chars
    · exact Or.inl ⟨c, w, chars, first, named fun d member => chars ▸ List.mem_cons_of_mem _ member⟩
    · have own := named fun d member => by
        rw [chars]
        exact List.mem_append_left _ (List.mem_cons_of_mem _ member)
      refine Or.inr ⟨String.ofList (c :: w), ⟨c, w, String.toList_ofList, first, own⟩, ?_⟩
      apply String.toList_injective
      simp [chars]
  · rintro (⟨c, cs, chars, first, others⟩ | ⟨w, ⟨c, cs, chars, first, others⟩, rfl⟩)
    · rw [chars, isPlainName, first, isPlainRest_of_isNamePart others]
      rfl
    · rw [String.toList_append, chars, List.cons_append, isPlainName, first]
      exact isPlainRest_append others

theorem IsIdentifier.isWhole {s : String} (h : IsIdentifier s) : IsWhole s := by
  intro _ last
  exact absurd (h.isPlainText '\n' (List.mem_of_getLast? last)) (by decide)

theorem not_isWhole_iff {s : String} : ¬ IsWhole s ↔ ∃ w, IsIdentifier w ∧ s = w ++ "\n" := by
  constructor
  · intro broken
    by_cases plain : isPlainName s.toList = true
    · exact (isPlainName_iff.mp plain).resolve_left fun own => broken own.isWhole
    · exact absurd (fun plain' => absurd plain' plain) broken
  · rintro ⟨w, word, rfl⟩ whole
    refine whole (isPlainName_iff.mpr (Or.inr ⟨w, word, rfl⟩)) ?_
    rw [String.toList_append]
    exact List.getLast?_concat

/-! ### Quoted names -/

/-- A name is written as it is, if it is a plain name, or between back quotes, with a second one behind each
of its own. -/
inductive Written (n : String) : String → Prop
  | plain : IsIdentifier n → Written n n
  | quoted {content : List Char} : undoubleBackquotes content = n.toList →
      Written n (String.ofList (backquote :: (content ++ [backquote])))

/-- The name that is read: without the line break behind a plain name. -/
def nameRead (n : String) : String := if IsWhole n then n else String.ofList n.toList.dropLast

theorem nameRead_of_isWhole {n : String} (h : IsWhole n) : nameRead n = n := if_pos h

theorem nameRead_lineBreak {w : String} (h : IsIdentifier w) : nameRead (w ++ "\n") = w := by
  rw [nameRead, if_neg (not_isWhole_iff.mpr ⟨w, h, rfl⟩)]
  simp [String.toList_append]

theorem quote_of_isPlainName {n : String} (h : isPlainName n.toList = true) : quote n = n := by
  rw [quote, quoteChars, if_pos h, String.ofList_toList]

/-- Exactly the names without such a line break are written in one of the two forms. -/
theorem written_quote_iff {n : String} : Written n (quote n) ↔ IsWhole n := by
  constructor
  · intro written
    by_contra broken
    obtain ⟨w, word, rfl⟩ := not_isWhole_iff.mp broken
    have plain := isPlainName_iff.mpr (Or.inr ⟨w, word, rfl⟩)
    rw [quote_of_isPlainName plain] at written
    generalize same : w ++ "\n" = n at written
    cases written with
    | plain own => exact broken (same ▸ own.isWhole)
    | quoted content =>
      have chars := congrArg String.toList same
      rw [String.toList_ofList] at chars
      rw [chars] at plain
      cases plain
  · intro whole
    by_cases plain : isPlainName n.toList = true
    · rw [quote_of_isPlainName plain]
      refine .plain ((isPlainName_iff.mp plain).resolve_right fun broken => ?_)
      exact not_isWhole_iff.mpr broken whole
    · rw [quote, quoteChars, if_neg plain]
      exact .quoted (undoubleBackquotes_doubleBackquotes _)

theorem reads_quote_nameRead (n : String) : Reads (quote n) [.name (nameRead n)] := by
  by_cases whole : IsWhole n
  · rw [nameRead_of_isWhole whole]
    exact reads_quote whole
  · obtain ⟨w, word, rfl⟩ := not_isWhole_iff.mp whole
    rw [nameRead_lineBreak word, quote_of_isPlainName (isPlainName_iff.mpr (Or.inr ⟨w, word, rfl⟩))]
    intro rest _
    have blank : Reading.bare.tokensFrom ('\n' :: rest) = Reading.bare.tokensFrom rest := by
      have step : Reading.bare.step '\n' = some (.bare, []) := by decide +kernel
      rw [Reading.tokensFrom, step, Option.bind_some]
      simp
    have behind := reads_identifier word ('\n' :: rest) (by simp [Delimits, backquote]; decide)
    rw [blank] at behind
    simpa [String.toList_append] using behind

theorem tokens_quote (n : String) : tokens (quote n) = some [.name (nameRead n)] :=
  (reads_quote_nameRead n).tokens

theorem tokens_quote_iff {n : String} : tokens (quote n) = some [.name n] ↔ IsWhole n := by
  rw [tokens_quote]
  constructor
  · intro same
    by_contra broken
    obtain ⟨w, word, rfl⟩ := not_isWhole_iff.mp broken
    rw [nameRead_lineBreak word] at same
    have lengths := congrArg String.length (Token.name.inj (List.head_eq_of_cons_eq (Option.some.inj same)))
    simp at lengths
  · intro whole
    rw [nameRead_of_isWhole whole]

/-- Every name is written as one identifier.  It is written in one of the two forms, and read as itself,
exactly if it is no plain name with a line break behind it; such a name is written as it is and read
without the line break.  No two names have the same form, and no two names without such line breaks are
read as the same. -/
theorem quote_names (n : String) :
    tokens (quote n) = some [.name (nameRead n)] ∧
    (Written n (quote n) ↔ IsWhole n) ∧
    (tokens (quote n) = some [.name n] ↔ IsWhole n) ∧
    (¬ IsWhole n ↔ ∃ w, IsIdentifier w ∧ n = w ++ "\n" ∧ quote n = n ∧ nameRead n = w) ∧
    (∀ m, quote n = quote m → n = m) ∧
    ∀ m, IsWhole n → IsWhole m → tokens (quote n) = tokens (quote m) → n = m := by
  refine ⟨tokens_quote n, written_quote_iff, tokens_quote_iff, ?_, fun _ same => quote_injective same,
    fun m first second same => ?_⟩
  · rw [not_isWhole_iff]
    constructor
    · rintro ⟨w, word, rfl⟩
      have plain := isPlainName_iff.mpr (Or.inr ⟨w, word, rfl⟩)
      exact ⟨w, word, rfl, quote_of_isPlainName plain, nameRead_lineBreak word⟩
    · rintro ⟨w, word, shape, -⟩
      exact ⟨w, word, shape⟩
  · rw [tokens_quote_iff.mpr first, tokens_quote_iff.mpr second] at same
    exact Token.name.inj (List.head_eq_of_cons_eq (Option.some.inj same))

/-- The line break is not between back quotes, and so it is lost. -/
theorem quote_names_break :
    quote "user\n" = "user\n" ∧ ¬ Written "user\n" (quote "user\n") ∧
      tokens (quote "user\n") = tokens (quote "user") := by
  refine ⟨by decide +kernel, ?_, by decide +kernel⟩
  rw [written_quote_iff]
  decide +kernel

/-! ### Placeholders -/

theorem isPlaceholder_of_all {text : String} (c : Char) (cs : List Char) (chars : text.toList = c :: cs)
    (digit : isPlainDigit c = false) (part : (c :: cs).all isPlaceholderPart = true) : IsPlaceholder text :=
  ⟨c, cs, chars, digit, List.all_eq_true.mp part⟩

/-- Labels as callers give them: one text, or anything that consists of texts. -/
inductive GivesLabels : Value → List String → Prop
  | one (label : String) : GivesLabels (.text label) [label]
  | several {v : Value} {labels : List String} : v.text? = none → v.members? = some (labels.map .text) →
      GivesLabels v labels

theorem presentLabels_of_givesLabels {v : Value} {labels : List String} (h : GivesLabels v labels) :
    presentLabels v = .ok ((labels.filter (· ≠ "")).map .text) := by
  cases h with
  | one label =>
    rw [presentLabels]
    by_cases empty : label = "" <;> simp [empty]
  | several other consists =>
    have truthy : (labels.map Value.text).filter (·.isTruthy) = (labels.filter (· ≠ "")).map .text := by
      have same : Value.isTruthy ∘ .text = fun label : String => decide (label ≠ "") := by
        funext label
        exact (decide_not (p := label = "")).symm
      rw [List.filter_map]
      exact congrArg (fun keeps => (labels.filter keeps).map Value.text) same
    unfold presentLabels
    split
    · simp [Value.members?] at consists
    · cases other
    · rw [Value.members, consists]
      exact congrArg Except.ok truthy

/-- Labels of which one is not empty give a placeholder. -/
theorem needPlaceholder_of_givesLabels {v : Value} {labels : List String} (h : GivesLabels v labels)
    (filled : ∃ label ∈ labels, label ≠ "") :
    ∃ p, (presentLabels v >>= needPlaceholder) = .ok p ∧ IsPlaceholder p := by
  obtain ⟨label, member, other⟩ := filled
  have present : label ∈ labels.filter (· ≠ "") := List.mem_filter.mpr ⟨member, decide_eq_true other⟩
  rw [presentLabels_of_givesLabels h]
  have full : ∀ l ∈ labels.filter (· ≠ ""), l ≠ "" := fun l inside =>
    of_decide_eq_true (List.mem_filter.mp inside).2
  generalize labels.filter (· ≠ "") = rest at present full
  cases rest with
  | nil => cases present
  | cons first rest =>
    refine ⟨_, ?_, placeholderOf_isPlaceholder (full first List.mem_cons_self) rest⟩
    show (labelTexts ((first :: rest).map .text)).map placeholderOf = _
    rw [labelTexts_texts]
    rfl

/-- The node of a column behind a text that is no known placeholder. -/
theorem resolve_isPlaceholder {q : Query} {column : String} {owner name : List Char} {ref : ColumnRef}
    (dotted : splitAtFirst '.' (trim column).toList = some (owner, name))
    (unknown : q.knows (String.ofList owner) = .ok false) (resolved : q.resolve (.text column) = .ok ref) :
    ∃ p, ref.placeholder = some p ∧ IsPlaceholder p := by
  have point : '.' ∈ (trim column).toList := splitAtFirst_isSome_iff.mp (Option.isSome_of_eq_some dotted)
  obtain ⟨p, found, same⟩ : ∃ p, q.ownerPlaceholder (String.ofList owner) = .ok p ∧
      ref.placeholder = some p := by
    cases Query.resolves_of_resolve resolved with
    | called call => exact (not_mem_of_identityCall? call point).elim
    | owned _ cut found =>
      obtain ⟨rfl, -⟩ := Prod.mk.inj (Option.some.inj (dotted.symm.trans cut))
      exact ⟨_, found, rfl⟩
    | identity bare =>
      rw [bare] at point
      exact absurd point (by decide)
    | property _ whole => cases dotted.symm.trans whole
  refine ⟨p, same, ?_⟩
  unfold Query.ownerPlaceholder at found
  rw [unknown] at found
  change (q.ask .grammar "model_as_node" >>= fun _ => needPlaceholder _) = _ at found
  obtain ⟨-, -, found⟩ := Result.bind_eq_ok found
  refine needPlaceholder_isPlaceholder (fun v member => ?_) found
  split at member
  · cases member
  · next filled =>
    obtain rfl := List.mem_singleton.mp member
    simpa [Value.isTruthy] using filled

/-! ### Where placeholders stand -/

/-- The tokens of labels. -/
def labelTokens (labels : List String) : List Token :=
  (labels.filter (· ≠ "")).flatMap fun label => [.sign ':', .name (nameRead label)]

theorem reads_labels (labels : List String) {text : String} {ts : List Token} (h : Reads text ts) :
    Reads (text ++ labelText labels) (ts ++ labelTokens labels) := by
  unfold labelText labelTokens
  generalize labels.filter (· ≠ "") = labels
  induction labels generalizing text ts with
  | nil => simpa using h
  | cons label rest ih =>
    have first := ih (h.behind (by decide : ":" ∈ gaps) (reads_quote_nameRead label))
    have colon : (Piece.fixed ":").tokens = [.sign ':'] := by decide +kernel
    simpa [colon, String.append_assoc] using first

theorem reads_parentheses {text : String} {ts : List Token} (h : Reads text ts) :
    Reads ("(" ++ text ++ ")") (.sign '(' :: ts ++ [.sign ')']) :=
  (h.front (by decide : "(" ∈ openers ++ gaps)).close (by decide : ")" ∈ gaps)

theorem reads_joined : ∀ {names : List String}, (∀ n ∈ names, IsIdentifier n) →
    Reads (joined ", " names) (List.intercalate [.sign ','] (names.map fun n => [.name n]))
  | [], _ => reads_empty
  | [n], h => by
    rw [joined, String.intercalate_singleton]
    exact reads_identifier (h n List.mem_cons_self)
  | n :: m :: rest, h => by
    obtain ⟨first, others⟩ := List.forall_mem_cons.mp h
    have comma : (Piece.fixed ", ").tokens = [.sign ','] := by decide +kernel
    have whole := (reads_identifier first).behind (by decide : ", " ∈ gaps) (reads_joined others)
    rw [comma] at whole
    rw [joined, String.intercalate_cons_cons, List.map_cons, List.map_cons, List.intercalate_cons_cons]
    exact whole

/-- Wherever a placeholder is printed it is one token. -/
structure StandsAlone (p : String) : Prop where
  pattern : ∀ labels seen text later, nodeText ⟨p, labels⟩ seen = .ok (text, later) →
    tokens text = some (.sign '(' :: .name p ::
      (if (lookup? p seen).isSome then [] else labelTokens labels) ++ [.sign ')'])
  property : ∀ name, ∃ text, columnText ⟨name, some p, false⟩ = .ok text ∧
    tokens text = some [.name p, .sign '.', .name (nameRead name)]
  identity : ∀ name, ∃ text, columnText ⟨name, some p, true⟩ = .ok text ∧
    tokens text = some [.name "id", .sign '(', .name p, .sign ')']
  item : ∀ q : Query, q.knows p = .ok true → expressionText q (.text p) = .ok p ∧ tokens p = some [.name p]

theorem IsIdentifier.standsAlone {p : String} (h : IsIdentifier p) : StandsAlone p where
  pattern labels seen text later written := by
    cases nodeText_eq_ok_iff.mp written with
    | again found =>
      rw [found, (reads_parentheses (reads_identifier h)).tokens]
      rfl
    | first new =>
      have shape : "(" ++ p ++ labelText labels ++ ")" = "(" ++ (p ++ labelText labels) ++ ")" := by
        simp only [String.append_assoc]
      rw [new, shape, (reads_parentheses (reads_labels labels (reads_identifier h))).tokens]
      rfl
  property name := by
    have owner : ColumnRef.owner? ⟨name, some p, false⟩ = some p := by
      simp [ColumnRef.owner?, Option.filter, h.ne_empty]
    have point : (Piece.fixed ".").tokens = [.sign '.'] := by decide +kernel
    have reads := (reads_identifier h).behind (by decide : "." ∈ gaps) (reads_quote_nameRead name)
    rw [point] at reads
    refine ⟨p ++ "." ++ quote name, ?_, reads.tokens⟩
    rw [columnText, owner]
  identity name := by
    have owner : ColumnRef.owner? ⟨name, some p, true⟩ = some p := by
      simp [ColumnRef.owner?, Option.filter, h.ne_empty]
    have call : (Piece.fixed "id(").tokens = [.name "id", .sign '('] := by decide +kernel
    have opened := (reads_identifier h).front (by decide : "id(" ∈ openers ++ gaps)
    have reads := opened.close (by decide : ")" ∈ gaps)
    rw [call] at reads
    refine ⟨"id(" ++ p ++ ")", ?_, reads.tokens⟩
    rw [columnText, owner]
  item q known := by
    refine ⟨?_, (reads_identifier h).tokens⟩
    rw [expressionText, known]
    split <;> rfl

theorem returnItems_tokens {q : Query} {seen : Introduced} {items : List String}
    (unstaged : isStaged q = false) (whole : q.hasStages = false) (chosen : chosenColumns q = .ok [star])
    (named : ∀ entry ∈ seen, IsIdentifier entry.1) (returned : returnItems q seen = .ok items) :
    tokens (joined ", " items) =
      some (List.intercalate [.sign ','] (seen.map fun entry => [.name entry.1])) := by
  have all : items = seen.map (·.1) := by
    cases returnsItems_of_returnItems returned with
    | carried staged => cases unstaged.symm.trans staged
    | everything _ _ explicit => cases whole.symm.trans explicit
    | nodes => rfl
    | listed _ found single =>
      obtain rfl := Except.ok.inj (chosen.symm.trans found)
      cases single
  rw [all, (reads_joined fun n member => ?_).tokens, List.map_map]
  · rfl
  · obtain ⟨entry, inside, rfl⟩ := List.mem_map.mp member
    exact named entry inside

/-- Labels of which one is not empty give a placeholder, whatever characters they have; a placeholder is one
token in a pattern, in a column and as an item, and where all of them are returned; and the node of a column
is one if the text before the point is no known placeholder. -/
theorem placeholders_stand_alone :
    (∀ v labels, GivesLabels v labels → (∃ label ∈ labels, label ≠ "") →
      ∃ p, (presentLabels v >>= needPlaceholder) = .ok p ∧ IsPlaceholder p) ∧
    (∀ p, IsPlaceholder p → StandsAlone p) ∧
    (∀ (q : Query) seen items, isStaged q = false → q.hasStages = false → chosenColumns q = .ok [star] →
      (∀ entry ∈ seen, IsPlaceholder entry.1) → returnItems q seen = .ok items →
      tokens (joined ", " items) =
        some (List.intercalate [.sign ','] (seen.map fun entry => [.name entry.1]))) ∧
    ∀ (q : Query) column owner name ref, splitAtFirst '.' (trim column).toList = some (owner, name) →
      q.knows (String.ofList owner) = .ok false → q.resolve (.text column) = .ok ref →
      ∃ p, ref.placeholder = some p ∧ IsPlaceholder p :=
  ⟨fun _ _ given filled => needPlaceholder_of_givesLabels given filled,
    fun _ plain => plain.isIdentifier.standsAlone,
    fun _ _ _ unstaged whole chosen plain returned => returnItems_tokens unstaged whole chosen
      (fun entry member => (plain entry member).isIdentifier) returned,
    fun _ _ _ _ _ dotted unknown resolved => resolve_isPlaceholder dotted unknown resolved⟩

/-- A digit comes first among labels that are not plain, a letter becomes two characters, and the node of a
column is given by its label. -/
theorem placeholders_stand_alone_mixed :
    let q := (LiveQuery.afterCalls [.target (.text "User")]).query
    (∃ p, (presentLabels (.ofTexts ["", "3D", "İd"]) >>= needPlaceholder) = .ok p ∧ IsPlaceholder p) ∧
    StandsAlone "n_3d_i_d" ∧
    tokens (joined ", " ["user", "n_3d_i_d"]) = some [.name "user", .sign ',', .name "n_3d_i_d"] ∧
    ∃ ref, q.resolve (.text "Blog Post.title") = .ok ref ∧
      ∃ p, ref.placeholder = some p ∧ IsPlaceholder p := by
  obtain ⟨labels, alone, items, columns⟩ := placeholders_stand_alone
  have plain : IsPlaceholder "n_3d_i_d" :=
    isPlaceholder_of_all 'n' "_3d_i_d".toList rfl (by decide) (by decide)
  have user : IsPlaceholder "user" := isPlaceholder_of_all 'u' "ser".toList rfl (by decide) (by decide)
  intro q
  refine ⟨labels _ _ (.several rfl rfl) ⟨"3D", by simp, by decide⟩, alone _ plain, ?_, ?_⟩
  · exact items q [("user", ["User"]), ("n_3d_i_d", ["3D", "İd"])] _ (by decide +kernel) (by decide +kernel)
      rfl (by simp [plain, user]) (Result.of_toOption (by decide +kernel))
  · have resolved : q.resolve (.text "Blog Post.title") = .ok ⟨"title", some "blog_post", false⟩ :=
      Result.of_toOption (by decide +kernel)
    refine ⟨_, resolved, columns q _ "Blog Post".toList "title".toList _ (by decide +kernel) ?_ resolved⟩
    exact Result.of_toOption (by decide +kernel)

end Cypher

end GraphQuery
