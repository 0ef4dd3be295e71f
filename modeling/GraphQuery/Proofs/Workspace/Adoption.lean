import GraphQuery.Proofs.Builder.Taking
import GraphQuery.Proofs.Cypher.Copies
import GraphQuery.Proofs.Workspace.Composed

/-! # Taking in a query that was built on its own

A builder is given another one that has a table of its own, for a sub-query or for a branch of a
union. `Workspace.Composed.adoption` says what becomes of the two, in every workspace in which
queries have been composed:

* the clause holds a copy, whose statement is that of the other builder with each parameter under a
  new name, and the copy has no statement exactly if the other builder has none;
* the new names are bound to the values that the other builder binds, and different names stay
  different;
* the other builder stays as it is, and so does every value that the builder had bound before. -/

namespace GraphQuery

open BindingTable Build Cypher Text

namespace Workspace

variable {w : Workspace} {n m : Nat} {s t : BuilderSlot} {b : Builder}

/-! ### Builders on other tables -/

theorem Sound.query_setBuilder (h : w.Sound) (e : w.builders[n]? = some s)
    (found : w.builders[m]? = some t) (apart : t.table ≠ s.table) :
    (w.setBuilder n b).query m = w.query m := by
  have other : ∀ k, w.OnTable t.table k → k ≠ n := by
    rintro k ⟨u, there, shared⟩ rfl
    rw [e] at there
    obtain rfl := Option.some.inj there
    exact apart shared.symm
  have found' : (w.setBuilder n b).builders[m]? = some t := by
    rw [builders_setBuilder e, if_neg (other m ⟨t, found, rfl⟩), found]
  have length : (w.setBuilder n b).builders.length = w.builders.length := List.length_set
  have same : ∀ k, w.OnTable t.table k →
      w.storedQuery? k = (w.setBuilder n b).storedQuery? k := by
    intro k on
    unfold storedQuery?
    rw [builders_setBuilder e, if_neg (other k on)]
  rw [query_eq found, query_eq found', length]
  exact (Query.refreshFrom_congr (h.closed t.table) same _ _ (h m t found).plain).symm

theorem relinkAll_eq_map (target : LinkTarget) : ∀ wheres : List Predicate,
    relinkAll target wheres = wheres.map (·.relink target)
  | [] => rfl
  | p :: rest => congrArg (p.relink target :: ·) (relinkAll_eq_map target rest)

theorem relinkBranches_eq_map (target : LinkTarget) : ∀ branches : List Branch,
    relinkBranches target branches = branches.map fun branch =>
      ⟨branch.query.relink target .branch, branch.keepsAll⟩
  | [] => rfl
  | _ :: rest => congrArg (_ :: ·) (relinkBranches_eq_map target rest)

theorem rows?_relink (target : LinkTarget) (p : Predicate) :
    (p.relink target).rows? = p.rows?.map (·.relink target .condition) := by
  cases p <;> rfl

/-- A sub-query without links that a call has added stays there when links are followed. -/
theorem taken_relink {c : Call} {q : Query} {s : SubQuery} (target : LinkTarget)
    (taken : c.taken q = some s) (plain : s.IsPlain noLink) :
    c.taken (q.relink target) = some s := by
  have rows : lastRows (q.relink target) = (lastRows q).map (·.relink target .condition) := by
    show (relinkAll target q.wheres).getLast?.bind (·.rows?) = _
    rw [relinkAll_eq_map, List.getLast?_map]
    unfold lastRows
    cases q.wheres.getLast? with
    | none => rfl
    | some p => exact rows?_relink target p
  have branch : lastBranch (q.relink target) = (lastBranch q).map (·.relink target .branch) := by
    show (relinkBranches target q.branches).getLast?.map (·.query) = _
    rw [relinkBranches_eq_map, List.getLast?_map]
    unfold lastBranch
    cases q.branches.getLast? <;> rfl
  cases c with
  | union _ _ =>
      show lastBranch (q.relink target) = some s
      rw [branch, show lastBranch q = some s from taken]
      exact congrArg some (SubQuery.relink_eq_self .branch s plain)
  | _ =>
      show lastRows (q.relink target) = some s
      rw [rows, show lastRows q = some s from taken]
      exact congrArg some (SubQuery.relink_eq_self .condition s plain)

/-! ### The law of adoption -/

/-- A copy of a query in a builder: `r` gives the new names of its bindings. -/
structure Adopted (q : Query) (table : BindingTable) (before after : BindingTable) (copy : Query)
    (r : String → String) : Prop where
  statement : statementText copy = selectText (fun name => parameter (r name)) q
  fails : ∀ e, statementText copy = .error e ↔ statementText q = .error e
  bound : ∀ name v, table.bound name = some v → after.bound (r name) = some v
  injective : ∀ x y, .text x ∈ table.names → .text y ∈ table.names → r x = r y → x = y
  apart : ∀ name, .text name ∈ table.names → .text (r name) ∉ before.names

/-- A builder that has gone on has its own table, and every link of its query is followed again. -/
theorem Sound.builder_setBuilder (h : w.Sound) (e : w.builders[n]? = some s) :
    ((w.setBuilder n b).builder n).table = b.table ∧
      ∃ target, (w.setBuilder n b).query n = b.query.relink target := by
  have here : (w.setBuilder n b).builders[n]? = some { s with query := b.query } := by
    rw [builders_setBuilder e, if_pos rfl]
  rw [builder_eq here, query_eq here]
  refine ⟨?_, _, rfl⟩
  show (w.setBuilder n b).table s.table = b.table
  rw [table_setBuilder h e, if_pos rfl]

/-- A builder takes in another one that has a table of its own. -/
theorem Composed.adoption {w : Workspace} (h : w.Composed) {n m : Nat} (hn : n < w.builders.length)
    (hm : m < w.builders.length) (apart : (w.slot m).table ≠ (w.slot n).table) {c : Call}
    (adopts : c.Adopts (w.incoming m)) {result : Result Unit} {w' : Workspace}
    (run : (c.run.within (builderPart n)).outcome w = (result, w')) :
    (result = .ok () → ∃ copy r, c.taken (w'.query n) = some (.own copy) ∧
      Adopted (w.query m) (w.builder m).table (w.builder n).table (w'.builder n).table copy r) ∧
    ((w.query m).IsPlain closedLink → result = c.fits (w.query n)) ∧
    (w.builder n).table.Grows (w'.builder n).table ∧
    w'.query m = w.query m ∧ (w'.builder m).table = (w.builder m).table := by
  obtain ⟨s, e⟩ := exists_slot hn
  obtain ⟨t, found⟩ := exists_slot hm
  rw [slot_eq e, slot_eq found] at apart
  have sound := h.sound
  have ready := sound.ready e
  have plain := sound.query_isPlain found
  have number : (w.incoming m).tableNumber ≠ (w.builder n).tableNumber := by
    rw [incoming_eq found, builder_eq e]
    exact apart
  have named : (w.incoming m).table.WellNamed := by
    rw [incoming_eq found]
    exact (sound m t found).named
  have absorbed := absorb_absorbed (w.builder n).table named
  have ends := adopts.ends ready plain.standIns named number
  cases o : c.run.outcome (w.builder n) with
  | mk outcome b =>
  have whole : (c.run.within (builderPart n)).outcome w = (outcome, w.setBuilder n b) := by
    show ((c.run.outcome (w.builder n)).1, w.setBuilder n (c.run.outcome (w.builder n)).2) = _
    rw [o]
  obtain ⟨rfl, rfl⟩ := Prod.mk.inj (whole.symm.trans run)
  obtain ⟨own, target, linked⟩ := sound.builder_setBuilder (b := b) e
  refine ⟨fun ok => ?_, fun closed => ?_, ?_, sound.query_setBuilder e found apart, ?_⟩
  · obtain ⟨copy, b₁, taken, added, table⟩ := ends.1 () b (ok ▸ o)
    obtain ⟨q, rfl, statement, fails⟩ := statementText_copy absorbed.filled plain taken.copied
    have links : (SubQuery.own q).IsPlain noLink :=
      SubQuery.rename_isPlain _ (SubQuery.isPlain_own.mpr plain) taken.copied
    refine ⟨q, _, linked ▸ taken_relink target added links, statement, fails, ?_,
      absorbed.injective, absorbed.apart⟩
    rw [own, table, taken.table]
    exact absorbed.carried
  · have result := adopts.result ready closed number
    rw [o] at result
    exact result
  · rw [own]
    cases outcome with
    | ok _ =>
        obtain ⟨copy, b₁, taken, -, table⟩ := ends.1 () b o
        rw [table, taken.table]
        exact absorbed.kept
    | error f => exact ends.2 f b o
  · have there : (w.setBuilder n b).builders[m]? = some t := by
      rw [builders_setBuilder e, if_neg, found]
      rintro rfl
      rw [e] at found
      exact apart (congrArg BuilderSlot.table (Option.some.inj found)).symm
    rw [builder_eq there, builder_eq found]
    show (w.setBuilder n b).table t.table = w.table t.table
    rw [table_setBuilder sound e, if_neg apart]

/-- A query whose names are all taken, one of them by a nested sub-query and one by a percentile. -/
theorem Composed.adoption_renamed : ∃ (w w' : Workspace) (c : Call), w.Composed ∧
    (c.run.within (builderPart 0)).outcome w = (.ok (), w') ∧
    (statementText (w.query 1)).toOption = some ("MATCH (post:Post) WHERE post.age = $age AND " ++
      "EXISTS \x7b MATCH (tag:Tag) WHERE tag.age = $age_2 RETURN tag \x7d " ++
      "RETURN percentileDisc(post.score, $percentile) AS aggregate") ∧
    ∃ copy r, c.taken (w'.query 0) = some (.own copy) ∧
      Adopted (w.query 1) (w.builder 1).table (w.builder 0).table (w'.builder 0).table copy r := by
  have two := ((Composed.start (w := Workspace.empty) rfl).step (.opened none rfl)).step
    (.opened none rfl)
  have taken := (two.step (.called (n := 0) (by decide +kernel) (.target (.text "User")) rfl
    fun _ h => by cases h)).step (.called (n := 0) (by decide +kernel)
      (.equals (.text "age") (.int 30)) rfl fun _ h => by cases h)
  have labelled := taken.step (.called (n := 1) (by decide +kernel) (.target (.text "Post")) rfl
    fun _ h => by cases h)
  have filtered := labelled.step (.called (n := 1) (by decide +kernel)
    (.equals (.text "age") (.int 3)) rfl fun _ h => by cases h)
  have nested := filtered.step (.called (n := 1) (by decide +kernel) (.present (.body
    [.target (.text "Tag"), .equals (.text "age") (.int 5)]) (.text "and") (.bool false)) rfl
    fun _ h => by cases h)
  have bound := nested.step (.bound (n := 1) (by decide +kernel) "percentile" (by decide)
    (.double ⟨1022 * 2 ^ 52⟩) .projection)
  obtain ⟨w, composed, first, second, apart, ran, text⟩ : ∃ w : Workspace, w.Composed ∧
      0 < w.builders.length ∧ 1 < w.builders.length ∧ (w.slot 1).table ≠ (w.slot 0).table ∧
      (((Call.present (.query (w.incoming 1)) (.text "and") (.bool false)).run.within
        (builderPart 0)).outcome w).1.toOption = some () ∧
      (statementText (w.query 1)).toOption = some ("MATCH (post:Post) WHERE post.age = $age AND " ++
        "EXISTS \x7b MATCH (tag:Tag) WHERE tag.age = $age_2 RETURN tag \x7d " ++
        "RETURN percentileDisc(post.score, $percentile) AS aggregate") :=
    ⟨_, bound.step (.aggregated (n := 1) (by decide +kernel)
      (some ⟨"percentile_disc", [.text "score"], "aggregate", some "percentile"⟩)
      fun p named => by obtain rfl := Option.some.inj named; decide +kernel),
      by decide +kernel, by decide +kernel, by decide +kernel, by decide +kernel,
      by decide +kernel⟩
  cases run : ((Call.present (.query (w.incoming 1)) (.text "and") (.bool false)).run.within
    (builderPart 0)).outcome w with
  | mk result w' =>
  rw [run] at ran
  obtain rfl : result = .ok () := by
    cases result with
    | ok _ => rfl
    | error _ => cases ran
  obtain ⟨copies, -⟩ := composed.adoption first second apart (.present _ _) run
  exact ⟨w, w', _, composed, run, text, copies rfl⟩

end Workspace

end GraphQuery
