import GraphQuery.Proofs.Cypher.Labels
import Mathlib.Data.List.Dedup

/-! # Rows of a stage

The clauses of a stage work on rows, which bind names to nodes and relationships of a graph.  A stage
starts with one row that binds nothing.  Each clause goes through the rows that it gets:

* the target binds its placeholder to every node with its labels;
* a pattern that has to match extends a row in every way in which it matches, so one row can become
  several or none;
* an optional pattern does so too, but keeps a row without any match and binds the names of the
  pattern to null there;
* a condition keeps some of the rows; `holds` tells which;
* `WITH DISTINCT` leaves nothing of a row but one name, and each of the remaining rows once.

`affected` is what `count` gives for a name, and `touched` lists the nodes behind it, row by row.
No clause changes what a row binds (`MatchClause.extends_of_mem_run`).  So the target is bound to a node
with its labels in every row (`runClauses_aims`), and each row counts (`Aims.affected_eq`).  Only patterns
that match a row in several ways repeat a node (`runClauses_touched_nodup`). -/

namespace GraphQuery

open GraphQuery.Text

/-! ### Graphs -/

/-- A relationship: its start, its type and its end. -/
structure Link (ν : Type) where
  source : ν
  type : String
  target : ν

/-- The ends of a relationship as a pattern with this direction meets them, the near one first. Without
a direction there are two ways, but one if both ends are the same. -/
def Link.ends {ν : Type} [DecidableEq ν] (l : Link ν) : Direction → List (ν × ν)
  | .outgoing => [(l.source, l.target)]
  | .incoming => [(l.target, l.source)]
  | .either => [(l.source, l.target), (l.target, l.source)].dedup

/-- A graph of labelled nodes. Relationships are told apart by their places in the list. -/
structure Graph (ν : Type) where
  nodes : List ν
  labels : ν → List String
  links : List (Link ν)
  distinct : nodes.Nodup
  closed : ∀ l ∈ links, l.source ∈ nodes ∧ l.target ∈ nodes

/-- Whether a node has the labels that a pattern writes. -/
def Graph.fits {ν : Type} (g : Graph ν) (labels : List String) (v : ν) : Bool :=
  labels.all fun l => l = "" ∨ l ∈ g.labels v

/-- Whether the relationship of a pattern may have a type. -/
def FarEnd.takes : FarEnd → String → Bool
  | .node _ relationship, type => relationship = type
  | .anyNode _ none, _ => true
  | .anyNode _ (some relationship), type => relationship = "" ∨ relationship = type
  | .foreign _ _, _ => false

/-- The variable for the relationship of a pattern. -/
def FarEnd.variable : FarEnd → String
  | .node pattern relationship => Cypher.relationshipVariable relationship pattern.placeholder
  | .anyNode placeholder _ => "rel_" ++ placeholder
  | .foreign _ _ => ""

/-! ### Rows -/

/-- What a name stands for in a row. -/
inductive Bound (ν : Type) where
  | node (v : ν)
  | link (place : ℕ)
  | null
deriving DecidableEq

/-- A row: names with what they stand for. -/
abbrev MatchRow (ν : Type) := List (String × Bound ν)

variable {ν : Type}

namespace MatchRow

/-- The row with a name bound. A name that is bound already has to stand for the same, and a new one
has to fit. -/
def bind? [DecidableEq ν] (r : MatchRow ν) (name : String) (b : Bound ν) (fits : Bool) :
    Option (MatchRow ν) :=
  match lookup? name r with
  | some known => if known = b then some r else none
  | none => if fits then some (put name b r) else none

/-- The row with a name bound to null, unless it is bound already. -/
def orNull (r : MatchRow ν) (name : String) : MatchRow ν :=
  if (lookup? name r).isSome then r else put name .null r

/-- What a name stands for. -/
def get (name : String) (r : MatchRow ν) : Bound ν := (lookup? name r).getD .null

/-- The node that a name stands for. -/
def node? (name : String) (r : MatchRow ν) : Option ν :=
  match get name r with
  | .node v => some v
  | _ => none

/-- Whether a row binds all that another one binds, to the same. -/
def Extends (r r' : MatchRow ν) : Prop := ∀ name b, lookup? name r = some b → lookup? name r' = some b

theorem Extends.refl (r : MatchRow ν) : Extends r r := fun _ _ => id

theorem Extends.trans {r r' r'' : MatchRow ν} (h : Extends r r') (h' : Extends r' r'') :
    Extends r r'' :=
  fun name b bound => h' name b (h name b bound)

/-- A new name does not change the others. -/
theorem extends_put {r : MatchRow ν} {name : String} (new : lookup? name r = none) (b : Bound ν) :
    Extends r (put name b r) := by
  intro other b' bound
  rw [lookup?_put]
  by_cases same : name = other
  · subst same
    rw [new] at bound
    cases bound
  · rwa [if_neg same]

theorem bind?_eq_some [DecidableEq ν] {r r' : MatchRow ν} {name : String} {b : Bound ν} {fits : Bool}
    (h : r.bind? name b fits = some r') : Extends r r' ∧ lookup? name r' = some b := by
  unfold bind? at h
  cases known : lookup? name r with
  | some c =>
    rw [known] at h
    obtain ⟨rfl, same⟩ := Option.ite_none_right_eq_some.mp h
    obtain rfl := Option.some.inj same
    exact ⟨.refl r, known⟩
  | none =>
    rw [known] at h
    obtain ⟨-, same⟩ := Option.ite_none_right_eq_some.mp h
    obtain rfl := Option.some.inj same
    exact ⟨extends_put known b, by rw [lookup?_put, if_pos rfl]⟩

theorem extends_orNull (r : MatchRow ν) (name : String) : Extends r (r.orNull name) := by
  unfold orNull
  split
  · exact .refl r
  · next new => exact extends_put (Option.not_isSome_iff_eq_none.mp new) .null

theorem node?_eq_some {r : MatchRow ν} {name : String} {v : ν} :
    node? name r = some v ↔ lookup? name r = some (.node v) := by
  unfold node? get
  cases lookup? name r with
  | none => simp
  | some b => cases b <;> simp

end MatchRow

/-! ### The nodes behind a name -/

/-- The nodes behind a name, one for each row. -/
def touched (node : String) (rows : List (MatchRow ν)) : List ν := rows.filterMap (MatchRow.node? node)

/-- In every row the placeholder of a node stands for a node of the graph with the labels. -/
def Aims (g : Graph ν) (n : NodePattern) (rows : List (MatchRow ν)) : Prop :=
  ∀ r ∈ rows, ∃ v ∈ g.nodes, g.fits n.labels v ∧ lookup? n.placeholder r = some (.node v)

section aims

variable {g : Graph ν} {n : NodePattern}

theorem Aims.mem_touched {rows : List (MatchRow ν)} (h : Aims g n rows) {v : ν}
    (member : v ∈ touched n.placeholder rows) : v ∈ g.nodes ∧ g.fits n.labels v := by
  obtain ⟨r, here, node⟩ := List.mem_filterMap.mp member
  obtain ⟨w, known, fits, bound⟩ := h r here
  obtain rfl := Bound.node.inj (Option.some.inj (bound.symm.trans (MatchRow.node?_eq_some.mp node)))
  exact ⟨known, fits⟩

/-- Each row has a node, so the nodes are as many as the rows. -/
theorem Aims.touched_length {rows : List (MatchRow ν)} (h : Aims g n rows) :
    (touched n.placeholder rows).length = rows.length := by
  unfold touched
  rw [List.length_filterMap_eq_countP, List.countP_eq_length]
  intro r member
  obtain ⟨v, -, -, bound⟩ := h r member
  rw [MatchRow.node?_eq_some.mpr bound]
  rfl

/-- Where each row becomes one at most, the nodes stay in order and none is repeated. -/
theorem touched_flatMap_sublist {f : MatchRow ν → List (MatchRow ν)}
    (keeps : ∀ r, ∀ r' ∈ f r, r.Extends r') : ∀ {rows : List (MatchRow ν)}, Aims g n rows →
      (∀ r ∈ rows, (f r).length ≤ 1) →
      (touched n.placeholder (rows.flatMap f)).Sublist (touched n.placeholder rows)
  | [], _, _ => .slnil
  | r :: rest, h, single => by
    have later : (touched n.placeholder (rest.flatMap f)).Sublist (touched n.placeholder rest) :=
      touched_flatMap_sublist keeps (fun r member => h r (List.mem_cons_of_mem _ member))
        fun r member => single r (List.mem_cons_of_mem _ member)
    obtain ⟨v, -, -, bound⟩ := h r (List.mem_cons_self ..)
    have node : MatchRow.node? n.placeholder r = some v := MatchRow.node?_eq_some.mpr bound
    have whole : touched n.placeholder (r :: rest) = v :: touched n.placeholder rest := by
      simp [touched, node]
    rw [whole, List.flatMap_cons]
    unfold touched at later ⊢
    rw [List.filterMap_append]
    match found : f r with
    | [] => exact later.cons v
    | [r'] =>
      have node' : MatchRow.node? n.placeholder r' = some v :=
        MatchRow.node?_eq_some.mpr (keeps r r' (found ▸ List.mem_singleton_self r') _ _ bound)
      simpa [node'] using later
    | _ :: _ :: _ =>
      have one := single r (List.mem_cons_self ..)
      rw [found] at one
      simp at one

end aims

/-! ### Clauses -/

/-- A clause of the stage of a query, or what stands between it and a change. -/
inductive MatchClause where
  /-- the nodes that the query is for -/
  | target (n : NodePattern)
  /-- a pattern that has to match -/
  | required (p : Pattern)
  /-- a pattern that may be missing -/
  | optional (p : Pattern)
  /-- the text of a condition on rows; none if it is empty -/
  | kept (clause : String)
  /-- each value of a name once, and nothing else -/
  | once (node : String)

section run

variable [DecidableEq ν] (g : Graph ν) (holds : String → MatchRow ν → Bool)

/-- The ways in which a pattern matches a row, one for each relationship and each way through it. -/
def Graph.matches (p : Pattern) (r : MatchRow ν) : List (MatchRow ν) :=
  g.links.zipIdx.flatMap fun (l, place) => (l.ends p.direction).filterMap fun (near, far) =>
    if p.far.takes l.type then do
      let r ← r.bind? p.parent.placeholder (.node near) (g.fits p.parent.labels near)
      let r ← r.bind? p.far.variable (.link place) true
      r.bind? p.far.placeholder (.node far) (g.fits p.far.toNode.labels far)
    else none

/-- The matches that meet the condition of an optional pattern. -/
def Graph.allowed (p : Pattern) (r : MatchRow ν) : List (MatchRow ν) :=
  let constraint := Cypher.constraintText parameter p
  (g.matches p r).filter fun r => constraint = "" ∨ holds constraint r

/-- A row without a match of an optional pattern. -/
def MatchRow.without (r : MatchRow ν) (p : Pattern) : MatchRow ν :=
  ((r.orNull p.parent.placeholder).orNull p.far.variable).orNull p.far.placeholder

/-- What a clause makes of rows. -/
def MatchClause.run : MatchClause → List (MatchRow ν) → List (MatchRow ν)
  | target n, rows => rows.flatMap fun r =>
      g.nodes.filterMap fun v => r.bind? n.placeholder (.node v) (g.fits n.labels v)
  | required p, rows => rows.flatMap (g.matches p)
  | optional p, rows => rows.flatMap fun r =>
      if g.allowed holds p r = [] then [r.without p] else g.allowed holds p r
  | kept clause, rows => if clause = "" then rows else rows.filter (holds clause)
  | once node, rows => (rows.map fun r => [(node, MatchRow.get node r)]).dedup

/-- What clauses make of the row that binds nothing, one after another. -/
def runClauses (clauses : List MatchClause) : List (MatchRow ν) :=
  clauses.foldl (fun rows c => c.run g holds rows) [[]]

/-- The count of a name: null does not count. -/
def affected (node : String) (rows : List (MatchRow ν)) : ℕ :=
  (rows.filter fun r => MatchRow.get node r ≠ .null).length

end run

/-! ### What one clause keeps -/

theorem MatchRow.extends_without (r : MatchRow ν) (p : Pattern) : r.Extends (r.without p) :=
  (r.extends_orNull _).trans ((extends_orNull _ _).trans (extends_orNull _ _))

variable [DecidableEq ν] {g : Graph ν} {holds : String → MatchRow ν → Bool}

theorem Graph.extends_of_mem_matches {p : Pattern} {r r' : MatchRow ν} (h : r' ∈ g.matches p r) :
    r.Extends r' := by
  obtain ⟨⟨l, place⟩, -, h⟩ := List.mem_flatMap.mp h
  obtain ⟨⟨near, far⟩, -, h⟩ := List.mem_filterMap.mp h
  obtain ⟨-, h⟩ := Option.ite_none_right_eq_some.mp h
  obtain ⟨r₁, first, h⟩ := Option.bind_eq_some_iff.mp h
  obtain ⟨r₂, second, third⟩ := Option.bind_eq_some_iff.mp h
  exact (MatchRow.bind?_eq_some first).1.trans
    ((MatchRow.bind?_eq_some second).1.trans (MatchRow.bind?_eq_some third).1)

/-- A row behind a clause binds what a row ahead of it binds, unless the clause leaves one name alone. -/
theorem MatchClause.extends_of_mem_run {c : MatchClause} {rows : List (MatchRow ν)} {r' : MatchRow ν}
    (h : r' ∈ c.run g holds rows) : (∃ r ∈ rows, r.Extends r') ∨
      ∃ node, c = .once node ∧ ∃ r ∈ rows, r' = [(node, MatchRow.get node r)] := by
  cases c with
  | target n =>
    obtain ⟨r, member, h⟩ := List.mem_flatMap.mp h
    obtain ⟨v, -, bound⟩ := List.mem_filterMap.mp h
    exact Or.inl ⟨r, member, (MatchRow.bind?_eq_some bound).1⟩
  | required p =>
    obtain ⟨r, member, h⟩ := List.mem_flatMap.mp h
    exact Or.inl ⟨r, member, Graph.extends_of_mem_matches h⟩
  | optional p =>
    obtain ⟨r, member, h⟩ := List.mem_flatMap.mp h
    refine Or.inl ⟨r, member, ?_⟩
    split at h
    · obtain rfl := List.mem_singleton.mp h
      exact r.extends_without p
    · exact Graph.extends_of_mem_matches (List.mem_filter.mp h).1
  | kept clause =>
    refine Or.inl ⟨r', ?_, .refl r'⟩
    rw [run] at h
    split at h
    · exact h
    · exact (List.mem_filter.mp h).1
  | once node =>
    obtain ⟨r, member, rfl⟩ := List.mem_map.mp (List.mem_dedup.mp h)
    exact Or.inr ⟨node, rfl, r, member, rfl⟩

namespace Aims

variable {n : NodePattern} {rows : List (MatchRow ν)}

/-- No clause loses the target, if `WITH DISTINCT` is for the target. -/
theorem step (h : Aims g n rows) {c : MatchClause}
    (same : ∀ node, c = .once node → node = n.placeholder) : Aims g n (c.run g holds rows) := by
  intro r' member
  rcases MatchClause.extends_of_mem_run member with
    ⟨r, earlier, extended⟩ | ⟨node, once, r, earlier, rfl⟩
  · obtain ⟨v, known, fits, bound⟩ := h r earlier
    exact ⟨v, known, fits, extended _ _ bound⟩
  · obtain rfl := same node once
    obtain ⟨v, known, fits, bound⟩ := h r earlier
    exact ⟨v, known, fits, by simp [lookup?, MatchRow.get, bound]⟩

/-- The target is bound by its own clause, and by no later clause anew. -/
theorem foldl {clauses : List MatchClause} (same : ∀ node, .once node ∈ clauses → node = n.placeholder)
    (h : Aims g n rows) : Aims g n (clauses.foldl (fun rows c => c.run g holds rows) rows) := by
  induction clauses generalizing rows with
  | nil => exact h
  | cons c rest ih =>
    refine ih (fun node member => same node (List.mem_cons_of_mem _ member)) (h.step fun node own => ?_)
    exact same node (own ▸ List.mem_cons_self ..)

theorem affected_eq (h : Aims g n rows) :
    affected n.placeholder rows = (touched n.placeholder rows).length := by
  rw [h.touched_length]
  unfold affected
  rw [List.filter_eq_self.mpr]
  intro r member
  obtain ⟨v, -, -, bound⟩ := h r member
  simp [MatchRow.get, bound]

/-- `WITH DISTINCT` leaves each of the nodes once. -/
theorem touched_once (h : Aims g n rows) :
    touched n.placeholder ((MatchClause.once n.placeholder).run g holds rows) =
      (touched n.placeholder rows).dedup := by
  have alone : rows.map (fun r => [(n.placeholder, MatchRow.get n.placeholder r)]) =
      (touched n.placeholder rows).map fun v => [(n.placeholder, Bound.node v)] := by
    induction rows with
    | nil => rfl
    | cons r rest ih =>
      obtain ⟨v, -, -, bound⟩ := h r (List.mem_cons_self ..)
      have node : MatchRow.node? n.placeholder r = some v := MatchRow.node?_eq_some.mpr bound
      rw [List.map_cons, ih fun r member => h r (List.mem_cons_of_mem _ member)]
      simp [touched, node, MatchRow.get, bound]
  have apart : Function.Injective fun v : ν => [(n.placeholder, Bound.node v)] := by
    intro v w same
    simpa using same
  have back : ∀ vs : List ν,
      touched n.placeholder (vs.map fun v => [(n.placeholder, Bound.node v)]) = vs := by
    intro vs
    simp [touched, Function.comp_def, MatchRow.node?, MatchRow.get, lookup?]
  show touched n.placeholder (List.dedup _) = _
  rw [alone, List.dedup_map_of_injective apart, back]

end Aims

theorem aims_target (n : NodePattern) : Aims g n ((MatchClause.target n).run g holds [[]]) := by
  intro r member
  obtain ⟨v, known, bound⟩ := List.mem_filterMap.mp (by simpa [MatchClause.run] using member)
  refine ⟨v, known, ?_, (MatchRow.bind?_eq_some bound).2⟩
  exact (Option.ite_none_right_eq_some.mp bound).1

/-- Whatever stands behind the clause of the target, every row has a node with the labels. -/
theorem runClauses_aims {n : NodePattern} {clauses : List MatchClause}
    (same : ∀ node, .once node ∈ clauses → node = n.placeholder) :
    Aims g n (runClauses g holds (.target n :: clauses)) :=
  show Aims g n (clauses.foldl _ _) from Aims.foldl same (aims_target n)

/-! ### Which clauses repeat a node -/

/-- Clauses that do not repeat any of these rows: no pattern but a required one that matches each of them
in one way at most. -/
def MatchClause.IsSingle (g : Graph ν) (rows : List (MatchRow ν)) : MatchClause → Prop
  | .target _ | .optional _ => False
  | .required p => ∀ r ∈ rows, (g.matches p r).length ≤ 1
  | .kept _ | .once _ => True

namespace Aims

variable {n : NodePattern} {rows : List (MatchRow ν)}

theorem touched_nodup_step (h : Aims g n rows) {c : MatchClause} (single : c.IsSingle g rows)
    (same : ∀ node, c = .once node → node = n.placeholder)
    (nodup : (touched n.placeholder rows).Nodup) :
    (touched n.placeholder (c.run g holds rows)).Nodup := by
  cases c with
  | target _ => exact single.elim
  | optional _ => exact single.elim
  | required p =>
    exact nodup.sublist (touched_flatMap_sublist (fun _ _ => Graph.extends_of_mem_matches) h single)
  | kept clause =>
    rw [MatchClause.run]
    split
    · exact nodup
    · exact nodup.sublist (List.filter_sublist.filterMap _)
  | once node =>
    obtain rfl := same node rfl
    rw [h.touched_once]
    exact List.nodup_dedup _

theorem touched_nodup_foldl {clauses : List MatchClause}
    (single : ∀ before c after, clauses = before ++ c :: after →
      c.IsSingle g (before.foldl (fun rows c => c.run g holds rows) rows))
    (same : ∀ node, .once node ∈ clauses → node = n.placeholder) (h : Aims g n rows)
    (nodup : (touched n.placeholder rows).Nodup) :
    (touched n.placeholder (clauses.foldl (fun rows c => c.run g holds rows) rows)).Nodup := by
  induction clauses generalizing rows with
  | nil => exact nodup
  | cons c rest ih =>
    have own : ∀ node, c = .once node → node = n.placeholder :=
      fun node own => same node (own ▸ List.mem_cons_self ..)
    refine ih (fun before c' after parts => ?_)
      (fun node member => same node (List.mem_cons_of_mem _ member)) (h.step own) ?_
    · exact single (c :: before) c' after (congrArg (c :: ·) parts)
    · exact h.touched_nodup_step (single [] c rest rfl) own nodup

end Aims

theorem touched_target_nodup (n : NodePattern) :
    (touched n.placeholder ((MatchClause.target n).run g holds [[]])).Nodup := by
  have row : ∀ v, (MatchRow.bind? [] n.placeholder (Bound.node v) (g.fits n.labels v)).bind
      (MatchRow.node? n.placeholder) = Option.guard (g.fits n.labels ·) v := by
    intro v
    cases fits : g.fits n.labels v <;>
      simp [MatchRow.bind?, Option.guard, fits, MatchRow.node?, MatchRow.get, lookup?, put]
  have whole : touched n.placeholder ((MatchClause.target n).run g holds [[]]) =
      g.nodes.filter (g.fits n.labels ·) := by
    simp only [MatchClause.run, List.flatMap_cons, List.flatMap_nil, List.append_nil, touched,
      List.filterMap_filterMap, row, List.filterMap_eq_filter]
  rw [whole]
  exact g.distinct.filter _

/-- Where no clause behind the target repeats the rows that it gets, each node is taken once. -/
theorem runClauses_touched_nodup {n : NodePattern} {clauses : List MatchClause}
    (single : ∀ before c after, clauses = before ++ c :: after →
      c.IsSingle g (runClauses g holds (.target n :: before)))
    (same : ∀ node, .once node ∈ clauses → node = n.placeholder) :
    (touched n.placeholder (runClauses g holds (.target n :: clauses))).Nodup :=
  show (touched n.placeholder (clauses.foldl _ _)).Nodup from
    Aims.touched_nodup_foldl single same (aims_target n) (touched_target_nodup n)

end GraphQuery
