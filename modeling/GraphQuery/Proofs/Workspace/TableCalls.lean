import GraphQuery.Command.Run
import GraphQuery.Proofs.Binding.Searches
import GraphQuery.Proofs.Binding.SeparateBuckets

/-! # Calls on tables of bindings

A `TableCall` is one call of a command on a table of a workspace, with texts for names.

* `TableCall.tables_run` : what a call makes of the tables.
* `TableCall.separate_run_iff` : which calls put a name into a second bucket.  It takes a call that stores
  under exact names to do that: an `add`, a `replace` or a `restore`.
* `afterCalls_separate` : what any number of calls makes of empty tables. -/

namespace GraphQuery

open BindingTable Binding

/-! ### Calls -/

/-- Values under texts, as a map holds them: of a text that is given twice the last value counts. -/
def textMap (values : List (String × Value)) : Row := ofEntries (values.map fun p => (.text p.1, p.2))

/-- What can be asked of a table. -/
inductive TableRequest where
  | add (name : String) (v : Value) (bucket : String)
  | bind (base : String) (v : Value) (bucket : String)
  | replace (bucket : String) (values : List (String × Value))
  | clear (bucket : String)
  | backup (buckets : List String)
  | restore (snapshot : List (String × List (String × Value)))
  /-- takes in the table with a number -/
  | absorb (other : Nat)
  | copy

namespace TableRequest

/-- Contents of buckets under the names that are given for these. -/
def contents (snapshot : List (String × List (String × Value))) : Row :=
  textMap (snapshot.map fun p => (p.1, .ofPairs (textMap p.2)))

/-- The command that it is made by. -/
def command : TableRequest → String
  | add .. => "add"
  | bind .. => "bind"
  | replace .. => "replace"
  | clear _ => "clear"
  | backup _ => "backup"
  | restore _ => "restore"
  | absorb _ => "absorb"
  | copy => "copy"

/-- The arguments of the command. -/
def arguments (w : Workspace) : TableRequest → List Value
  | add name v bucket => [.text name, v, .text bucket]
  | bind base v bucket => [.text base, v, .text bucket]
  | replace bucket values => [.text bucket, .ofPairs (textMap values)]
  | clear bucket => [.text bucket]
  | backup buckets => buckets.map .text
  | restore snapshot => [.ofPairs (contents snapshot)]
  | absorb other => [w.object (.table other)]
  | copy => []

end TableRequest

/-- A call on the table with a number. -/
structure TableCall where
  table : Nat
  request : TableRequest

/-- The workspace after a call, which may have failed. -/
def TableCall.run (w : Workspace) (c : TableCall) : Workspace :=
  ((Command.runPlain (w.object (.table c.table)) c.request.command
    ⟨w, c.request.arguments w, []⟩).outcome w).2

/-! ### What a call does -/

/-- A table after a change to a bucket; there is none if no bucket has the name. -/
def BindingTable.changed (t : BindingTable) (bucket : String) (change : Bucket → BindingTable) :
    BindingTable :=
  (Bucket.named (.text bucket)).toOption.elim t change

namespace TableRequest

/-- What it makes of the table with a number. -/
def result (w : Workspace) (n : Nat) : TableRequest → BindingTable
  | add name v bucket => (w.table n).changed bucket ((w.table n).add (.text name) v)
  | bind base v bucket => (w.table n).changed bucket fun b => ((w.table n).bind base v b).2
  | replace bucket values => (w.table n).changed bucket fun b => (w.table n).replace b (textMap values)
  | clear bucket => (w.table n).changed bucket (w.table n).clear
  | backup buckets => ((BindingTable.backup (buckets.map .text)).outcome (w.table n)).2
  | restore snapshot => ((restoreNamed (contents snapshot)).outcome (w.table n)).2
  | absorb other => if n = other then w.table n else ((w.table n).absorb (w.table other)).1
  | copy => w.table n

/-- The tables that it makes besides. -/
def fresh (w : Workspace) (n : Nat) : TableRequest → List BindingTable
  | copy => [w.table n]
  | _ => []

end TableRequest

theorem Workspace.set_table (w : Workspace) (n : Nat) : w.tables.set n (w.table n) = w.tables := by
  unfold Workspace.table
  by_cases there : n < w.tables.length
  · simp [there]
  · rw [List.set_eq_of_length_le (Nat.le_of_not_lt there)]

theorem tables_onBucket (w : Workspace) (n : Nat) (bucket : String)
    (change : Bucket → Exec BindingTable Command.Reply) :
    ((Command.onBucket n (Bucket.named (.text bucket)) change).outcome w).2.tables =
      w.tables.set n ((w.table n).changed bucket fun b => ((change b).outcome (w.table n)).2) := by
  unfold BindingTable.changed
  cases h : Bucket.named (.text bucket) with
  | ok b => rfl
  | error e => exact (w.set_table n).symm

theorem outcome_replaceNamed (t : BindingTable) (bucket : String) (row : Row) :
    ((replaceNamed (.text bucket) (.ofPairs row)).outcome t).2 =
      t.changed bucket fun b => t.replace b row := by
  unfold replaceNamed changed
  cases Bucket.named (.text bucket) <;> rfl

theorem tables_within {α : Type} (w : Workspace) (n : Nat) (step : Exec BindingTable α)
    (answer : α → Command.Reply) :
    (((step.within (Workspace.tablePart n)) >>= fun a => pure (answer a) :
      Command.Step).outcome w).2.tables = w.tables.set n (step.outcome (w.table n)).2 := by
  rw [Exec.outcome_bind, Exec.outcome_within]
  cases (step.outcome ((Workspace.tablePart n).get w)).1 <;> rfl

theorem TableCall.tables_run (w : Workspace) : ∀ c : TableCall,
    (TableCall.run w c).tables =
      w.tables.set c.table (c.request.result w c.table) ++ c.request.fresh w c.table
  | ⟨n, .add name v bucket⟩ => (tables_onBucket w n bucket _).trans (List.append_nil _).symm
  | ⟨n, .bind base v bucket⟩ => by
    refine (tables_onBucket w n bucket _).trans (Eq.trans ?_ (List.append_nil _).symm)
    congr 2
    funext b
    show ((Exec.ofResult ((w.table n).nameBesides (.text base) (.tuple [])) >>= _).outcome _).2 = _
    rw [((w.table n).gives_uniqueName base []).asked _ Value.reserves_nothing]
    rfl
  | ⟨n, .replace bucket values⟩ => by
    refine Eq.trans ?_ (List.append_nil _).symm
    show ((discard (Exec.ofResult (Bucket.named (.text bucket))) >>= fun _ =>
      (replaceNamed (.text bucket) (.ofPairs (textMap values))).within (Workspace.tablePart n) >>=
        fun _ => pure Command.Reply.nothing : Command.Step).outcome w).2.tables = _
    have replaced := outcome_replaceNamed (w.table n) bucket (textMap values)
    cases h : Bucket.named (.text bucket) with
    | ok b =>
      exact (tables_within w n _ fun _ => Command.Reply.nothing).trans (congrArg (w.tables.set n) replaced)
    | error e =>
      show w.tables = w.tables.set n ((w.table n).changed bucket _)
      rw [changed, h]
      exact (w.set_table n).symm
  | ⟨n, .clear bucket⟩ => (tables_onBucket w n bucket _).trans (List.append_nil _).symm
  | ⟨n, .backup buckets⟩ => (tables_within w n _ _).trans (List.append_nil _).symm
  | ⟨n, .restore snapshot⟩ => (tables_within w n _ _).trans (List.append_nil _).symm
  | ⟨n, .absorb other⟩ => by
    refine Eq.trans ?_ (List.append_nil _).symm
    show ((Workspace.absorbTable n other >>= fun renames => pure (.table renames) :
      Command.Step).outcome w).2.tables = w.tables.set n
        (if n = other then w.table n else ((w.table n).absorb (w.table other)).1)
    unfold Workspace.absorbTable
    by_cases own : n = other
    · rw [if_pos own, if_pos own, w.set_table]
      rfl
    · rw [if_neg own, if_neg own]
      rfl
  | ⟨n, .copy⟩ => by
    show w.tables ++ [w.table n] = w.tables.set n (w.table n) ++ [w.table n]
    rw [w.set_table]

/-! ### Names in two buckets -/

namespace BindingTable

variable {t : BindingTable}

theorem changed_cases (t : BindingTable) (bucket : String) (change : Bucket → BindingTable) :
    (∃ b, b.name = bucket ∧ t.changed bucket change = change b) ∨
      Bucket.IsUnknown bucket ∧ t.changed bucket change = t := by
  unfold changed
  rcases Bucket.named_or_unknown bucket with ⟨b, rfl⟩ | unknown
  · exact Or.inl ⟨b, rfl, by rw [b.named_name]; rfl⟩
  · exact Or.inr ⟨unknown, by rw [Bucket.named_unknown unknown]; rfl⟩

end BindingTable

theorem mem_putEntry_text {s : String} {v : Value} {e : Value × Value} : ∀ {row : Row},
    e ∈ putEntry (.text s) v row → e ∈ row ∨ e = (.text s, v)
  | [], member => Or.inr (List.mem_singleton.mp member)
  | (k, w) :: row, member => by
    rw [putEntry] at member
    split at member
    case isTrue agrees =>
      obtain rfl := (text_same_iff s k).mp agrees
      exact (List.mem_cons.mp member).elim Or.inr fun later => Or.inl (List.mem_cons_of_mem _ later)
    case isFalse =>
      rcases List.mem_cons.mp member with rfl | later
      · exact Or.inl List.mem_cons_self
      · exact (mem_putEntry_text later).imp_left (List.mem_cons_of_mem _)

theorem mem_textMap {values : List (String × Value)} {e : Value × Value}
    (member : e ∈ textMap values) : ∃ p ∈ values, e = (.text p.1, p.2) := by
  have grown : ∀ {values : List (String × Value)} {row : Row},
      e ∈ (values.map fun p => (Value.text p.1, p.2)).foldl (fun t e => putEntry e.1 e.2 t) row →
        e ∈ row ∨ ∃ p ∈ values, e = (.text p.1, p.2) := by
    intro values
    induction values with
    | nil => exact fun member => Or.inl member
    | cons p rest ih =>
      intro row member
      rcases ih member with before | ⟨q, later, same⟩
      · refine (mem_putEntry_text before).imp_right fun own => ⟨p, List.mem_cons_self, own⟩
      · exact Or.inr ⟨q, List.mem_cons_of_mem _ later, same⟩
  exact (grown member).resolve_left List.not_mem_nil

theorem mem_keys_textMap {values : List (String × Value)} {k : Value} :
    k ∈ (textMap values).map Prod.fst ↔ ∃ p ∈ values, k = .text p.1 := by
  constructor
  · intro member
    obtain ⟨e, inside, rfl⟩ := List.mem_map.mp member
    obtain ⟨p, given, rfl⟩ := mem_textMap inside
    exact ⟨p, given, rfl⟩
  · rintro ⟨p, given, rfl⟩
    refine text_mem_keys_ofEntries_iff.mpr (List.mem_map.mpr ⟨(.text p.1, p.2), ?_, rfl⟩)
    exact List.mem_map.mpr ⟨p, given, rfl⟩

/-- Putting one content back: it is put into its bucket and the others follow, or that is all, since no
bucket has the name. -/
theorem restoreNamed_cons (t : BindingTable) (s : String) (row rest : Row) :
    (∃ b : Bucket, b.name = s ∧ (restoreNamed ((.text s, .ofPairs row) :: rest)).outcome t =
      (restoreNamed rest).outcome (t.replace b row)) ∨
    ((restoreNamed ((.text s, .ofPairs row) :: rest)).outcome t).2 = t := by
  have first : (restoreNamed ((.text s, .ofPairs row) :: rest)).outcome t =
      (replaceNamed (.text s) (.ofPairs row) >>= fun _ => restoreNamed rest).outcome t := rfl
  rcases Bucket.named_or_unknown s with ⟨b, rfl⟩ | unknown
  · refine Or.inl ⟨b, rfl, ?_⟩
    rw [first, Exec.outcome_bind_ok (outcome_replaceNamed_name b row t)]
  · refine Or.inr ?_
    rw [first, replaceNamed, Bucket.named_unknown unknown]
    rfl

/-- After contents are put back by name, a bucket is as before or has one of them. -/
theorem bucket_restoreNamed (b : Bucket) : ∀ (entries : Row) (t : BindingTable),
    (∀ e ∈ entries, ∃ s row, e = (.text s, .ofPairs row)) →
      ((restoreNamed entries).outcome t).2.bucket b = t.bucket b ∨
        (.text b.name, .ofPairs (((restoreNamed entries).outcome t).2.bucket b)) ∈ entries
  | [], _, _ => Or.inl rfl
  | (k, v) :: rest, t, shape => by
    obtain ⟨⟨s, row, same⟩, others⟩ := List.forall_mem_cons.mp shape
    obtain ⟨rfl, rfl⟩ := Prod.mk.inj same
    rcases restoreNamed_cons t s row rest with ⟨c, rfl, later⟩ | stopped
    · rw [later]
      rcases bucket_restoreNamed b rest (t.replace c row) others with before | inside
      · rw [before, bucket_replace]
        split
        · next own => exact Or.inr (own ▸ List.mem_cons_self)
        · exact Or.inl rfl
      · exact Or.inr (List.mem_cons_of_mem _ inside)
    · exact Or.inl (by rw [stopped])

/-- What holds of a table and of it after each change holds whatever the name of the bucket is. -/
theorem BindingTable.changed_of {p : BindingTable → Prop} {t : BindingTable} {bucket : String}
    {change : Bucket → BindingTable} (unchanged : p t) (each : ∀ b, p (change b)) :
    p (t.changed bucket change) := by
  rcases changed_cases t bucket change with ⟨b, -, e⟩ | ⟨-, e⟩
  · rw [e]
    exact each b
  · rw [e]
    exact unchanged

theorem BindingTable.changed_separate_iff {t : BindingTable} {bucket : String}
    {change : Bucket → BindingTable} {held : Bucket → Prop} (separate : t.Separate)
    (each : ∀ b, (change b).Separate ↔ ∀ c, c ≠ b → ¬ held c) :
    (t.changed bucket change).Separate ↔ ¬ ∃ b c : Bucket, b.name = bucket ∧ c ≠ b ∧ held c := by
  rcases changed_cases t bucket change with ⟨b, rfl, e⟩ | ⟨unknown, e⟩
  · rw [e, each b]
    constructor
    · rintro apart ⟨b', c, same, differ, held⟩
      obtain rfl := Bucket.name_injective same
      exact apart c differ held
    · exact fun apart c differ held => apart ⟨b, c, rfl, differ, held⟩
  · rw [e]
    exact iff_of_true separate fun ⟨b, _, same, _⟩ => unknown b same

theorem keyed_textMap (values : List (String × Value)) :
    (∀ k ∈ (textMap values).map Prod.fst, ∃ s, k = .text s) ∧ DistinctKeys (textMap values) :=
  ⟨fun _ member => (mem_keys_textMap.mp member).imp' Prod.fst fun _ h => h.2, distinctKeys_ofEntries _⟩

namespace TableRequest

variable {w : Workspace} {n : Nat}

theorem mem_contents {snapshot : List (String × List (String × Value))} {e : Value × Value}
    (member : e ∈ contents snapshot) :
    ∃ p ∈ snapshot, e = (.text p.1, .ofPairs (textMap p.2)) := by
  obtain ⟨q, given, rfl⟩ := mem_textMap member
  obtain ⟨p, kept, rfl⟩ := List.mem_map.mp given
  exact ⟨p, kept, rfl⟩

theorem bucket_restored (snapshot : List (String × List (String × Value))) (t : BindingTable)
    (b : Bucket) : ((restoreNamed (contents snapshot)).outcome t).2.bucket b = t.bucket b ∨
      ∃ p ∈ snapshot, ((restoreNamed (contents snapshot)).outcome t).2.bucket b = textMap p.2 := by
  have shape : ∀ e ∈ contents snapshot, ∃ s row, e = (.text s, .ofPairs row) := fun e member => by
    obtain ⟨p, -, rfl⟩ := mem_contents member
    exact ⟨_, _, rfl⟩
  refine (bucket_restoreNamed b _ t shape).imp_right fun inside => ?_
  obtain ⟨p, kept, same⟩ := mem_contents inside
  exact ⟨p, kept, (Value.map.inj (Prod.mk.inj same).2).1⟩

/-- Names stay texts, and no bucket gets one twice. -/
theorem result_keyed (keyed : ∀ i, (w.table i).TextKeyed) : ∀ r : TableRequest,
    (r.result w n).TextKeyed
  | add name v _ => changed_of (keyed n) fun b => (keyed n).add name v b
  | bind _ v _ => changed_of (keyed n) fun b => (keyed n).add _ v b
  | replace _ values => changed_of (keyed n) fun b => (keyed n).of_buckets fun c => by
      rw [bucket_replace]
      split
      · exact Or.inr (keyed_textMap values)
      · exact Or.inl rfl
  | clear _ => changed_of (keyed n) fun b => (keyed n).of_buckets fun c => by
      rw [bucket_clear]
      split
      · exact Or.inr (keyed_textMap [])
      · exact Or.inl rfl
  | backup buckets => (keyed n).of_buckets fun b => (bucket_backup b buckets (w.table n)).imp_right
      fun emptied => by
        rw [result, emptied]
        exact keyed_textMap []
  | restore snapshot => (keyed n).of_buckets fun b => (bucket_restored snapshot (w.table n) b).imp_right
      fun kept => by
        obtain ⟨p, -, same⟩ := kept
        rw [result, same]
        exact keyed_textMap p.2
  | absorb other => by
    rw [result]
    split
    · exact keyed n
    · exact (absorb_keyed (keyed n) (keyed other).texts).1
  | copy => keyed n

/-- The names in kept contents. -/
def storedNames (snapshot : List (String × List (String × Value))) : List Value :=
  snapshot.flatMap fun p => p.2.map fun q => .text q.1

theorem mem_storedNames {snapshot : List (String × List (String × Value))} {k : Value} :
    k ∈ storedNames snapshot ↔ ∃ p ∈ snapshot, ∃ q ∈ p.2, k = .text q.1 := by
  simp only [storedNames, List.mem_flatMap, List.mem_map, eq_comm]

/-- Whether a name that it stores stands in another bucket then. -/
def Repeats (t : BindingTable) : TableRequest → Prop
  | add name _ bucket => ∃ b c : Bucket, b.name = bucket ∧ c ≠ b ∧ .text name ∈ (t.bucket c).map Prod.fst
  | replace bucket values => ∃ b c : Bucket, b.name = bucket ∧ c ≠ b ∧
      ∃ p ∈ values, .text p.1 ∈ (t.bucket c).map Prod.fst
  | restore snapshot => ∃ p ∈ snapshot, ∃ q ∈ p.2,
      ((restoreNamed (contents snapshot)).outcome t).2.Shares (.text q.1)
  | _ => False

/-- The buckets stay separate exactly if no name is repeated. -/
theorem result_separate_iff (keyed : ∀ i, (w.table i).TextKeyed) (separate : (w.table n).Separate) :
    ∀ r : TableRequest, (r.result w n).Separate ↔ ¬ r.Repeats (w.table n)
  | add name v _ => changed_separate_iff separate fun b => separate_add_iff separate name v b
  | bind base v bucket => by
    refine iff_of_true (changed_of separate fun b => ?_) id
    exact separate.add_new ((w.table n).uniqueName_not_mem base) v b
  | replace _ values => changed_separate_iff separate fun b => by
    rw [BindingTable.replace, separate_withBucket_iff separate _ (fun k member => Or.inr member) fun _ => id]
    constructor
    · rintro apart c differ ⟨p, given, inside⟩
      exact apart _ (mem_keys_textMap.mpr ⟨p, given, rfl⟩) c differ inside
    · intro apart k member c differ inside
      obtain ⟨p, given, rfl⟩ := mem_keys_textMap.mp member
      exact apart c differ ⟨p, given, inside⟩
  | clear bucket => by
    refine iff_of_true (changed_of separate fun b => separate.of_fewer fun c k member => ?_) id
    rw [bucket_clear] at member
    split at member
    · exact (List.not_mem_nil member).elim
    · exact member
  | backup buckets => by
    refine iff_of_true (separate.of_fewer fun b k member => ?_) id
    rcases bucket_backup b buckets (w.table n) with same | emptied
    · exact same ▸ member
    · rw [result, emptied] at member
      exact (List.not_mem_nil member).elim
  | restore snapshot => by
    rw [result, separate_iff_of_gains separate (storedNames snapshot) fun b k member => ?_]
    · constructor
      · rintro apart ⟨p, kept, q, given, shared⟩
        exact apart _ (mem_storedNames.mpr ⟨p, kept, q, given, rfl⟩) shared
      · intro apart k stored shared
        obtain ⟨p, kept, q, given, rfl⟩ := mem_storedNames.mp stored
        exact apart ⟨p, kept, q, given, shared⟩
    · rcases bucket_restored snapshot (w.table n) b with same | ⟨p, kept, same⟩
      · exact Or.inl (same ▸ member)
      · rw [same] at member
        obtain ⟨q, given, own⟩ := mem_keys_textMap.mp member
        exact Or.inr (mem_storedNames.mpr ⟨p, kept, q, given, own⟩)
  | absorb other => by
    rw [result]
    split
    · exact iff_of_true separate id
    · exact iff_of_true ((absorb_keyed (keyed n) (keyed other).texts).2 separate) id
  | copy => iff_of_true separate id

end TableRequest

/-! ### Runs -/

theorem Workspace.table_of_forall {p : BindingTable → Prop} {w : Workspace} (none : p .empty)
    (all : ∀ t ∈ w.tables, p t) (i : Nat) : p (w.table i) := by
  unfold Workspace.table
  cases found : w.tables[i]? with
  | none => exact none
  | some t => exact all t (List.mem_of_getElem? found)

namespace TableCall

variable {w : Workspace}

/-- Whether a call puts a name into a second bucket of its table. -/
def Repeats (w : Workspace) (c : TableCall) : Prop :=
  c.table < w.tables.length ∧ c.request.Repeats (w.table c.table)

theorem mem_tables_run {c : TableCall} {t : BindingTable} (member : t ∈ (run w c).tables) :
    t ∈ w.tables ∨ t = w.table c.table ∨
      c.table < w.tables.length ∧ t = c.request.result w c.table := by
  rw [tables_run, List.mem_append] at member
  rcases member with kept | made
  · by_cases there : c.table < w.tables.length
    · exact (List.mem_or_eq_of_mem_set kept).imp_right fun same => Or.inr ⟨there, same⟩
    · rw [List.set_eq_of_length_le (Nat.le_of_not_lt there)] at kept
      exact Or.inl kept
  · obtain ⟨n, request⟩ := c
    cases request with
    | copy => exact Or.inr (Or.inl (List.mem_singleton.mp made))
    | _ => cases made

theorem keyed_run (keyed : ∀ t ∈ w.tables, t.TextKeyed) (c : TableCall) :
    ∀ t ∈ (run w c).tables, t.TextKeyed := by
  have each := Workspace.table_of_forall textKeyed_empty keyed
  intro t member
  rcases mem_tables_run member with old | rfl | ⟨-, rfl⟩
  · exact keyed t old
  · exact each c.table
  · exact c.request.result_keyed each

/-- Where every name stands in one bucket, a call leaves it so exactly if it repeats no name. -/
theorem separate_run_iff (keyed : ∀ t ∈ w.tables, t.TextKeyed) (separate : ∀ t ∈ w.tables, t.Separate)
    (c : TableCall) : (∀ t ∈ (run w c).tables, t.Separate) ↔ ¬ c.Repeats w := by
  have own := Workspace.table_of_forall separate_empty separate c.table
  have made := c.request.result_separate_iff (Workspace.table_of_forall textKeyed_empty keyed) own
  constructor
  · rintro after ⟨there, repeats⟩
    refine made.mp (after _ ?_) repeats
    rw [tables_run]
    exact List.mem_append_left _ (List.mem_set there _)
  · intro none t member
    rcases mem_tables_run member with old | rfl | ⟨there, rfl⟩
    · exact separate t old
    · exact own
    · exact made.mpr fun repeats => none ⟨there, repeats⟩

end TableCall

/-- The workspace after some calls, one after another. -/
def Workspace.afterCalls (w : Workspace) (calls : List TableCall) : Workspace := calls.foldl TableCall.run w

namespace Workspace

theorem keyed_afterCalls : ∀ (calls : List TableCall) {w : Workspace},
    (∀ t ∈ w.tables, t.TextKeyed) → ∀ t ∈ (w.afterCalls calls).tables, t.TextKeyed
  | [], _, keyed => keyed
  | c :: rest, _, keyed => keyed_afterCalls rest (c.keyed_run keyed)

/-- Every name stands in one bucket all the time exactly if no call repeats a name. -/
theorem separate_afterCalls_iff : ∀ (calls : List TableCall) {w : Workspace},
    (∀ t ∈ w.tables, t.TextKeyed) → (∀ t ∈ w.tables, t.Separate) →
      ((∀ before, before <+: calls → ∀ t ∈ (w.afterCalls before).tables, t.Separate) ↔
        ∀ before c, before ++ [c] <+: calls → ¬ c.Repeats (w.afterCalls before))
  | [], w, _, separate => by
    refine iff_of_true (fun before part => ?_) fun before c part => ?_
    · obtain rfl := List.prefix_nil.mp part
      exact separate
    · exact absurd (List.prefix_nil.mp part) (List.append_ne_nil_of_right_ne_nil _ (List.cons_ne_nil _ _))
  | c :: rest, w, keyed, separate => by
    have first := c.separate_run_iff keyed separate
    have later := fun after => separate_afterCalls_iff rest (c.keyed_run keyed) after
    constructor
    · intro all before d part
      have after := all [c] (List.cons_prefix_cons.mpr ⟨rfl, List.nil_prefix⟩)
      cases before with
      | nil =>
        obtain ⟨rfl, -⟩ := List.cons_prefix_cons.mp part
        exact first.mp after
      | cons e before =>
        obtain ⟨rfl, behind⟩ := List.cons_prefix_cons.mp part
        exact (later after).mp (fun front shorter =>
          all (e :: front) (List.cons_prefix_cons.mpr ⟨rfl, shorter⟩)) before d behind
    · intro none before part
      have after := first.mpr (none [] c (List.cons_prefix_cons.mpr ⟨rfl, List.nil_prefix⟩))
      cases before with
      | nil => exact separate
      | cons e before =>
        obtain ⟨rfl, behind⟩ := List.cons_prefix_cons.mp part
        exact (later after).mpr (fun front d shorter =>
          none (e :: front) d (List.cons_prefix_cons.mpr ⟨rfl, shorter⟩)) before behind

/-- Empty tables after any calls.  Every name stands in one bucket all the time, unless a call stores one
that another bucket has.  A table in which it does has as many entries as parameters, and gives for a
name what is sent under it. -/
theorem afterCalls_separate {w : Workspace} (start : ∀ t ∈ w.tables, t = .empty)
    (calls : List TableCall) :
    ((∀ before, before <+: calls → ∀ t ∈ (w.afterCalls before).tables, t.Separate) ↔
      ∀ before c, before ++ [c] <+: calls → ¬ c.Repeats (w.afterCalls before)) ∧
    ∀ t ∈ (w.afterCalls calls).tables, (t.Separate ↔ t.size = t.flatten.length) ∧
      (t.Separate → ∀ name, t.get? name = entryAt? name t.flatten) := by
  have keyed : ∀ t ∈ w.tables, t.TextKeyed := fun t member => start t member ▸ textKeyed_empty
  have separate : ∀ t ∈ w.tables, t.Separate := fun t member => start t member ▸ separate_empty
  refine ⟨separate_afterCalls_iff calls keyed separate, fun t member => ?_⟩
  have texts := keyed_afterCalls calls keyed t member
  exact ⟨texts.size_eq_length_flatten_iff.symm, fun apart => apart.get?_eq texts⟩

/-- Two values for one base are in two buckets under two names. -/
theorem afterCalls_separate_bind : ∃ (w : Workspace) (calls : List TableCall), w.tables = [.empty] ∧
    calls = [⟨0, .bind "age" (.int 18) "where"⟩, ⟨0, .bind "age" (.int 65) "having"⟩] ∧
    ∀ t ∈ (w.afterCalls calls).tables, t.Separate ∧ t.size = t.flatten.length := by
  let calls : List TableCall :=
    [⟨0, .bind "age" (.int 18) "where"⟩, ⟨0, .bind "age" (.int 65) "having"⟩]
  let w : Workspace := { Workspace.empty with tables := [.empty] }
  refine ⟨w, calls, rfl, rfl, fun t member => ?_⟩
  obtain ⟨throughout, tables⟩ :=
    afterCalls_separate (w := w) (fun t member => List.mem_singleton.mp member) calls
  have separate : t.Separate := by
    refine throughout.mpr (fun before c part repeats => ?_) calls List.prefix_rfl t member
    have called : c ∈ calls := part.subset (List.mem_append_right _ List.mem_cons_self)
    rcases List.mem_pair.mp called with rfl | rfl
    · exact repeats.2
    · exact repeats.2
  exact ⟨separate, (tables t member).1.mp separate⟩

/-- A value is stored under the name that another bucket has: it is sent, and the other one is looked
up. -/
theorem afterCalls_shared :
    let w : Workspace := { Workspace.empty with tables := [.empty] }
    let t := (w.afterCalls
      [⟨0, .add "age" (.int 18) "where"⟩, ⟨0, .add "age" (.int 65) "having"⟩]).table 0
    t.Shares (.text "age") ∧ t.size = 2 ∧ t.flatten = [(.text "age", .int 65)] ∧
      t.get? (.text "age") = some (.int 18) := by
  refine ⟨⟨.filter, .having, by decide, List.mem_cons_self, List.mem_cons_self⟩, rfl, rfl, rfl⟩

end Workspace

end GraphQuery
