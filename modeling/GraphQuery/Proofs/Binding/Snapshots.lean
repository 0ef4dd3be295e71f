import GraphQuery.Binding.Table
import GraphQuery.Proofs.Outcome

/-! # Buckets that are taken out and put back

`BindingTable.backup` goes through the names that it is given one after another, and empties each bucket
as soon as it has kept what is in it.  So a bucket that is named twice is empty when it is kept for the
second time, and a name that is unknown is found out about when the buckets before it are empty already.

* `takeOut` : the table and the snapshot after some buckets, with the content of each
  (`bucket_takeOut`, `lookup_takeOut`);
* `restoreNamed_asEntries` : a snapshot is put back as it was kept, also as a map under the names of the
  buckets;
* `backup_restore` : for every list of names, whether the table can be had back. -/

namespace GraphQuery

/-- Whether a text is the name of no bucket. -/
def Bucket.IsUnknown (s : String) : Prop := ∀ b : Bucket, b.name ≠ s

theorem Bucket.named_or_unknown (s : String) : (∃ b : Bucket, b.name = s) ∨ Bucket.IsUnknown s := by
  by_cases known : ∃ b : Bucket, b.name = s
  · exact Or.inl known
  · exact Or.inr fun b same => known ⟨b, same⟩

theorem Bucket.name_injective : Function.Injective Bucket.name := by
  intro b c same
  have found := b.named_name
  rw [same, c.named_name] at found
  exact (Except.ok.inj found).symm

theorem Bucket.named_unknown {s : String} (unknown : Bucket.IsUnknown s) :
    Bucket.named (.text s) = .error (.unknownBucket (.text s)) := by
  have missing : Bucket.all.find? (·.name == s) = none :=
    List.find?_eq_none.mpr fun b _ => by simpa using unknown b
  have asked : (Value.text s).text?.bind (fun s => Bucket.all.find? (·.name == s)) = none := missing
  unfold Bucket.named
  rw [asked]
  rfl

/-- Texts up to the first one that is no bucket's name. -/
theorem Bucket.exists_names : ∀ names : List String,
    (∃ bs : List Bucket, names = bs.map Bucket.name) ∨
      ∃ (bs : List Bucket) (s : String) (rest : List String),
        names = bs.map Bucket.name ++ s :: rest ∧ Bucket.IsUnknown s
  | [] => Or.inl ⟨[], rfl⟩
  | s :: names => by
    rcases named_or_unknown s with ⟨b, rfl⟩ | unknown
    · rcases exists_names names with ⟨bs, rfl⟩ | ⟨bs, s, rest, rfl, unknown⟩
      · exact Or.inl ⟨b :: bs, rfl⟩
      · exact Or.inr ⟨b :: bs, s, rest, rfl, unknown⟩
    · exact Or.inr ⟨[], s, names, rfl, unknown⟩

namespace BindingTable

variable {t : BindingTable} {kept : Snapshot} {b c : Bucket}

@[simp] theorem bucket_clear : (t.clear c).bucket b = if c = b then [] else t.bucket b :=
  bucket_withBucket t [] c b

@[simp] theorem bucket_replace {values : Row} :
    (t.replace c values).bucket b = if c = b then values else t.bucket b := bucket_withBucket t values c b

/-! ### Snapshots -/

theorem lookup_entry {values : Row} : List.lookup b ((c, values) :: kept) =
    if b = c then some values else kept.lookup b := by
  rw [List.lookup_cons]
  by_cases same : b = c
  · simp [same]
  · rw [if_neg same, beq_false_of_ne same]

theorem lookup_keep {values : Row} : ∀ kept : Snapshot,
    (keep c values kept).lookup b = if b = c then some values else kept.lookup b
  | [] => lookup_entry
  | (d, old) :: rest => by
    rw [keep]
    split
    · next own =>
      subst own
      rw [lookup_entry, lookup_entry]
      split <;> rfl
    · next other =>
      rw [lookup_entry, lookup_entry, lookup_keep rest]
      by_cases same : b = d
      · subst same
        rw [if_pos rfl, if_pos rfl, if_neg other]
      · rw [if_neg same, if_neg same]

theorem mem_keys_keep {values : Row} {d : Bucket} : ∀ {kept : Snapshot},
    d ∈ (keep c values kept).map Prod.fst → d = c ∨ d ∈ kept.map Prod.fst
  | [], member => Or.inl (List.mem_singleton.mp member)
  | (e, old) :: rest, member => by
    rw [keep] at member
    split at member
    · exact Or.inr member
    · rw [List.map_cons, List.mem_cons] at member ⊢
      rcases member with own | member
      · exact Or.inr (Or.inl own)
      · exact (mem_keys_keep member).imp_right Or.inr

/-- A bucket has one place in a snapshot. -/
theorem keys_keep {values : Row} : ∀ {kept : Snapshot}, (kept.map Prod.fst).Nodup →
    ((keep c values kept).map Prod.fst).Nodup
  | [], _ => List.pairwise_singleton ..
  | (d, old) :: rest, distinct => by
    rw [keep]
    split
    · exact distinct
    · next other =>
      rw [List.map_cons, List.nodup_cons] at distinct ⊢
      refine ⟨fun member => ?_, keys_keep distinct.2⟩
      exact (mem_keys_keep member).elim other distinct.1

/-- What is put back replaces a bucket, and every other bucket stays. -/
theorem bucket_restore : ∀ {kept : Snapshot} {t : BindingTable}, (kept.map Prod.fst).Nodup →
    (t.restore kept).bucket b = (kept.lookup b).getD (t.bucket b)
  | [], _, _ => rfl
  | (c, values) :: rest, t, distinct => by
    rw [List.map_cons, List.nodup_cons] at distinct
    have later : ((t.replace c values).restore rest).bucket b =
        (rest.lookup b).getD ((t.replace c values).bucket b) := bucket_restore distinct.2
    show ((t.replace c values).restore rest).bucket b = _
    rw [later, lookup_entry, bucket_replace]
    by_cases same : b = c
    · subst same
      have missing : rest.lookup b = none := by
        rw [List.lookup_eq_none_iff]
        intro p member
        have other : b ≠ p.1 := fun own => distinct.1 (List.mem_map.mpr ⟨p, member, own.symm⟩)
        simpa using other
      rw [missing, if_pos rfl, if_pos rfl]
      rfl
    · rw [if_neg same, if_neg (Ne.symm same)]

/-- A snapshot as entries under the names of the buckets. -/
def Snapshot.asEntries (kept : Snapshot) : List (Value × Value) :=
  kept.map fun p => (.text p.1.name, .ofPairs p.2)

theorem outcome_replaceNamed_name (b : Bucket) (values : Row) (t : BindingTable) :
    (replaceNamed (.text b.name) (.ofPairs values)).outcome t = (.ok (), t.replace b values) := by
  unfold replaceNamed
  rw [b.named_name]
  rfl

theorem restoreNamed_asEntries : ∀ (kept : Snapshot) (t : BindingTable),
    (restoreNamed (Snapshot.asEntries kept)).outcome t = (.ok (), t.restore kept)
  | [], _ => rfl
  | (b, values) :: rest, t => by
    show (replaceNamed (.text b.name) (.ofPairs values) >>=
      fun _ => restoreNamed (Snapshot.asEntries rest)).outcome t = _
    rw [Exec.outcome_bind_ok (outcome_replaceNamed_name b values t)]
    exact restoreNamed_asEntries rest (t.replace b values)

/-! ### Taking out -/

/-- The table and the snapshot after some buckets were taken out, one after another. -/
def takeOut (t : BindingTable) (kept : Snapshot) (buckets : List Bucket) : BindingTable × Snapshot :=
  buckets.foldl (fun s b => (s.1.clear b, keep b (s.1.bucket b) s.2)) (t, kept)

theorem outcome_backupInto (rest : List Value) : ∀ (buckets : List Bucket) (t : BindingTable)
    (kept : Snapshot), (backupInto (buckets.map (fun b => .text b.name) ++ rest) kept).outcome t =
      (backupInto rest (takeOut t kept buckets).2).outcome (takeOut t kept buckets).1
  | [], _, _ => rfl
  | b :: buckets, t, kept => by
    have first : (Exec.ofResult (Bucket.named (.text b.name)) : Exec BindingTable Bucket).outcome t =
        (.ok b, t) := by rw [b.named_name, Exec.outcome_ofResult]
    show (Exec.ofResult (Bucket.named (.text b.name)) >>= _).outcome t = _
    rw [Exec.outcome_bind_ok first]
    exact outcome_backupInto rest buckets (t.clear b) (keep b (t.bucket b) kept)

theorem bucket_takeOut (b : Bucket) : ∀ (buckets : List Bucket) (t : BindingTable) (kept : Snapshot),
    (takeOut t kept buckets).1.bucket b = if b ∈ buckets then [] else t.bucket b
  | [], _, _ => by simp [takeOut]
  | c :: buckets, t, kept => by
    have later := bucket_takeOut b buckets (t.clear c) (keep c (t.bucket c) kept)
    show (takeOut (t.clear c) (keep c (t.bucket c) kept) buckets).1.bucket b = _
    rw [later, bucket_clear]
    by_cases same : c = b
    · simp [same]
    · simp [same, Ne.symm same]

theorem keys_takeOut : ∀ (buckets : List Bucket) (t : BindingTable) (kept : Snapshot),
    (kept.map Prod.fst).Nodup → ((takeOut t kept buckets).2.map Prod.fst).Nodup
  | [], _, _, distinct => distinct
  | c :: buckets, t, kept, distinct =>
    keys_takeOut buckets (t.clear c) (keep c (t.bucket c) kept) (keys_keep distinct)

/-- What is kept of a bucket: its content if it was taken out once, and nothing if it was taken out again,
since it was empty by then. -/
theorem lookup_takeOut (b : Bucket) : ∀ (buckets : List Bucket) (t : BindingTable) (kept : Snapshot),
    (takeOut t kept buckets).2.lookup b =
      if buckets.count b = 0 then kept.lookup b
      else if buckets.count b = 1 then some (t.bucket b) else some []
  | [], _, _ => rfl
  | c :: buckets, t, kept => by
    have later := lookup_takeOut b buckets (t.clear c) (keep c (t.bucket c) kept)
    show (takeOut (t.clear c) (keep c (t.bucket c) kept) buckets).2.lookup b = _
    rw [later, lookup_keep, bucket_clear, List.count_cons]
    by_cases same : c = b
    · subst same
      by_cases none : buckets.count c = 0
      · simp [none]
      · simp [none]
    · simp [same, Ne.symm same]

/-- What the table has after buckets were taken out and put back: a bucket that was taken out twice is
empty. -/
theorem bucket_restore_takeOut (b : Bucket) (buckets : List Bucket) (t : BindingTable) :
    ((takeOut t [] buckets).1.restore (takeOut t [] buckets).2).bucket b =
      if 1 < buckets.count b then [] else t.bucket b := by
  rw [bucket_restore (keys_takeOut buckets t [] List.nodup_nil), lookup_takeOut, bucket_takeOut]
  by_cases none : buckets.count b = 0
  · simp [none, List.count_eq_zero.mp none]
  · by_cases once : buckets.count b = 1
    · simp [once]
    · have several : 1 < buckets.count b := by omega
      simp [none, once, several]

/-! ### The round trip -/

/-- Whether nothing is lost when the buckets with these names are taken out: either that fails and the
table stays as it is, or the snapshot, put back by name, makes the table what it was. -/
def Reversible (t : BindingTable) (names : List String) : Prop :=
  match (backup (names.map .text)).outcome t with
  | (.ok kept, emptied) => (restoreNamed (Snapshot.asEntries kept)).outcome emptied = (.ok (), t)
  | (.error _, left) => left = t

/-- A table is another one if all buckets that are not are empty in both. -/
theorem eq_iff_of_emptied {u : BindingTable} {p : Bucket → Prop} [DecidablePred p]
    (buckets : ∀ b, u.bucket b = if p b then [] else t.bucket b) :
    u = t ↔ ∀ b, p b → t.bucket b = [] := by
  constructor
  · rintro rfl b emptied
    rw [buckets b, if_pos emptied]
  · intro empty
    refine ext_bucket fun b => ?_
    rw [buckets b]
    split
    · next emptied => exact (empty b emptied).symm
    · rfl

theorem outcome_backup_known (t : BindingTable) (buckets : List Bucket) :
    (backup ((buckets.map Bucket.name).map .text)).outcome t =
      (.ok (takeOut t [] buckets).2, (takeOut t [] buckets).1) := by
  have taken := outcome_backupInto [] buckets t []
  rw [List.append_nil] at taken
  rw [List.map_map]
  exact taken

theorem outcome_backup_unknown (t : BindingTable) (buckets : List Bucket) {s : String}
    (unknown : Bucket.IsUnknown s) (rest : List String) :
    (backup ((buckets.map Bucket.name ++ s :: rest).map .text)).outcome t =
      (.error (.unknownBucket (.text s)), (takeOut t [] buckets).1) := by
  have stopped (t : BindingTable) (kept : Snapshot) :
      (backupInto (.text s :: rest.map .text) kept).outcome t =
        (.error (.unknownBucket (.text s)), t) := by
    unfold backupInto
    rw [Bucket.named_unknown unknown]
    rfl
  rw [List.map_append, List.map_map, List.map_cons]
  exact (outcome_backupInto _ buckets t []).trans (stopped _ _)

/-- A bucket is as before or empty then, whether all names are known or not. -/
theorem bucket_backup (b : Bucket) (names : List String) (t : BindingTable) :
    ((backup (names.map .text)).outcome t).2.bucket b = t.bucket b ∨
      ((backup (names.map .text)).outcome t).2.bucket b = [] := by
  have left (buckets : List Bucket) : (takeOut t [] buckets).1.bucket b = t.bucket b ∨
      (takeOut t [] buckets).1.bucket b = [] := by
    rw [bucket_takeOut]
    split
    · exact Or.inr rfl
    · exact Or.inl rfl
  rcases Bucket.exists_names names with ⟨buckets, rfl⟩ | ⟨buckets, s, rest, rfl, unknown⟩
  · rw [outcome_backup_known]
    exact left buckets
  · rw [outcome_backup_unknown t buckets unknown]
    exact left buckets

/-- Taking out the buckets with any names.  If all names are known, then what is put back is the table
as it was, but for the buckets that are named more than once: they are lost.  An unknown name is refused,
when the buckets that are named before it are lost. -/
theorem backup_restore (t : BindingTable) (names : List String) :
    (∃ (buckets : List Bucket) (kept : Snapshot) (emptied back : BindingTable),
      names = buckets.map Bucket.name ∧
      (backup (names.map .text)).outcome t = (.ok kept, emptied) ∧
      (restoreNamed (Snapshot.asEntries kept)).outcome emptied = (.ok (), back) ∧
      (∀ b, emptied.bucket b = if b ∈ buckets then [] else t.bucket b) ∧
      (∀ b, back.bucket b = if 1 < buckets.count b then [] else t.bucket b) ∧
      (t.Reversible names ↔ ∀ b, 1 < buckets.count b → t.bucket b = [])) ∨
    ∃ (buckets : List Bucket) (s : String) (rest : List String) (left : BindingTable),
      names = buckets.map Bucket.name ++ s :: rest ∧ Bucket.IsUnknown s ∧
      (backup (names.map .text)).outcome t = (.error (.unknownBucket (.text s)), left) ∧
      (∀ b, left.bucket b = if b ∈ buckets then [] else t.bucket b) ∧
      (t.Reversible names ↔ ∀ b ∈ buckets, t.bucket b = []) := by
  rcases Bucket.exists_names names with ⟨buckets, rfl⟩ | ⟨buckets, s, rest, rfl, unknown⟩
  · have taken := outcome_backup_known t buckets
    have back := restoreNamed_asEntries (takeOut t [] buckets).2 (takeOut t [] buckets).1
    have restored := fun b => bucket_restore_takeOut b buckets t
    refine Or.inl ⟨buckets, _, _, _, rfl, taken, back, fun b => bucket_takeOut b buckets t [], restored,
      ?_⟩
    rw [Reversible, taken, ← eq_iff_of_emptied restored]
    show (restoreNamed _).outcome _ = _ ↔ _
    rw [back, Prod.mk.injEq, eq_self, true_and]
  · have refused := outcome_backup_unknown t buckets unknown rest
    have left := fun b => bucket_takeOut b buckets t []
    refine Or.inr ⟨buckets, s, rest, _, rfl, unknown, refused, left, ?_⟩
    rw [Reversible, refused, ← eq_iff_of_emptied left]

/-- A bucket that is named twice is lost, and so is one ahead of an unknown name. -/
theorem backup_lost :
    let t := empty.add (.text "age") (.int 18) .filter
    ¬ t.Reversible ["where", "where"] ∧ ¬ t.Reversible ["where", "limit"] := by
  have lost (back : BindingTable) (none : back.filters = []) :
      back ≠ empty.add (.text "age") (.int 18) .filter := by
    rintro rfl
    cases none
  refine ⟨fun twice => ?_, fun ahead => ?_⟩
  · exact lost _ rfl (Prod.mk.inj twice).2
  · exact lost _ rfl ahead

end BindingTable

end GraphQuery
