import GraphQuery.Execution.Page
import GraphQuery.Proofs.Execution.Counts
import GraphQuery.Proofs.Number.Rounding

/-! # The windows of pages

A page is a window on the rows of a query: its size, behind the rows of the pages before it.  The number of
the last page is a quotient that is rounded to a double before it is rounded up, while windows are counted in
integers.

* `Builder.atPage` : the builder at a page (`Builder.page_outcome`);
* `Builder.cut_pages` : the pages up to one of them show the rows up to its end, one after another;
* `Builder.Paged` : pages that show every row once, none of them for nothing, and the pages behind which
  there are more (`Builder.paged_iff`);
* `Page.lastPage_windows` : what that makes of the number of the last page. -/

namespace GraphQuery

open GraphQuery.Number GraphQuery.Schema Exec

/-! ### Windows -/

theorem Build.rowCount_int (refusal : BuilderFault) {n : Int} (h : 0 ≤ n) :
    Build.rowCount refusal (.int n) = .ok (.int n) := by
  show (if n < 0 then Except.error (Error.builder refusal) else Except.ok (Value.int n)) = _
  rw [if_neg (not_lt.mpr h)]

namespace Builder

/-- The builder at a page of a size. -/
def atPage (b : Builder) (number size : Int) : Builder :=
  { b with query := { b.query with offset := .int ((number - 1) * size), limit := .int size } }

variable (b : Builder) {size number last total : Int}

theorem offset_outcome {n : Int} (h : 0 ≤ n) : (Build.offset (.int n)).outcome b =
    (.ok (), { b with query := { b.query with offset := .int n } }) := by
  unfold Build.offset
  rw [Build.rowCount_int _ h]
  rfl

theorem limit_outcome {n : Int} (h : 0 ≤ n) : (Build.limit (.int n)).outcome b =
    (.ok (), { b with query := { b.query with limit := .int n } }) := by
  unfold Build.limit
  rw [Build.rowCount_int _ h]
  rfl

theorem page_outcome (first : 1 ≤ number) (filled : 1 ≤ size) :
    (Build.page (.int number) (.int size)).outcome b = (.ok (), b.atPage number size) := by
  have window : Build.pageWindow (.int number) (.int size) = .ok (.int ((number - 1) * size), .int size) := by
    have lower : ¬ number < 1 := not_lt.mpr first
    have lower' : ¬ size < 1 := not_lt.mpr filled
    simp [Build.pageWindow, Build.pageNumber, Value.numeral?, Value.Numeral.isBelow, Value.Numeral.pred,
      Value.Numeral.plus, Value.Numeral.mul, Value.Numeral.toValue, Result.ofFailure, bind, Except.bind, pure,
      Except.pure, lower, lower', sub_eq_add_neg]
  have start : 0 ≤ (number - 1) * size := mul_nonneg (by omega) (by omega)
  unfold Build.page
  rw [window]
  show (Build.offset _ >>= fun _ => Build.limit _).outcome b = _
  rw [outcome_bind_ok (b.offset_outcome start), limit_outcome _ (by omega)]
  rfl

theorem cut_atPage {α : Type} (rows : List α) : (b.atPage number size).query.cut rows =
    (rows.drop ((number - 1) * size).toNat).take size.toNat := rfl

/-- The pages up to one of them show the rows up to its end, one after another. -/
theorem cut_pages {α : Type} (rows : List α) (filled : 0 ≤ size) (n : Nat) :
    ((List.range n).flatMap fun i : Nat => (b.atPage (i + 1) size).query.cut rows) =
      rows.take (n * size.toNat) := by
  induction n with
  | zero => simp
  | succ n ih =>
    have start : (((n : Int) + 1 - 1) * size).toNat = n * size.toNat := by
      rw [add_sub_cancel_right, Int.toNat_mul (by omega) filled, Int.toNat_natCast]
    rw [List.range_succ, List.flatMap_append, ih, List.flatMap_singleton, cut_atPage, start, Nat.succ_mul,
      List.take_add]

/-- The rows that a page shows, each known by its place among all of them. -/
def shownAt (b : Builder) (size total number : Int) : List Nat :=
  (b.atPage number size).query.cut (List.range total.toNat)

/-- Rows that are shown by the pages up to the last one: every row once and in their order, and something on
every page.  More pages follow one behind which there are rows. -/
structure Paged (b : Builder) (size total last : Int) : Prop where
  covers : ((List.range last.toNat).flatMap fun i : Nat => b.shownAt size total (i + 1)) =
    List.range total.toNat
  apart : (List.range last.toNat).Pairwise fun i j : Nat =>
    (b.shownAt size total (i + 1)).Disjoint (b.shownAt size total (j + 1))
  full : 0 < total → ∀ number, 1 ≤ number → number ≤ last → b.shownAt size total number ≠ []
  more : ∀ number, 1 ≤ number → (number < last ↔ number * size < total)

/-- Rows are paged by as many pages as it takes, and by no other number of them. -/
theorem paged_iff (filled : 1 ≤ size) (some : 1 ≤ last) :
    b.Paged size total last ↔ last = max 1 ⌈(total : ℚ) / size⌉ := by
  have positive : (0 : ℚ) < size := by exact_mod_cast filled
  have behind (n : Int) : n < ⌈(total : ℚ) / size⌉ ↔ n * size < total := by
    rw [Int.lt_ceil, lt_div_iff₀ positive]
    exact_mod_cast Iff.rfl
  constructor
  · rintro ⟨-, -, -, more⟩
    rcases lt_trichotomy last (max 1 ⌈(total : ℚ) / size⌉) with less | same | greater
    · have := (more last some).mpr ((behind last).mp (by omega))
      omega
    · exact same
    · have := (behind _).mpr ((more _ (le_max_left 1 ⌈(total : ℚ) / size⌉)).mp greater)
      omega
  · intro same
    have more : ∀ number, 1 ≤ number → (number < last ↔ number * size < total) := by
      intro number first
      rw [← behind]
      omega
    have covers := b.cut_pages (List.range total.toNat) (show 0 ≤ size by omega) last.toNat
    have all : total ≤ last * size := not_lt.mp fun less => absurd ((more last some).mpr less) (lt_irrefl _)
    rw [← Int.toNat_mul (by omega) (by omega),
      List.take_of_length_le (by rw [List.length_range]; omega)] at covers
    have once := List.nodup_range (n := total.toNat)
    rw [← covers] at once
    refine ⟨covers, (List.nodup_flatMap.mp once).2, fun present number first least none => ?_, more⟩
    have start : (number - 1) * size < total := by
      rcases eq_or_lt_of_le first with rfl | later
      · simpa using present
      · exact (more (number - 1) (by omega)).mp (by omega)
    have shown := congrArg List.length none
    rw [shownAt, cut_atPage, List.length_take, List.length_drop, List.length_range, List.length_nil] at shown
    omega

end Builder

/-! ### The last page -/

theorem Number.Double.ceiling_eq (x : Double) : x.ceiling = ⌈x.value⌉ := by
  unfold Double.ceiling Double.value
  rw [Rat.ceil_intCast_div_natCast, Int.fdiv_eq_ediv_of_nonneg _ (Int.natCast_nonneg _)]

namespace Page

variable {total size number : Int}

theorem make_eq (items : List Value) (counted : 0 ≤ total) (filled : 1 ≤ size) (first : 1 ≤ number) :
    make items total (.int size) (.int number) =
      .ok ⟨.ofList items, .int total, .int size, .int number⟩ := by
  have read {least n : Int} (step : String) (h : least ≤ n) :
      Checked.inside step (readFrom least (.int n)) = .ok n := by
    have lower : ¬ n < least := not_lt.mpr h
    simp [readFrom, readInteger, bind, Except.bind, lower, Checked.inside]
  unfold make
  rw [read _ counted, read _ filled, read _ first]
  rfl

/-- A quotient that is too large for a double. -/
def tooLarge : Error := .failure ⟨.overflow, "integer division result too large for a float"⟩

/-- The number of the last page is what the quotient is rounded to, rounded up. -/
theorem lastPage_eq (items current : Value) (counted : 0 ≤ total) (filled : 1 ≤ size) :
    let page : Page := ⟨items, .int total, .int size, current⟩
    (Double.limit ≤ total / size → page.lastPage = .error tooLarge) ∧
    (total / size < Double.limit →
      ∃ v, Double.RoundsTo (total / size) v ∧ page.lastPage = .ok (max 1 ⌈v⌉)) := by
  obtain ⟨num, rfl⟩ := Int.eq_ofNat_of_zero_le counted
  obtain ⟨den, rfl⟩ := Int.eq_ofNat_of_zero_le (show 0 ≤ size by omega)
  have positive : 0 < den := by omega
  have finite := Double.isFinite_nearest_iff num positive
  have rounded : Double.ofIntRatio (num : Int) den = ⟨Double.nearestBits num den⟩ := by
    simp [Double.ofIntRatio, Double.ofRatio, Double.withSign]
  have divided : quotient (.exact num) (.exact den) =
      if (⟨Double.nearestBits num den⟩ : Double).isFinite then .ok ⟨Double.nearestBits num den⟩
      else .error tooLarge := by
    have some : (den : Int) ≠ 0 := by omega
    have sign : ¬ (den : Int) < 0 := by omega
    unfold quotient
    simp only [some, sign, if_false, Int.natAbs_natCast, rounded]
    rfl
  intro page
  have read : page.lastPage = (quotient (.exact num) (.exact den) >>= fun x =>
      if x.isFinite then return max 1 x.ceiling
      else if x.isNaN then .error (.failure (.value "cannot convert float NaN to integer"))
      else .error (.failure ⟨.overflow, "cannot convert float infinity to integer"⟩)) := rfl
  push_cast
  rw [read, divided]
  refine ⟨fun large => ?_, fun small => ?_⟩
  · rw [if_neg (by rw [finite]; exact not_lt.mpr large)]
    rfl
  · have some := finite.mpr small
    refine ⟨_, Double.roundsTo_nearest num positive some, ?_⟩
    rw [if_pos some, ← Double.ceiling_eq]
    show (if _ then _ else _) = _
    rw [if_pos some]
    rfl

theorem hasMore_eq {page : Page} (current : page.currentPage = .int number) :
    page.hasMore = page.lastPage.map fun last => decide (number < last) := by
  unfold hasMore
  rw [current]
  cases page.lastPage <;> rfl

/-- A total that a double has room for, digit by digit, is no quotient that is too large. -/
theorem lt_limit (counted : total ≤ 2 ^ 53) (filled : 1 ≤ size) : (total : ℚ) / size < Double.limit := by
  have positive : (0 : ℚ) < size := by exact_mod_cast filled
  have least : (1 : ℚ) ≤ size := by exact_mod_cast filled
  have most : (total : ℚ) ≤ 2 ^ 53 := by exact_mod_cast counted
  have grows : (1 : ℚ) ≤ 2 ^ (970 : Int) := one_le_zpow₀ (by norm_num) (by norm_num)
  rw [div_lt_iff₀ positive, Double.limit]
  generalize (2 : ℚ) ^ (970 : Int) = unit at grows
  calc (total : ℚ) < (2 ^ 54 - 1) * 1 * 1 := by linarith
    _ ≤ (2 ^ 54 - 1) * unit * size := by
      refine mul_le_mul (mul_le_mul_of_nonneg_left grows ?_) least zero_le_one ?_
      · norm_num
      · exact mul_nonneg (by norm_num) (by linarith)

/-- A page can be made for every total, size and number.  The number of its last page is missing only where the
quotient is too large for a double; it is rounded there, and the rows are paged by it exactly if it is the
number of pages that they take.  Up to a total of `2 ^ 53` it always is. -/
theorem lastPage_windows (items : List Value) (b : Builder) (counted : 0 ≤ total) (filled : 1 ≤ size)
    (first : 1 ≤ number) :
    (Build.page (.int number) (.int size)).outcome b = (.ok (), b.atPage number size) ∧
    ∃ page, make items total (.int size) (.int number) = .ok page ∧
      (Double.limit ≤ total / size → page.lastPage = .error tooLarge ∧ page.hasMore = .error tooLarge) ∧
      (total / size < Double.limit → ∃ v last, Double.RoundsTo (total / size) v ∧ last = max 1 ⌈v⌉ ∧
        page.lastPage = .ok last ∧ page.hasMore = .ok (decide (number < last)) ∧
        (b.Paged size total last ↔ last = max 1 ⌈(total : ℚ) / size⌉)) ∧
      (total ≤ 2 ^ 53 → ∃ last, page.lastPage = .ok last ∧ b.Paged size total last ∧
        page.hasMore = .ok (decide (number * size < total))) := by
  refine ⟨b.page_outcome first filled, _, make_eq items counted filled first, ?_⟩
  obtain ⟨large, small⟩ := lastPage_eq (.ofList items) (.int number) counted filled
  have more : hasMore ⟨.ofList items, .int total, .int size, .int number⟩ = _ := hasMore_eq rfl
  refine ⟨fun huge => ⟨large huge, by rw [more, large huge]; rfl⟩, fun under => ?_, fun few => ?_⟩
  · obtain ⟨v, rounds, found⟩ := small under
    exact ⟨v, _, rounds, rfl, found, by rw [more, found]; rfl,
      b.paged_iff filled (le_max_left ..)⟩
  · obtain ⟨v, rounds, found⟩ := small (lt_limit few filled)
    have same : max 1 ⌈v⌉ = max 1 ⌈(total : ℚ) / size⌉ := by
      obtain ⟨num, rfl⟩ := Int.eq_ofNat_of_zero_le counted
      obtain ⟨den, rfl⟩ := Int.eq_ofNat_of_zero_le (show 0 ≤ size by omega)
      push_cast at rounds ⊢
      exact rounds.max_ceil (by exact_mod_cast few) (by omega)
    have paged := (b.paged_iff filled (le_max_left 1 ⌈v⌉)).mpr same
    refine ⟨_, found, paged, ?_⟩
    rw [more, found]
    exact congrArg Except.ok (decide_eq_decide.mpr (paged.more number first))

/-- The largest of these totals, in threes: two rows are left for the last page. -/
theorem lastPage_windows_threes :
    let b : Builder := ⟨.empty, .empty, 1, []⟩
    ∃ page, make [] (2 ^ 53) (.int 3) (.int 3002399751580330) = .ok page ∧
      page.hasMore = .ok true ∧ ∃ last, page.lastPage = .ok last ∧ b.Paged 3 (2 ^ 53) last := by
  intro b
  have counted : (0 : Int) ≤ 2 ^ 53 := by decide
  have filled : (1 : Int) ≤ 3 := by decide
  have first : (1 : Int) ≤ 3002399751580330 := by decide
  obtain ⟨-, page, made, -, -, exact⟩ := lastPage_windows [] b counted filled first
  obtain ⟨last, found, paged, more⟩ := exact le_rfl
  exact ⟨page, made, more, last, found, paged⟩

/-- One more row than that, one on a page: the last page is rounded away, so its row is on none, and nothing is
said to follow the page before it. -/
theorem lastPage_rounded :
    let b : Builder := ⟨.empty, .empty, 1, []⟩
    let page : Page := ⟨.ofList [], .int (2 ^ 53 + 1), .int 1, .int (2 ^ 53)⟩
    page.lastPage = .ok (2 ^ 53) ∧ page.hasMore = .ok false ∧ (2 ^ 53 : Int) * 1 < 2 ^ 53 + 1 ∧
      ¬ b.Paged 1 (2 ^ 53 + 1) (2 ^ 53) := by
  intro b page
  have behind : (2 ^ 53 : Int) * 1 < 2 ^ 53 + 1 := by decide
  have last : page.lastPage = .ok (2 ^ 53) := Result.of_toOption (by decide +kernel)
  have none : page.hasMore = .ok false := Result.of_toOption (by decide +kernel)
  refine ⟨last, none, behind, fun paged => ?_⟩
  exact absurd ((paged.more (2 ^ 53) (by decide)).mpr behind) (lt_irrefl _)

end Page

end GraphQuery
