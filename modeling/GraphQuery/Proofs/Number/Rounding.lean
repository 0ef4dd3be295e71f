import GraphQuery.Number.Double
import Mathlib.Data.Rat.Floor
import Mathlib.Tactic.FieldSimp
import Mathlib.Tactic.Linarith
import Mathlib.Tactic.NormNum
import Mathlib.Tactic.Positivity
import Mathlib.Tactic.Ring

/-! # Rounding to a double

The double for a ratio is a multiple of a power of two, of which it needs no more than 53 digits.

* `IsNearest y r` : the natural number `r` is nearest to `y`, and even where two are;
* `OnGrid x q` : the power of two on whose multiples `x` is rounded;
* `RoundsTo x v` : `v` is what `x` is rounded to (`roundsTo_nearest`, and `isFinite_nearest_iff` for a ratio
  that is too large).

An integer up to `2 ^ 53` is never stepped over: `RoundsTo.le_natCast` for all numbers, and
`RoundsTo.natCast_lt` for ratios with a numerator that is no larger than that.  So both are rounded up to one
integer (`RoundsTo.max_ceil`). -/

namespace GraphQuery.Number.Double

/-! ### Nearest numbers -/

/-- A natural number nearest to another one; of two the even one. -/
structure IsNearest (y : ℚ) (r : Nat) : Prop where
  close : |y - r| ≤ 1 / 2
  tie : |y - r| = 1 / 2 → Even r

theorem IsNearest.of_above {y : ℚ} {r : Nat} (sign : 0 ≤ y - r) (half : y - r ≤ 1 / 2)
    (tie : y - r = 1 / 2 → Even r) : IsNearest y r where
  close := by rwa [abs_of_nonneg sign]
  tie same := tie (by rwa [abs_of_nonneg sign] at same)

theorem IsNearest.of_below {y : ℚ} {r : Nat} (sign : 0 ≤ r - y) (half : r - y ≤ 1 / 2)
    (tie : r - y = 1 / 2 → Even r) : IsNearest y r where
  close := by rwa [abs_sub_comm, abs_of_nonneg sign]
  tie same := tie (by rwa [abs_sub_comm, abs_of_nonneg sign] at same)

theorem div_le_half_iff {rest den : Nat} (positive : 0 < den) :
    (rest : ℚ) / den ≤ 1 / 2 ↔ 2 * rest ≤ den := by
  have size : (0 : ℚ) < den := by exact_mod_cast positive
  rw [div_le_div_iff₀ size two_pos, one_mul, mul_comm]
  exact_mod_cast Iff.rfl

theorem half_le_div_iff {rest den : Nat} (positive : 0 < den) :
    (1 / 2 : ℚ) ≤ rest / den ↔ den ≤ 2 * rest := by
  have size : (0 : ℚ) < den := by exact_mod_cast positive
  rw [div_le_div_iff₀ two_pos size, one_mul, mul_comm]
  exact_mod_cast Iff.rfl

theorem isNearest_roundHalfEven (num : Nat) {den : Nat} (positive : 0 < den) :
    IsNearest (num / den) (roundHalfEven num den) := by
  have size : (0 : ℚ) < den := by exact_mod_cast positive
  have parts : (num : ℚ) = den * (num / den : Nat) + (num % den : Nat) := by
    exact_mod_cast (Nat.div_add_mod num den).symm
  have few := Nat.mod_lt num positive
  unfold roundHalfEven
  dsimp only
  generalize num / den = down, num % den = rest at parts few
  have place : (num : ℚ) / den = down + rest / den := by
    rw [parts]
    field_simp
  have least : (0 : ℚ) ≤ rest / den := by positivity
  have most : (rest : ℚ) / den ≤ 1 := (div_le_one size).mpr (by exact_mod_cast few.le)
  rw [place]
  split
  · next up =>
    have late := (half_le_div_iff positive).mpr (show den ≤ 2 * rest by omega)
    refine .of_below (by push_cast; linarith) (by push_cast; linarith) fun tie => ?_
    have early := (div_le_half_iff positive).mp (by push_cast at tie; linarith : (rest : ℚ) / den ≤ 1 / 2)
    exact Nat.even_iff.mpr (by omega)
  · next low =>
    have early := (div_le_half_iff positive).mpr (show 2 * rest ≤ den by omega)
    refine .of_above (by linarith) (by linarith) fun tie => ?_
    have late := (half_le_div_iff positive).mp (by linarith : (1 / 2 : ℚ) ≤ rest / den)
    exact Nat.even_iff.mpr (by omega)

namespace IsNearest

variable {y : ℚ} {r : Nat}

/-- Rounding does not step over a natural number. -/
theorem le_of_le (h : IsNearest y r) {n : Nat} (le : y ≤ n) : r ≤ n := by
  by_contra more
  have : (n : ℚ) + 1 ≤ r := by exact_mod_cast not_le.mp more
  have := (abs_le.mp h.close).1
  linarith

theorem le_of_ge (h : IsNearest y r) {n : Nat} (le : (n : ℚ) ≤ y) : n ≤ r := by
  by_contra less
  have : (r : ℚ) + 1 ≤ n := by exact_mod_cast not_le.mp less
  have := (abs_le.mp h.close).2
  linarith

theorem eq_iff_of_lt (h : IsNearest y r) {n : Nat} (even : Even n) (below : y < n) :
    r = n ↔ (n : ℚ) - 1 / 2 ≤ y := by
  constructor
  · rintro rfl
    have := (abs_le.mp h.close).1
    linarith
  · intro late
    refine le_antisymm (h.le_of_le below.le) ?_
    by_contra less
    have near : (r : ℚ) + 1 ≤ n := by exact_mod_cast not_le.mp less
    have far := (abs_le.mp h.close).2
    -- the only other number that is near enough is odd
    have one : (r : ℚ) + 1 = n := by linarith
    have tie : |y - r| = 1 / 2 := by
      rw [abs_of_nonneg (by linarith)]
      linarith
    have next : r + 1 = n := by exact_mod_cast one
    have odd := h.tie tie
    rw [Nat.even_iff] at even odd
    omega

end IsNearest

/-! ### Grids -/

/-- The multiples of `2 ^ q` are those on which `x` is rounded. -/
structure OnGrid (x : ℚ) (q : Int) : Prop where
  least : -1074 ≤ q
  below : x / 2 ^ q < 2 ^ 53
  above : q = -1074 ∨ 2 ^ 52 ≤ x / 2 ^ q

theorem scaled_pos (num : Nat) {den : Nat} (positive : 0 < den) (q : Int) : 0 < (scaled num den q).2 := by
  unfold scaled
  split
  · exact Nat.mul_pos positive (Nat.pow_pos (by decide))
  · exact positive

theorem scaled_eq (num den : Nat) (q : Int) :
    ((scaled num den q).1 : ℚ) / (scaled num den q).2 = num / den / 2 ^ q := by
  unfold scaled
  split
  · next large =>
    obtain ⟨n, rfl⟩ := Int.eq_ofNat_of_zero_le large
    simp [div_div, Nat.pow_eq]
  · next small =>
    obtain ⟨n, same⟩ := Int.eq_ofNat_of_zero_le (a := -q) (by omega)
    obtain rfl : q = -n := by omega
    simp [Nat.pow_eq, div_mul_eq_mul_div]

theorem ratio_bounds {num den : Nat} (full : num ≠ 0) (positive : 0 < den) :
    (2 : ℚ) ^ ((num.log2 : Int) - den.log2 - 1) < num / den ∧
      (num : ℚ) / den < 2 ^ ((num.log2 : Int) - den.log2 + 1) := by
  have two : (2 : ℚ) ≠ 0 := by norm_num
  have size : (0 : ℚ) < den := by exact_mod_cast positive
  have low : (2 : ℚ) ^ num.log2 ≤ num := by exact_mod_cast Nat.log2_self_le full
  have high : (num : ℚ) < 2 ^ (num.log2 + 1) := by exact_mod_cast Nat.lt_log2_self
  have low' : (2 : ℚ) ^ den.log2 ≤ den := by exact_mod_cast Nat.log2_self_le positive.ne'
  have high' : (den : ℚ) < 2 ^ (den.log2 + 1) := by exact_mod_cast Nat.lt_log2_self
  have power (n : Nat) : (0 : ℚ) < 2 ^ n := by positivity
  constructor
  · have digits : (num.log2 : Int) - den.log2 - 1 = (num.log2 : Int) - ((den.log2 + 1 : Nat) : Int) := by
      push_cast
      ring
    rw [digits, zpow_sub₀ two, zpow_natCast, zpow_natCast, div_lt_div_iff₀ (power _) size]
    calc (2 : ℚ) ^ num.log2 * den ≤ num * den := by gcongr
      _ < num * 2 ^ (den.log2 + 1) := by
        have : (0 : ℚ) < num := lt_of_lt_of_le (power _) low
        gcongr
  · have digits : (num.log2 : Int) - den.log2 + 1 = ((num.log2 + 1 : Nat) : Int) - (den.log2 : Int) := by
      push_cast
      ring
    rw [digits, zpow_sub₀ two, zpow_natCast, zpow_natCast, div_lt_div_iff₀ size (power _)]
    calc (num : ℚ) * 2 ^ den.log2 < 2 ^ (num.log2 + 1) * 2 ^ den.log2 := by gcongr
      _ ≤ 2 ^ (num.log2 + 1) * den := by gcongr

theorem le_scaled_iff {num den : Nat} (positive : 0 < den) (q : Int) :
    (scaled num den q).1 / (scaled num den q).2 ≥ Nat.pow 2 53 ↔ (2 : ℚ) ^ 53 ≤ num / den / 2 ^ q := by
  have size : (0 : ℚ) < (scaled num den q).2 := by exact_mod_cast scaled_pos num positive q
  rw [← scaled_eq, le_div_iff₀ size, ge_iff_le, Nat.le_div_iff_mul_le (scaled_pos num positive q)]
  exact_mod_cast Iff.rfl

/-- A number that is known up to two powers of two: the first guess at its grid is one too small at most. -/
theorem onGrid_of_bounds {x : ℚ} {e : Int} (low : 2 ^ (e - 1) < x) (high : x < 2 ^ (e + 1)) {guess : Int}
    (guessed : guess = max (e - 53) (-1074)) :
    OnGrid x (if 2 ^ 53 ≤ x / 2 ^ guess then guess + 1 else guess) := by
  have two : (2 : ℚ) ≠ 0 := by norm_num
  have power (q : Int) : (0 : ℚ) < 2 ^ q := zpow_pos (by norm_num) q
  split
  · next large =>
    refine ⟨by omega, ?_, .inr ?_⟩
    · rw [div_lt_iff₀ (power _), ← zpow_natCast, ← zpow_add₀ two]
      exact high.trans_le (zpow_le_zpow_right₀ (by norm_num) (by push_cast; omega))
    · rw [zpow_add_one₀ two, ← div_div, le_div_iff₀ (by norm_num)]
      linarith
  · next small =>
    refine ⟨by omega, not_le.mp small, ?_⟩
    rcases max_choice (e - 53) (-1074) with same | same
    · right
      rw [le_div_iff₀ (power _), ← zpow_natCast, ← zpow_add₀ two, guessed, same]
      refine le_of_eq_of_le ?_ low.le
      congr 1
      push_cast
      ring
    · exact .inl (guessed.trans same)

/-- The bits for a ratio: the number of its grid, and its place there. -/
theorem nearestBits_eq (num : Nat) {den : Nat} (positive : 0 < den) : ∃ q r, OnGrid (num / den) q ∧
    IsNearest (num / den / 2 ^ q) r ∧
    nearestBits num den = min ((q + 1074).toNat * Nat.pow 2 52 + r) infinityBits := by
  by_cases full : num = 0
  · subst full
    refine ⟨-1074, 0, ⟨le_rfl, by norm_num, .inl rfl⟩, ⟨by norm_num, fun _ => Even.zero⟩, ?_⟩
    simp [nearestBits]
  obtain ⟨low, high⟩ := ratio_bounds full positive
  have nearest (q : Int) : IsNearest (num / den / 2 ^ q)
      (roundHalfEven (scaled num den q).1 (scaled num den q).2) := by
    rw [← scaled_eq]
    exact isNearest_roundHalfEven _ (scaled_pos num positive q)
  refine ⟨_, _, onGrid_of_bounds low high rfl, nearest _, ?_⟩
  unfold nearestBits
  rw [if_neg full]
  simp only [le_scaled_iff positive]

/-! ### Values -/

/-- The number that a finite double stands for. -/
def value (x : Double) : ℚ := x.ratio.1 / x.ratio.2

/-- `v` is what `x` is rounded to. -/
def RoundsTo (x v : ℚ) : Prop := ∃ q r, OnGrid x q ∧ IsNearest (x / 2 ^ q) r ∧ v = r * 2 ^ q

theorem value_of_magnitude {x : Double} (positive : x.isNegative = false) {m : Nat} {q : Int}
    (h : x.magnitude = (m, q)) : x.value = m * 2 ^ q := by
  unfold value ratio
  rw [h, positive]
  dsimp only
  split
  · next large =>
    obtain ⟨n, rfl⟩ := Int.eq_ofNat_of_zero_le large
    simp [signed, Nat.pow_eq]
  · next small =>
    obtain ⟨n, same⟩ := Int.eq_ofNat_of_zero_le (a := -q) (by omega)
    obtain rfl : q = -n := by omega
    simp [signed, Nat.pow_eq, div_eq_mul_inv]

theorem fields_of_place {k r : Nat} (most : r ≤ 2 ^ 53) (small : k * Nat.pow 2 52 + r < infinityBits) :
    let x : Double := ⟨k * Nat.pow 2 52 + r⟩
    x.isNegative = false ∧ x.isFinite = true ∧ x.exponent = k + r / Nat.pow 2 52 ∧
      x.fraction = r % Nat.pow 2 52 := by
  intro x
  rw [infinityBits, show Nat.pow 2 52 = 4503599627370496 from rfl] at small
  rw [show (2 : Nat) ^ 53 = 9007199254740992 from rfl] at most
  have exponent : x.exponent = k + r / Nat.pow 2 52 := by
    simp only [x, Double.exponent, show Nat.pow 2 52 = 4503599627370496 from rfl,
      show Nat.pow 2 11 = 2048 from rfl]
    omega
  have stored : x.exponent < 2047 := by
    rw [exponent, show Nat.pow 2 52 = 4503599627370496 from rfl]
    omega
  refine ⟨?_, by simpa [isFinite] using stored.ne, exponent, ?_⟩
  · simp only [x, isNegative, signBit, show Nat.pow 2 52 = 4503599627370496 from rfl,
      show Nat.pow 2 63 = 9223372036854775808 from rfl, beq_eq_false_iff_ne]
    omega
  · simp only [x, fraction, show Nat.pow 2 52 = 4503599627370496 from rfl]
    omega

theorem value_of_place {k r : Nat} (most : r ≤ 2 ^ 53) (normal : k = 0 ∨ 2 ^ 52 ≤ r)
    (small : k * Nat.pow 2 52 + r < infinityBits) :
    (⟨k * Nat.pow 2 52 + r⟩ : Double).value = r * 2 ^ ((k : Int) - 1074) := by
  obtain ⟨positive, -, exponent, fraction⟩ := fields_of_place most small
  rw [show (2 : Nat) ^ 53 = 9007199254740992 from rfl] at most
  rw [show (2 : Nat) ^ 52 = 4503599627370496 from rfl] at normal
  have magnitude (m : Nat) (q : Int) (h : (⟨k * Nat.pow 2 52 + r⟩ : Double).magnitude = (m, q))
      (same : (m : ℚ) * 2 ^ q = r * 2 ^ ((k : Int) - 1074)) := (value_of_magnitude positive h).trans same
  unfold Double.magnitude at magnitude
  rw [exponent, fraction, show Nat.pow 2 52 = 4503599627370496 from rfl] at magnitude
  rcases lt_or_ge r 4503599627370496 with few | many
  · obtain rfl : k = 0 := by omega
    rw [Nat.div_eq_of_lt few, Nat.mod_eq_of_lt few, if_pos rfl] at magnitude
    exact magnitude r (-1074) rfl rfl
  rw [if_neg (by omega)] at magnitude
  rcases lt_or_ge r 9007199254740992 with less | all
  · refine magnitude r (k - 1074) (Prod.ext ?_ ?_) rfl
    · show r % 4503599627370496 + 4503599627370496 = r
      omega
    · show ((k + r / 4503599627370496 : Nat) : Int) - 1075 = k - 1074
      omega
  · -- the next grid begins there
    obtain rfl : r = 9007199254740992 := le_antisymm most all
    refine magnitude 4503599627370496 (k - 1074 + 1) (Prod.ext rfl ?_) ?_
    · show ((k + 9007199254740992 / 4503599627370496 : Nat) : Int) - 1075 = k - 1074 + 1
      omega
    · rw [zpow_add_one₀ (by norm_num)]
      push_cast
      ring

theorem OnGrid.isNearest_le {x : ℚ} {q : Int} {r : Nat} (grid : OnGrid x q) (near : IsNearest (x / 2 ^ q) r) :
    r ≤ 2 ^ 53 := near.le_of_le (by exact_mod_cast grid.below.le)

theorem OnGrid.normal {x : ℚ} {q : Int} {r : Nat} (grid : OnGrid x q) (near : IsNearest (x / 2 ^ q) r) :
    (q + 1074).toNat = 0 ∨ 2 ^ 52 ≤ r := by
  obtain rfl | above := grid.above
  · exact .inl rfl
  · exact .inr (near.le_of_ge (by exact_mod_cast above))

theorem roundsTo_nearest (num : Nat) {den : Nat} (positive : 0 < den)
    (finite : (⟨nearestBits num den⟩ : Double).isFinite = true) :
    RoundsTo (num / den) (⟨nearestBits num den⟩ : Double).value := by
  obtain ⟨q, r, grid, near, same⟩ := nearestBits_eq num positive
  rw [same] at finite ⊢
  rcases lt_or_ge ((q + 1074).toNat * Nat.pow 2 52 + r) infinityBits with small | large
  · rw [min_eq_left small.le]
    refine ⟨q, r, grid, near, ?_⟩
    rw [value_of_place (grid.isNearest_le near) (grid.normal near) small,
      Int.toNat_of_nonneg (by linarith [grid.least])]
    congr 2
    ring
  · rw [min_eq_right large] at finite
    exact absurd finite (by decide)

/-- Half a step above the largest finite double. -/
def limit : ℚ := (2 ^ 54 - 1) * 2 ^ (970 : Int)

/-- Up to that limit the places on a grid are those of finite doubles. -/
theorem OnGrid.lt_limit_iff {x : ℚ} {q : Int} {r : Nat} (grid : OnGrid x q) (near : IsNearest (x / 2 ^ q) r) :
    (q + 1074).toNat * Nat.pow 2 52 + r < infinityBits ↔ x < limit := by
  have most := grid.isNearest_le near
  have normal := grid.normal near
  have least := grid.least
  rw [infinityBits, show Nat.pow 2 52 = 4503599627370496 from rfl]
  rw [show (2 : Nat) ^ 53 = 9007199254740992 from rfl] at most
  rw [show (2 : Nat) ^ 52 = 4503599627370496 from rfl] at normal
  have power (p : Int) : (0 : ℚ) < 2 ^ p := zpow_pos (by norm_num) p
  have grows {p p' : Int} (h : p ≤ p') : (2 : ℚ) ^ p ≤ 2 ^ p' := zpow_le_zpow_right₀ (by norm_num) h
  have next (p : Int) : (2 : ℚ) ^ (p + 1) = 2 ^ p * 2 := zpow_add_one₀ (by norm_num) p
  -- the largest finite double is on the grid of `2 ^ 971`
  rcases lt_trichotomy q 971 with early | rfl | late
  · refine iff_of_true (by omega) (lt_of_lt_of_le ((div_lt_iff₀ (power q)).mp grid.below) ?_)
    calc (2 : ℚ) ^ 53 * 2 ^ q ≤ 2 ^ 53 * 2 ^ (970 : Int) :=
          mul_le_mul_of_nonneg_left (grows (by omega)) (by norm_num)
      _ ≤ limit := mul_le_mul_of_nonneg_right (by norm_num) (power _).le
  · have full := near.eq_iff_of_lt (n := 2 ^ 53) (by decide) (by exact_mod_cast grid.below)
    rw [le_div_iff₀ (power _)] at full
    have edge : ((2 ^ 53 : Nat) - 1 / 2 : ℚ) * 2 ^ (971 : Int) = limit := by
      rw [show (971 : Int) = 970 + 1 from rfl, next, limit]
      generalize (2 : ℚ) ^ (970 : Int) = unit
      push_cast
      ring
    rw [edge] at full
    rw [← not_le, ← not_le, ← full]
    exact not_congr ⟨fun h => by omega, fun h => by omega⟩
  · have filled : 2 ^ 52 ≤ x / 2 ^ q := grid.above.resolve_left (by omega)
    refine iff_of_false (by omega) (not_lt.mpr ?_)
    calc limit ≤ 2 ^ 52 * 2 ^ (972 : Int) := by
          rw [show (972 : Int) = 970 + 1 + 1 from rfl, next, next, limit]
          have := power 970
          generalize (2 : ℚ) ^ (970 : Int) = unit at this ⊢
          linarith
      _ ≤ 2 ^ 52 * 2 ^ q := mul_le_mul_of_nonneg_left (grows (by omega)) (by norm_num)
      _ ≤ x := (le_div_iff₀ (power q)).mp filled

/-- A ratio is too large from that limit on, where it would be rounded to `2 ^ 1024`. -/
theorem isFinite_nearest_iff (num : Nat) {den : Nat} (positive : 0 < den) :
    (⟨nearestBits num den⟩ : Double).isFinite = true ↔ (num : ℚ) / den < limit := by
  obtain ⟨q, r, grid, near, same⟩ := nearestBits_eq num positive
  rw [same, ← grid.lt_limit_iff near]
  rcases lt_or_ge ((q + 1074).toNat * Nat.pow 2 52 + r) infinityBits with small | large
  · rw [min_eq_left small.le]
    exact iff_of_true (fields_of_place (grid.isNearest_le near) small).2.1 small
  · rw [min_eq_right large]
    exact iff_of_false (by decide) (not_lt.mpr large)

/-! ### Integers -/

/-- Only numbers below one are on the first grid and short of digits. -/
theorem OnGrid.filled {x : ℚ} {q : Int} (grid : OnGrid x q) (one : 1 ≤ x) : 2 ^ 52 ≤ x / 2 ^ q := by
  refine grid.above.resolve_left ?_
  rintro rfl
  have few := grid.below
  rw [div_lt_iff₀ (zpow_pos (by norm_num) _)] at few
  have tiny : (2 : ℚ) ^ 53 * 2 ^ (-1074 : Int) ≤ 1 := by
    rw [← zpow_natCast, ← zpow_add₀ (by norm_num)]
    exact zpow_le_one_of_nonpos₀ (by norm_num) (by norm_num)
  linarith

namespace RoundsTo

variable {x v : ℚ}

theorem le_natCast (h : RoundsTo x v) {n : Nat} (small : n ≤ 2 ^ 53) (le : x ≤ n) : v ≤ n := by
  obtain ⟨q, r, grid, near, rfl⟩ := h
  have power : (0 : ℚ) < 2 ^ q := zpow_pos (by norm_num) q
  have most : (n : ℚ) ≤ 2 ^ 53 := by exact_mod_cast small
  rcases le_or_gt q 0 with fine | coarse
  · -- the integer is a place on the grid
    obtain ⟨p, same⟩ := Int.eq_ofNat_of_zero_le (a := -q) (by omega)
    obtain rfl : q = -p := by omega
    have whole : (r : ℚ) ≤ n * 2 ^ p := by
      exact_mod_cast near.le_of_le (n := n * 2 ^ p) (by simpa using le)
    rw [zpow_neg, zpow_natCast]
    exact (mul_inv_le_iff₀ (by positivity)).mpr whole
  · have filled : 2 ^ 52 ≤ x / 2 ^ q := grid.above.resolve_left (by omega)
    have two : (2 : ℚ) ≤ 2 ^ q := by
      calc (2 : ℚ) = 2 ^ (1 : Int) := by norm_num
        _ ≤ 2 ^ q := zpow_le_zpow_right₀ (by norm_num) (by omega)
    rw [le_div_iff₀ power] at filled
    have first : x / 2 ^ q ≤ (2 ^ 52 : Nat) := by
      rw [div_le_iff₀ power]
      push_cast
      linarith
    have low : (r : ℚ) ≤ 2 ^ 52 := by exact_mod_cast near.le_of_le first
    calc (r : ℚ) * 2 ^ q ≤ 2 ^ 52 * 2 ^ q := by gcongr
      _ ≤ n := filled.trans le

/-- A ratio whose numerator has no more than 53 digits is not rounded down to an integer. -/
theorem natCast_lt {num den : Nat} (h : RoundsTo (num / den) v) (small : num ≤ 2 ^ 53) (positive : 0 < den)
    {n : Nat} (one : 1 ≤ n) (lt : (n : ℚ) < num / den) : (n : ℚ) < v := by
  obtain ⟨q, r, grid, near, rfl⟩ := h
  have power : (0 : ℚ) < 2 ^ q := zpow_pos (by norm_num) q
  have size : (0 : ℚ) < den := by exact_mod_cast positive
  have least : (1 : ℚ) ≤ n := by exact_mod_cast one
  have most : (num : ℚ) ≤ 2 ^ 53 := by exact_mod_cast small
  have filled := grid.filled (least.trans lt.le)
  by_contra down
  have low : (r : ℚ) ≤ n / 2 ^ q := (le_div_iff₀ power).mpr (not_lt.mp down)
  -- the ratio is one part of its denominator above the integer, and a half is as far as rounding goes
  have part : (num : ℚ) / den / 2 ^ q / num ≤ num / den / 2 ^ q - n / 2 ^ q := by
    have above : n * den + 1 ≤ num := by
      rw [lt_div_iff₀ size] at lt
      exact_mod_cast lt
    have above : (n : ℚ) * den + 1 ≤ num := by exact_mod_cast above
    have full : (0 : ℚ) < num := by nlinarith
    rw [← sub_div, div_right_comm, div_le_div_iff_of_pos_right power, div_div, mul_comm, ← div_div,
      div_self full.ne', div_sub' size.ne', div_le_div_iff_of_pos_right size]
    linarith
  have half := (abs_le.mp near.close).2
  have full : (0 : ℚ) < num := by
    by_contra none
    have : (num : ℚ) / den ≤ 0 := div_nonpos_of_nonpos_of_nonneg (not_lt.mp none) size.le
    linarith
  have even : (num : ℚ) / den / 2 ^ q ≤ num / 2 := by
    rw [div_le_iff₀ full] at part
    nlinarith
  -- so it would be a place on the grid itself
  have place : (2 ^ 52 : Nat) ≤ r := near.le_of_ge (by exact_mod_cast filled)
  have place : (2 : ℚ) ^ 52 ≤ r := by exact_mod_cast place
  have apart : (n : ℚ) / 2 ^ q < num / den / 2 ^ q := (div_lt_div_iff_of_pos_right power).mpr lt
  linarith

/-- Such a ratio is rounded up to the same integer before and after, from one on. -/
theorem max_ceil {num den : Nat} (h : RoundsTo (num / den) v) (small : num ≤ 2 ^ 53) (positive : 0 < den) :
    max 1 ⌈v⌉ = max 1 ⌈(num : ℚ) / den⌉ := by
  rcases le_or_gt ((num : ℚ) / den) 1 with le | lt
  · have low : v ≤ 1 := by simpa using h.le_natCast (n := 1) (by norm_num) (by simpa using le)
    rw [max_eq_left (Int.ceil_le.mpr (by simpa using low)),
      max_eq_left (Int.ceil_le.mpr (by simpa using le))]
  · congr 1
    obtain ⟨n, same⟩ : ∃ n : Nat, ⌈(num : ℚ) / den⌉ = n + 1 := by
      have : 1 < ⌈(num : ℚ) / den⌉ := Int.lt_ceil.mpr (by simpa using lt)
      exact ⟨(⌈(num : ℚ) / den⌉ - 1).toNat, by omega⟩
    obtain ⟨below, above⟩ := Int.ceil_eq_iff.mp same
    push_cast at below above
    have one : 1 ≤ n := by
      by_contra none
      obtain rfl : n = 0 := by omega
      simp at above
      linarith
    have most : n + 1 ≤ 2 ^ 53 := by
      have size : (1 : ℚ) ≤ den := by exact_mod_cast positive
      have : (num : ℚ) / den ≤ num := div_le_self (Nat.cast_nonneg _) size
      have : (n : ℚ) < num := by linarith
      have : n < num := by exact_mod_cast this
      omega
    rw [same]
    refine Int.ceil_eq_iff.mpr ⟨?_, ?_⟩
    · simpa using h.natCast_lt small positive one (by simpa using below)
    · simpa using h.le_natCast most (by simpa using above)

end RoundsTo

end GraphQuery.Number.Double
