import Mathlib.Data.Int.Log
import Mathlib.Data.Rat.Floor
import Mathlib.Tactic.Linarith

/-!
# Python's `float` arithmetic

A Python `float` is an IEEE 754 binary64 double. A float subtraction or
multiplication, and an `int` turned into a float, give the exact result
rounded to the nearest double, ties to the even significand: the doubles of
the binade `[2 ^ e, 2 ^ (e + 1))` lie `2 ^ (e - 52)` apart, and those below
`2 ^ -1022` (the subnormals) `2 ^ -1074` apart. Results past the largest double
(an infinity, on which `int()` raises `OverflowError`) are not modelled.

* **exact on the grid** — a value of the grid, an integer up to `2 ^ 53` in
  particular, rounds to itself (`round_of_mul`, `round_intCast`);
* **monotone** — rounding keeps order (`round_mono`);
* **relative error** — from `2 ^ -1022` up, rounding adds at most `2 ^ -53` of
  the value (`round_le_mul`).
-/

namespace ProxyPy.Common.Double

/-- The binade of `x ≠ 0`: the `e` with `2 ^ e ≤ |x| < 2 ^ (e + 1)`. -/
def binade (x : ℚ) : ℤ := Int.log 2 |x|

/-- The exponent of the grid around `x`: its binade, or `-1022` among the
subnormals. -/
def exponent (x : ℚ) : ℤ := max (binade x) (-1022)

/-- The spacing of the doubles around `x`: 53 bits below its binade. -/
def ulp (x : ℚ) : ℚ := 2 ^ (exponent x - 52)

/-- The integer nearest `y`, ties to the even one. -/
def roundEven (y : ℚ) : ℤ :=
  if y + 1 / 2 = ⌊y + 1 / 2⌋ ∧ ⌊y + 1 / 2⌋ % 2 = 1 then ⌊y + 1 / 2⌋ - 1 else ⌊y + 1 / 2⌋

/-- `x` rounded to the grid of spacing `q`, ties to even. -/
def roundTo (q x : ℚ) : ℚ := roundEven (x / q) * q

/-- The double nearest `x`, ties to even: what a float operation whose exact
result is `x` returns. -/
def round (x : ℚ) : ℚ := roundTo (ulp x) x

/-! ## Rounding to the nearest integer -/

theorem roundEven_intCast (k : ℤ) : roundEven k = k := by
  have floor : ⌊(k : ℚ) + 1 / 2⌋ = k := Int.floor_eq_iff.mpr ⟨by linarith, by linarith⟩
  unfold roundEven
  rw [floor, if_neg fun tie => by linarith [tie.1]]

theorem roundEven_le (y : ℚ) : (roundEven y : ℚ) ≤ y + 1 / 2 := by
  have floor := Int.floor_le (y + 1 / 2)
  unfold roundEven
  split_ifs
  · push_cast
    linarith
  · exact floor

theorem roundEven_mono {s t : ℚ} (le : s ≤ t) : roundEven s ≤ roundEven t := by
  have floors : ⌊s + 1 / 2⌋ ≤ ⌊t + 1 / 2⌋ := Int.floor_mono (by linarith)
  have below := Int.floor_le (s + 1 / 2)
  unfold roundEven
  split_ifs with tieS tieT tieT <;> try omega
  -- `t` is a tie and `s` is not: they cannot share the floor of `· + 1 / 2`
  by_contra! close
  have same : ⌊s + 1 / 2⌋ = ⌊t + 1 / 2⌋ := by omega
  have equal : s = t := by
    have onGrid := tieT.1
    rw [← same] at onGrid
    linarith
  exact tieS (equal ▸ tieT)

/-! ## Rounding to a grid -/

section Grid

variable {q x y : ℚ}

theorem roundTo_mono (pos : 0 < q) (le : x ≤ y) : roundTo q x ≤ roundTo q y :=
  mul_le_mul_of_nonneg_right
    (Int.cast_le.mpr (roundEven_mono (div_le_div_of_nonneg_right le pos.le))) pos.le

theorem roundTo_mul (k : ℤ) (pos : 0 < q) : roundTo q (k * q) = k * q := by
  rw [roundTo, mul_div_cancel_right₀ _ pos.ne', roundEven_intCast]

theorem roundTo_le (pos : 0 < q) : roundTo q x ≤ x + q / 2 := by
  have near := mul_le_mul_of_nonneg_right (roundEven_le (x / q)) pos.le
  rw [add_mul, div_mul_cancel₀ _ pos.ne'] at near
  unfold roundTo
  linarith

end Grid

/-! ## The grid of the doubles -/

section Binade

variable {x y : ℚ}

theorem pow_binade_le (nonzero : x ≠ 0) : (2 : ℚ) ^ binade x ≤ |x| := by
  simpa using Int.zpow_log_le_self (b := 2) one_lt_two (abs_pos.mpr nonzero)

theorem lt_pow_binade_add_one (x : ℚ) : |x| < 2 ^ (binade x + 1) := by
  simpa using Int.lt_zpow_succ_log_self (b := 2) one_lt_two |x|

/-- The binade read off the bounds that define it. -/
theorem binade_eq {e : ℤ} (lower : (2 : ℚ) ^ e ≤ |x|) (upper : |x| < 2 ^ (e + 1)) :
    binade x = e := by
  have pos : 0 < |x| := lt_of_lt_of_le (zpow_pos two_pos e) lower
  have atLeast := (Int.zpow_le_iff_le_log (b := 2) one_lt_two pos).mp (by simpa using lower)
  have below := (Int.lt_zpow_iff_log_lt (b := 2) one_lt_two pos).mp (by simpa using upper)
  unfold binade
  omega

theorem binade_mono (nonzero : x ≠ 0) (le : |x| ≤ |y|) : binade x ≤ binade y :=
  Int.log_mono_right (abs_pos.mpr nonzero) le

theorem ulp_pos (x : ℚ) : 0 < ulp x := zpow_pos two_pos _

/-- The bottom of the binade of the grid around `x` is `2 ^ 52` steps of it. -/
theorem pow_exponent_eq (x : ℚ) : (2 : ℚ) ^ exponent x = ((2 ^ 52 : ℤ) : ℚ) * ulp x := by
  rw [ulp, zpow_sub₀ two_ne_zero]
  push_cast
  field_simp
  ring

/-- The top of the binade of the grid around `x` is `2 ^ 53` steps of it. -/
theorem pow_exponent_add_one_eq (x : ℚ) :
    (2 : ℚ) ^ (exponent x + 1) = ((2 ^ 53 : ℤ) : ℚ) * ulp x := by
  rw [zpow_add_one₀ two_ne_zero, pow_exponent_eq]
  push_cast
  ring

theorem lt_pow_exponent_add_one (x : ℚ) : |x| < 2 ^ (exponent x + 1) :=
  (lt_pow_binade_add_one x).trans_le
    (zpow_le_zpow_right₀ one_le_two (by unfold exponent; omega))

end Binade

/-! ## Rounding to the nearest double -/

section Round

variable {x y : ℚ}

/-- A value of the grid around it is a double. -/
theorem round_of_mul (k : ℤ) (grid : x = k * ulp x) : round x = x := by
  unfold round
  nth_rewrite 2 [grid]
  rw [roundTo_mul k (ulp_pos _), ← grid]

/-- Rounding never crosses a point of the grid, from above... -/
theorem round_le_of_le_mul (k : ℤ) (le : x ≤ k * ulp x) : round x ≤ k * ulp x := by
  have kept := roundTo_mono (ulp_pos x) le
  rwa [roundTo_mul k (ulp_pos x)] at kept

/-- ...or from below. -/
theorem le_round_of_mul_le (k : ℤ) (le : k * ulp x ≤ x) : k * ulp x ≤ round x := by
  have kept := roundTo_mono (ulp_pos x) le
  rwa [roundTo_mul k (ulp_pos x)] at kept

@[simp] theorem round_zero : round 0 = 0 := round_of_mul 0 (by simp)

theorem round_nonneg (nonneg : 0 ≤ x) : 0 ≤ round x := by
  simpa using le_round_of_mul_le 0 (x := x) (by simpa using nonneg)

theorem round_nonpos (nonpos : x ≤ 0) : round x ≤ 0 := by
  simpa using round_le_of_le_mul 0 (x := x) (by simpa using nonpos)

/-- In the normal range the grid around `x` starts at `2 ^ binade x`. -/
theorem pow_le_round (normal : binade x = exponent x) (pos : 0 < x) :
    2 ^ exponent x ≤ round x := by
  rw [pow_exponent_eq]
  refine le_round_of_mul_le _ ?_
  rw [← pow_exponent_eq, ← normal]
  simpa [abs_of_pos pos] using pow_binade_le pos.ne'

theorem round_le_neg_pow (normal : binade x = exponent x) (neg : x < 0) :
    round x ≤ -2 ^ exponent x := by
  have bottom := pow_binade_le neg.ne
  rw [abs_of_neg neg, normal, pow_exponent_eq] at bottom
  rw [pow_exponent_eq, ← neg_mul, ← Int.cast_neg]
  exact round_le_of_le_mul _ (by rw [Int.cast_neg, neg_mul]; linarith)

/-- **Monotone.** Rounding keeps the order of any two values. -/
theorem round_mono (le : x ≤ y) : round x ≤ round y := by
  -- with one grid for both, rounding to it is monotone; otherwise a binade lies between
  have oneGrid : exponent x = exponent y → round x ≤ round y := fun same => by
    unfold round
    rw [show ulp x = ulp y by rw [ulp, ulp, same]]
    exact roundTo_mono (ulp_pos y) le
  rcases le_or_lt x 0 with nonposX | posX
  · rcases le_or_lt 0 y with nonnegY | negY
    · exact (round_nonpos nonposX).trans (round_nonneg nonnegY)
    · have exps : exponent y ≤ exponent x := max_le_max
        (binade_mono negY.ne (by rw [abs_of_neg negY, abs_of_neg (le.trans_lt negY)]; linarith))
        le_rfl
      rcases exps.eq_or_lt with same | smaller
      · exact oneGrid same.symm
      have normal : binade x = exponent x := by unfold exponent at smaller ⊢; omega
      calc round x ≤ -2 ^ exponent x := round_le_neg_pow normal (le.trans_lt negY)
        _ ≤ -2 ^ (exponent y + 1) :=
          neg_le_neg (zpow_le_zpow_right₀ one_le_two (by omega))
        _ ≤ round y := by
          rw [pow_exponent_add_one_eq, ← neg_mul, ← Int.cast_neg]
          exact le_round_of_mul_le _ (by
            rw [Int.cast_neg, neg_mul, ← pow_exponent_add_one_eq]
            exact neg_le.mp ((neg_le_abs y).trans (lt_pow_exponent_add_one y).le))
  · have exps : exponent x ≤ exponent y := max_le_max
      (binade_mono posX.ne' (by rw [abs_of_pos posX, abs_of_pos (posX.trans_le le)]; exact le))
      le_rfl
    rcases exps.eq_or_lt with same | larger
    · exact oneGrid same
    have normal : binade y = exponent y := by unfold exponent at larger ⊢; omega
    calc round x ≤ 2 ^ (exponent x + 1) := by
          rw [pow_exponent_add_one_eq]
          exact round_le_of_le_mul _ (by
            rw [← pow_exponent_add_one_eq]
            exact (le_abs_self x).trans (lt_pow_exponent_add_one x).le)
      _ ≤ 2 ^ exponent y := zpow_le_zpow_right₀ one_le_two (by omega)
      _ ≤ round y := pow_le_round normal (posX.trans_le le)

/-- The double nearest `x`, read off its binade `e` in the normal range. -/
theorem round_eq_of_binade {e : ℤ} (lower : (2 : ℚ) ^ e ≤ |x|) (upper : |x| < 2 ^ (e + 1))
    (normal : -1022 ≤ e) : round x = roundEven (x / 2 ^ (e - 52)) * 2 ^ (e - 52) := by
  rw [round, roundTo, ulp, exponent, binade_eq lower upper, max_eq_left normal]

/-- A power of two of the normal range is a double. -/
theorem round_two_zpow {e : ℤ} (normal : -1022 ≤ e) : round (2 ^ e) = 2 ^ e := by
  have whole : binade ((2 : ℚ) ^ e) = e := binade_eq (le_abs_self _)
    (by rw [abs_of_pos (zpow_pos two_pos e)]; exact zpow_lt_zpow_right₀ one_lt_two (by omega))
  refine round_of_mul (2 ^ 52) ?_
  rw [← pow_exponent_eq, exponent, whole, max_eq_left normal]

/-- An integer up to `2 ^ 53` is a double. -/
theorem round_intCast {n : ℤ} (small : |n| ≤ 2 ^ 53) : round n = n := by
  rcases eq_or_ne n 0 with rfl | nonzero
  · simp
  have castNonzero : (n : ℚ) ≠ 0 := Int.cast_ne_zero.mpr nonzero
  have castSmall : |(n : ℚ)| ≤ 2 ^ (53 : ℤ) := by exact_mod_cast small
  have binadeLe : binade (n : ℚ) ≤ 53 :=
    (zpow_le_zpow_iff_right₀ one_lt_two).mp ((pow_binade_le castNonzero).trans castSmall)
  rcases (show exponent (n : ℚ) ≤ 52 ∨ binade (n : ℚ) = 53 by unfold exponent; omega)
    with inside | top
  · -- `ulp n` is `2 ^ -m`, and `n` is `n * 2 ^ m` steps
    obtain ⟨m, steps⟩ : ∃ m : ℕ, exponent (n : ℚ) - 52 = -m :=
      ⟨(52 - exponent (n : ℚ)).toNat, by omega⟩
    refine round_of_mul (n * 2 ^ m) ?_
    rw [ulp, steps, zpow_neg, zpow_natCast]
    push_cast
    field_simp
  · -- `|n| = 2 ^ 53`, two steps of `2` each
    have edge : |n| = 2 ^ 53 := le_antisymm small (by
      have bottom := pow_binade_le castNonzero
      rw [top] at bottom
      exact_mod_cast bottom)
    have spacing : ulp (n : ℚ) = 2 := by rw [ulp, exponent, top]; norm_num
    rcases abs_eq (by norm_num) |>.mp edge with rfl | rfl
    · exact round_of_mul (2 ^ 52) (by rw [spacing]; norm_num)
    · exact round_of_mul (-2 ^ 52) (by rw [spacing]; norm_num)

/-- **Relative error.** From `2 ^ -1022` up, the double nearest `x` exceeds it
by at most `2 ^ -53` of it. -/
theorem round_le_mul (normal : (2 : ℚ) ^ (-1022 : ℤ) ≤ x) : round x ≤ x * (1 + 1 / 2 ^ 53) := by
  have pos : 0 < x := (zpow_pos two_pos _).trans_le normal
  have binadeGe : -1022 ≤ binade x := by
    unfold binade
    rw [abs_of_pos pos]
    exact (Int.zpow_le_iff_le_log (b := 2) one_lt_two pos).mp (by simpa using normal)
  have bottom := pow_binade_le pos.ne'
  rw [abs_of_pos pos] at bottom
  have spacing : ulp x = 2 ^ binade x / 2 ^ 52 := by
    rw [ulp, exponent, max_eq_left binadeGe, zpow_sub₀ two_ne_zero]
    norm_num
  have near := roundTo_le (x := x) (ulp_pos x)
  have half : ulp x / 2 ≤ x / 2 ^ 53 := by
    rw [spacing]
    linarith
  unfold round
  linarith

end Round

end ProxyPy.Common.Double
