/-
# Rounding to doubles

A number of the language is a double, and the result of an operation is the double nearest to the
exact one; where two are nearest, the one with an even significand.  The range of the exponents
does not matter here.
-/
import Mathlib.Algebra.Order.Floor.Ring
import Mathlib.Data.Int.Log
import Mathlib.Data.Rat.Floor
import Mathlib.Tactic.Linarith
import Mathlib.Tactic.NormNum

namespace Doubles

/-- A number with a significand of at most 53 bits. -/
def IsDouble (x : ℚ) : Prop := ∃ m e : ℤ, |m| ≤ 2 ^ 53 ∧ x = m * 2 ^ e

/-- The result `r` of an operation whose exact result is `x`. -/
structure IsRounded (x r : ℚ) : Prop where
  isDouble : IsDouble r
  nearest : ∀ d, IsDouble d → |r - x| ≤ |d - x|

variable {x r d k : ℚ}

theorem isDouble_natCast {n : ℕ} (h : n ≤ 2 ^ 53) : IsDouble n := by
  refine ⟨n, 0, ?_, ?_⟩
  · rw [abs_of_nonneg (Int.natCast_nonneg n)]
    exact_mod_cast h
  · rw [zpow_zero, mul_one, Int.cast_natCast]

/-- A natural number less a small power of two. -/
theorem isDouble_sub {n j : ℕ} (h : n * 2 ^ j ≤ 2 ^ 53) : IsDouble (n - 1 / 2 ^ j) := by
  refine ⟨n * 2 ^ j - 1, -j, ?_, ?_⟩
  · have hcast : ((n * 2 ^ j : ℕ) : ℤ) ≤ 2 ^ 53 := by exact_mod_cast h
    have hnonneg : (0 : ℤ) ≤ ((n * 2 ^ j : ℕ) : ℤ) := Int.natCast_nonneg _
    push_cast at hcast hnonneg
    rw [abs_le]
    constructor <;> linarith
  · have hpow : (2 : ℚ) ^ j ≠ 0 := pow_ne_zero j two_ne_zero
    push_cast
    rw [zpow_neg, zpow_natCast, sub_mul, mul_assoc, mul_inv_cancel₀ hpow, mul_one, one_mul, one_div]

/-- Rounding does not pass a double downwards. -/
theorem IsRounded.le_of_le (h : IsRounded x r) (hk : IsDouble k) (hkx : k ≤ x) : k ≤ r := by
  by_contra hlt
  rw [not_le] at hlt
  have hnear := h.nearest k hk
  rw [abs_of_neg (by linarith), abs_of_nonpos (by linarith)] at hnear
  linarith

/-- Rounding does not pass a double upwards. -/
theorem IsRounded.ge_of_ge (h : IsRounded x r) (hk : IsDouble k) (hkx : x ≤ k) : r ≤ k := by
  by_contra hlt
  rw [not_le] at hlt
  have hnear := h.nearest k hk
  rw [abs_of_pos (by linarith), abs_of_nonneg (by linarith)] at hnear
  linarith

/-- A number that is nearer to a double below `k` does not become `k`. -/
theorem IsRounded.lt_of_lt (h : IsRounded x r) (hd : IsDouble d) (hdk : d < k)
    (hx : 2 * x < d + k) : r < k := by
  by_contra hge
  rw [not_lt] at hge
  have hnear := h.nearest d hd
  rw [abs_of_pos (by linarith)] at hnear
  rcases abs_cases (d - x) with ⟨heq, -⟩ | ⟨heq, -⟩
  · linarith
  · linarith

/-! ## The rounding itself -/

/-- The nearest integer, the even one of two. -/
def roundToEven (x : ℚ) : ℤ :=
  if 2 * Int.fract x < 1 ∨ 2 * Int.fract x = 1 ∧ 2 ∣ ⌊x⌋ then ⌊x⌋ else ⌊x⌋ + 1

/-- The double that stands for a number. -/
def toDouble (x : ℚ) : ℚ :=
  if x = 0 then 0
  else
    let exponent := Int.log 2 |x| - 52
    roundToEven (x / 2 ^ exponent) * 2 ^ exponent

theorem roundToEven_nearest (x : ℚ) (k : ℤ) : |(roundToEven x : ℚ) - x| ≤ |(k : ℚ) - x| := by
  have hfloor : (⌊x⌋ : ℚ) + Int.fract x = x := Int.floor_add_fract x
  have hnonneg := Int.fract_nonneg x
  have hlt := Int.fract_lt_one x
  have hk : (k : ℚ) ≤ ⌊x⌋ ∨ (⌊x⌋ : ℚ) + 1 ≤ k := by
    rcases lt_or_ge ⌊x⌋ k with h | h
    · exact .inr (by exact_mod_cast h)
    · exact .inl (by exact_mod_cast h)
  have habove := le_abs_self ((k : ℚ) - x)
  have hbelow := neg_le_abs ((k : ℚ) - x)
  unfold roundToEven
  split
  next h =>
    rw [abs_of_nonpos (by linarith)]
    rcases hk with hk | hk <;> rcases h with h | ⟨h, -⟩ <;> linarith
  next h =>
    rw [not_or] at h
    have hhalf : 1 ≤ 2 * Int.fract x := not_lt.mp h.1
    push_cast
    rw [abs_of_nonneg (by linarith)]
    rcases hk with hk | hk <;> linarith

/-- The significand of a number, once its exponent is chosen. -/
theorem significand_bounds {x : ℚ} (hx : x ≠ 0) :
    2 ^ 52 ≤ |x / 2 ^ (Int.log 2 |x| - 52)| ∧ |x / 2 ^ (Int.log 2 |x| - 52)| < 2 ^ 53 := by
  have hpos : 0 < |x| := abs_pos.mpr hx
  have hpower : (0 : ℚ) < 2 ^ (Int.log 2 |x| - 52) := zpow_pos two_pos _
  have hlow : (2 : ℚ) ^ Int.log 2 |x| ≤ |x| := by
    exact_mod_cast Int.zpow_log_le_self (b := 2) (by decide) hpos
  have hhigh : |x| < (2 : ℚ) ^ (Int.log 2 |x| + 1) := by
    exact_mod_cast Int.lt_zpow_succ_log_self (b := 2) (by decide) |x|
  rw [abs_div, abs_of_pos hpower]
  constructor
  · rw [le_div_iff₀ hpower, ← zpow_natCast, ← zpow_add₀ two_ne_zero]
    exact (congrArg _ (by norm_num)).trans_le hlow
  · rw [div_lt_iff₀ hpower, ← zpow_natCast, ← zpow_add₀ two_ne_zero]
    exact hhigh.trans_eq (congrArg _ (by push_cast; ring))

/-- The nearest integer to a significand has no more bits than it. -/
theorem abs_roundToEven_le {y : ℚ} (hy : |y| < 2 ^ 53) : |roundToEven y| ≤ 2 ^ 53 := by
  obtain ⟨hy₁, hy₂⟩ := abs_lt.mp hy
  have hlow := (roundToEven_nearest y (-2 ^ 53)).trans_eq
    (abs_of_nonpos (by push_cast; linarith))
  have hhigh := (roundToEven_nearest y (2 ^ 53)).trans_eq
    (abs_of_nonneg (by push_cast; linarith))
  push_cast at hlow hhigh
  have hbounds : -(2 ^ 53 : ℚ) ≤ roundToEven y ∧ (roundToEven y : ℚ) ≤ 2 ^ 53 := by
    constructor
    · linarith [neg_abs_le ((roundToEven y : ℚ) - y)]
    · linarith [le_abs_self ((roundToEven y : ℚ) - y)]
  rw [abs_le]
  constructor
  · exact_mod_cast hbounds.1
  · exact_mod_cast hbounds.2

/-- A double of a larger exponent is an integer in units of the smaller one. -/
theorem exists_units {m e exponent : ℤ} (h : exponent ≤ e) :
    ∃ k : ℤ, (m : ℚ) * 2 ^ e = k * 2 ^ exponent := by
  obtain ⟨n, hn⟩ := Int.eq_ofNat_of_zero_le (Int.sub_nonneg.mpr h)
  refine ⟨m * 2 ^ n, ?_⟩
  have he : e = n + exponent := by omega
  rw [he, zpow_add₀ two_ne_zero, zpow_natCast]
  push_cast
  ring

/-- **`toDouble` answers a double that is nearest.** -/
theorem isRounded_toDouble (x : ℚ) : IsRounded x (toDouble x) := by
  by_cases hx : x = 0
  · rw [toDouble, if_pos hx, hx]
    refine ⟨⟨0, 0, by norm_num, by norm_num⟩, fun d _ => ?_⟩
    rw [sub_zero, abs_zero]
    exact abs_nonneg _
  rw [toDouble, if_neg hx]
  obtain ⟨hlow, hhigh⟩ := significand_bounds hx
  generalize Int.log 2 |x| - 52 = exponent at hlow hhigh ⊢
  have hpower : (0 : ℚ) < 2 ^ exponent := zpow_pos two_pos _
  have hscale : ∀ z : ℚ, |z * 2 ^ exponent - x| = |z - x / 2 ^ exponent| * 2 ^ exponent := by
    intro z
    have hmul : z * 2 ^ exponent - x = (z - x / 2 ^ exponent) * 2 ^ exponent := by
      rw [sub_mul, div_mul_cancel₀ x hpower.ne']
    rw [hmul, abs_mul, abs_of_pos hpower]
  have hunits : ∀ k : ℤ, |(roundToEven (x / 2 ^ exponent) : ℚ) * 2 ^ exponent - x| ≤
      |(k : ℚ) * 2 ^ exponent - x| := by
    intro k
    rw [hscale, hscale]
    exact mul_le_mul_of_nonneg_right (roundToEven_nearest _ k) hpower.le
  refine ⟨⟨_, exponent, abs_roundToEven_le hhigh, rfl⟩, ?_⟩
  rintro d ⟨m, e, hm, rfl⟩
  rcases lt_or_ge e exponent with he | he
  · -- a double with a smaller exponent is below the least significand
    have hd : |(m : ℚ) * 2 ^ e| ≤ 2 ^ 52 * 2 ^ exponent := by
      have hm' : |(m : ℚ)| ≤ 2 ^ 53 := by exact_mod_cast hm
      have hstep : (2 : ℚ) ^ (e + 1) ≤ 2 ^ exponent := zpow_le_zpow_right₀ one_le_two he
      rw [zpow_add_one₀ two_ne_zero] at hstep
      rw [abs_mul, abs_of_pos (zpow_pos two_pos e : (0 : ℚ) < 2 ^ e)]
      have hmul := mul_le_mul_of_nonneg_right hm' (zpow_pos two_pos e : (0 : ℚ) < 2 ^ e).le
      linarith
    have hx' : 2 ^ 52 * 2 ^ exponent ≤ |x| := by
      rwa [abs_div, abs_of_pos hpower, le_div_iff₀ hpower] at hlow
    rcases le_or_gt 0 x with hsign | hsign
    · refine (hunits (2 ^ 52)).trans ?_
      push_cast
      rw [abs_of_nonneg hsign] at hx'
      rw [abs_of_nonpos (by linarith)]
      linarith [le_abs_self ((m : ℚ) * 2 ^ e), neg_abs_le ((m : ℚ) * 2 ^ e - x)]
    · refine (hunits (-2 ^ 52)).trans ?_
      push_cast
      rw [abs_of_neg hsign] at hx'
      rw [abs_of_nonneg (by linarith)]
      linarith [neg_abs_le ((m : ℚ) * 2 ^ e), le_abs_self ((m : ℚ) * 2 ^ e - x)]
  · obtain ⟨k, hk⟩ := exists_units (m := m) he
    rw [hk]
    exact hunits k

/-- A double stands for itself. -/
theorem toDouble_of_isDouble {x : ℚ} (h : IsDouble x) : toDouble x = x := by
  have hnear := (isRounded_toDouble x).nearest x h
  rw [sub_self, abs_zero, abs_nonpos_iff, sub_eq_zero] at hnear
  exact hnear

end Doubles
