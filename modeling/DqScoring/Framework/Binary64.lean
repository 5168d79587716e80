import DqScoring.Framework.Arithmetic
import Mathlib.Algebra.Order.Field.Power
import Mathlib.Data.Int.Log
import Mathlib.Data.Rat.Floor
import Mathlib.Tactic.Linarith
import Mathlib.Tactic.NormNum
import Mathlib.Tactic.Positivity
import Mathlib.Tactic.Ring

/-!
# Binary64 numbers

Floating-point numbers of 53 binary digits as rational numbers: an operation takes the exact
result and rounds it to the nearest number, to the even one of two (`Binary64.nearest`). The sum
of a list carries a compensation for what the additions lose (`Binary64.sum`), as Python's `sum`
does from version 3.12 on. Infinities have no place here, so that the definitions speak about
results below the largest number, `2 ^ 1024 - 2 ^ 971`.

Rounding does not move a number across one that has few enough digits (`Binary64.nearest_le`,
`Binary64.le_nearest`), and it moves a number by half a unit in the last place at most
(`Binary64.abs_nearest_sub_le`).
-/

namespace Framework

/-! ### The nearest integer -/

/-- The nearest integer, of two the even one. -/
def nearestEven (q : ℚ) : ℤ :=
  if q - ⌊q⌋ < 1 / 2 then ⌊q⌋
  else if 1 / 2 < q - ⌊q⌋ then ⌊q⌋ + 1
  else if ⌊q⌋ % 2 = 0 then ⌊q⌋ else ⌊q⌋ + 1

/-- It is the integer below, or the one above if that is not farther. -/
theorem nearestEven_cases (q : ℚ) :
    nearestEven q = ⌊q⌋ ∧ q - ⌊q⌋ ≤ 1 / 2 ∨ nearestEven q = ⌊q⌋ + 1 ∧ 1 / 2 ≤ q - ⌊q⌋ := by
  unfold nearestEven
  split
  · next h_below => exact Or.inl ⟨rfl, h_below.le⟩
  · next h_below =>
    split
    · next h_above => exact Or.inr ⟨rfl, h_above.le⟩
    · next h_above =>
      split
      · exact Or.inl ⟨rfl, not_lt.mp h_above⟩
      · exact Or.inr ⟨rfl, not_lt.mp h_below⟩

/-- Rounding does not pass an integer above. -/
theorem nearestEven_le {q : ℚ} {m : ℤ} (h : q ≤ m) : nearestEven q ≤ m := by
  have h_floor : ⌊q⌋ ≤ m := by exact_mod_cast (Int.floor_le q).trans h
  rcases nearestEven_cases q with ⟨h_eq, -⟩ | ⟨h_eq, h_half⟩
  · rw [h_eq]
    exact h_floor
  · -- `q` is not an integer, so that its floor is below `m`
    have h_lt : (⌊q⌋ : ℚ) < m := by linarith
    rw [h_eq]
    exact Int.add_one_le_of_lt (by exact_mod_cast h_lt)

/-- Rounding does not pass an integer below. -/
theorem le_nearestEven {q : ℚ} {m : ℤ} (h : (m : ℚ) ≤ q) : m ≤ nearestEven q := by
  have h_floor : m ≤ ⌊q⌋ := Int.le_floor.mpr h
  rcases nearestEven_cases q with ⟨h_eq, -⟩ | ⟨h_eq, -⟩ <;> omega

/-- Rounding moves a number by half a unit at most. -/
theorem abs_nearestEven_sub_le (q : ℚ) : |(nearestEven q : ℚ) - q| ≤ 1 / 2 := by
  have h_floor := Int.floor_le q
  have h_lt := Int.lt_floor_add_one q
  rcases nearestEven_cases q with ⟨h_eq, h_half⟩ | ⟨h_eq, h_half⟩
  · rw [h_eq, abs_le]
    constructor <;> linarith
  · rw [h_eq, abs_le]
    push_cast
    constructor <;> linarith

/-- From half way on, a number is rounded up to an even integer. -/
theorem le_nearestEven_of_even {q : ℚ} {m : ℤ} (h_even : m % 2 = 0) (h : (m : ℚ) - 1 / 2 ≤ q) :
    m ≤ nearestEven q := by
  by_cases h_le : (m : ℚ) ≤ q
  · exact le_nearestEven h_le
  have h_floor : ⌊q⌋ = m - 1 := by
    rw [Int.floor_eq_iff]
    push_cast
    constructor <;> linarith
  unfold nearestEven
  rw [h_floor]
  push_cast
  rw [if_neg (by linarith)]
  split
  · omega
  · rw [if_neg (by omega)]
    omega

namespace Binary64

/-! ### The nearest number -/

/-- The exponent of the unit in the last place: 53 digits, none of them below `2 ^ (-1074)`. -/
def ulpExponent (x : ℚ) : ℤ := max (Int.log 2 |x| - 52) (-1074)

/-- The number nearest to `x`. -/
def nearest (x : ℚ) : ℚ := nearestEven (x / 2 ^ ulpExponent x) * 2 ^ ulpExponent x

/-- Small numbers have a fine unit. -/
theorem ulpExponent_le {x : ℚ} {e : ℤ} (h_x : x ≠ 0) (h : |x| < 2 ^ (e + 53))
    (h_e : -1074 ≤ e) : ulpExponent x ≤ e := by
  refine max_le ?_ h_e
  have h_log : Int.log 2 |x| < e + 53 := by
    rw [← Int.lt_zpow_iff_log_lt (by decide) (abs_pos.mpr h_x)]
    exact_mod_cast h
  omega

/-- Large numbers have a coarse unit. -/
theorem le_ulpExponent {x : ℚ} {e : ℤ} (h : 2 ^ (e + 52) ≤ |x|) : e ≤ ulpExponent x := by
  have h_pos : 0 < |x| := (zpow_pos two_pos _).trans_le h
  have h_log : e + 52 ≤ Int.log 2 |x| := by
    rw [← Int.zpow_le_iff_le_log (by decide) h_pos]
    exact_mod_cast h
  exact le_max_of_le_left (by omega)

/-- A number of digits that are not below the last place of `x`. -/
theorem div_ulp {x : ℚ} {e : ℤ} (h_e : ulpExponent x ≤ e) (m : ℤ) :
    ∃ n : ℤ, (m : ℚ) * 2 ^ e = n * 2 ^ ulpExponent x := by
  obtain ⟨k, h_k⟩ := Int.eq_ofNat_of_zero_le (sub_nonneg.mpr h_e)
  refine ⟨m * 2 ^ k, ?_⟩
  have h_two : (2 : ℚ) ≠ 0 := two_ne_zero
  have h_pow : (2 : ℚ) ^ e = 2 ^ k * 2 ^ ulpExponent x := by
    rw [← zpow_natCast, ← zpow_add₀ h_two]
    congr 1
    omega
  rw [h_pow]
  push_cast
  ring

/-- Rounding does not move a number above one without digits below its last place. -/
theorem nearest_le {x : ℚ} {m e : ℤ} (h_e : ulpExponent x ≤ e) (h : x ≤ m * 2 ^ e) :
    nearest x ≤ m * 2 ^ e := by
  have h_ulp : (0 : ℚ) < 2 ^ ulpExponent x := zpow_pos two_pos _
  obtain ⟨n, h_n⟩ := div_ulp h_e m
  rw [h_n] at h ⊢
  refine mul_le_mul_of_nonneg_right ?_ h_ulp.le
  exact_mod_cast nearestEven_le ((div_le_iff₀ h_ulp).mpr h)

/-- Rounding does not pass a float below. -/
theorem le_nearest {x : ℚ} {m e : ℤ} (h_e : ulpExponent x ≤ e) (h : (m : ℚ) * 2 ^ e ≤ x) :
    (m : ℚ) * 2 ^ e ≤ nearest x := by
  have h_ulp : (0 : ℚ) < 2 ^ ulpExponent x := zpow_pos two_pos _
  obtain ⟨n, h_n⟩ := div_ulp h_e m
  rw [h_n] at h ⊢
  refine mul_le_mul_of_nonneg_right ?_ h_ulp.le
  exact_mod_cast le_nearestEven ((le_div_iff₀ h_ulp).mpr h)

/-- Rounding moves a number by half a unit in the last place at most. -/
theorem abs_nearest_sub_le (x : ℚ) : |nearest x - x| ≤ 2 ^ ulpExponent x / 2 := by
  have h_ulp : (0 : ℚ) < 2 ^ ulpExponent x := zpow_pos two_pos _
  have h_error := abs_nearestEven_sub_le (x / 2 ^ ulpExponent x)
  have h_diff : nearest x - x =
      (nearestEven (x / 2 ^ ulpExponent x) - x / 2 ^ ulpExponent x) * 2 ^ ulpExponent x := by
    rw [sub_mul, div_mul_cancel₀ _ h_ulp.ne']
    rfl
  calc |nearest x - x|
      = |(nearestEven (x / 2 ^ ulpExponent x) : ℚ) - x / 2 ^ ulpExponent x|
          * 2 ^ ulpExponent x := by rw [h_diff, abs_mul, abs_of_pos h_ulp]
    _ ≤ 1 / 2 * 2 ^ ulpExponent x := mul_le_mul_of_nonneg_right h_error h_ulp.le
    _ = 2 ^ ulpExponent x / 2 := by ring

/-- A number more than half a unit below another one stays below it. -/
theorem nearest_lt {x y : ℚ} {e : ℤ} (h_e : ulpExponent x ≤ e) (h : x < y - 2 ^ e / 2) :
    nearest x < y := by
  have h_error := (abs_le.mp (abs_nearest_sub_le x)).2
  have h_ulp : (2 : ℚ) ^ ulpExponent x ≤ 2 ^ e := zpow_le_zpow_right₀ one_le_two h_e
  linarith

/-- Half a unit below an even number of units, rounding goes up. -/
theorem le_nearest_of_even {x : ℚ} {m : ℤ} (h_even : m % 2 = 0)
    (h : ((m : ℚ) - 1 / 2) * 2 ^ ulpExponent x ≤ x) :
    (m : ℚ) * 2 ^ ulpExponent x ≤ nearest x := by
  have h_ulp : (0 : ℚ) < 2 ^ ulpExponent x := zpow_pos two_pos _
  refine mul_le_mul_of_nonneg_right ?_ h_ulp.le
  exact_mod_cast le_nearestEven_of_even h_even ((le_div_iff₀ h_ulp).mpr h)

/-- More than half a unit below a number of units, rounding stays below it. -/
theorem nearest_le_pred {x : ℚ} {m : ℤ} (h : x < ((m : ℚ) - 1 / 2) * 2 ^ ulpExponent x) :
    nearest x ≤ ((m : ℚ) - 1) * 2 ^ ulpExponent x := by
  have h_ulp : (0 : ℚ) < 2 ^ ulpExponent x := zpow_pos two_pos _
  refine mul_le_mul_of_nonneg_right ?_ h_ulp.le
  have h_error := (abs_le.mp (abs_nearestEven_sub_le (x / 2 ^ ulpExponent x))).2
  have h_lt : (nearestEven (x / 2 ^ ulpExponent x) : ℚ) < m := by
    have h_div := (div_lt_iff₀ h_ulp).mpr h
    linarith
  exact_mod_cast Int.le_sub_one_of_lt (by exact_mod_cast h_lt)

/-- Rounding keeps the sign. -/
theorem nearest_nonneg {x : ℚ} (h : 0 ≤ x) : 0 ≤ nearest x := by
  have h_le := le_nearest (x := x) (m := 0) (e := ulpExponent x) (le_refl _) (by simpa using h)
  simpa using h_le

/-! ### Shares of a whole -/

/-- Between a half and one, the last place is that of `2 ^ (-53)`. -/
theorem ulpExponent_share {x : ℚ} (h_half : 1 / 2 ≤ x) (h_lt : x < 1) : ulpExponent x = -53 := by
  have h_pos : 0 < x := one_half_pos.trans_le h_half
  refine le_antisymm (ulpExponent_le h_pos.ne' ?_ (by decide)) (le_ulpExponent ?_)
  · rw [abs_of_pos h_pos]
    exact h_lt
  · rw [abs_of_pos h_pos]
    norm_num at h_half ⊢
    exact h_half

/-- A share is rounded to one from half a unit below one on. -/
theorem nearest_eq_one {x : ℚ} (h_le : x ≤ 1) (h : 1 - 1 / 2 ^ 54 ≤ x) : nearest x = 1 := by
  rcases h_le.eq_or_lt with rfl | h_lt
  · decide +kernel
  have h_unit := ulpExponent_share (le_trans (by norm_num) h) h_lt
  -- one is an even number of units
  have h_up := le_nearest_of_even (x := x) (m := 2 ^ 53) (by decide) (by
    rw [h_unit]
    norm_num at h ⊢
    linarith)
  have h_down : nearest x ≤ (1 : ℤ) * 2 ^ (0 : ℤ) :=
    nearest_le (h_unit.le.trans (by decide)) (by norm_num; exact h_lt.le)
  rw [h_unit] at h_up
  norm_num at h_up h_down
  exact h_down.antisymm h_up

/-- Below, it is rounded to the number before one at most. -/
theorem nearest_le_pred_one {x : ℚ} (h_nonneg : 0 ≤ x) (h : x < 1 - 1 / 2 ^ 54) :
    nearest x ≤ 1 - 1 / 2 ^ 53 := by
  rcases h_nonneg.eq_or_lt with rfl | h_pos
  · decide +kernel
  by_cases h_half : 1 / 2 ≤ x
  · have h_unit := ulpExponent_share h_half (h.trans (by norm_num))
    have h_le := nearest_le_pred (x := x) (m := 2 ^ 53) (by
      rw [h_unit]
      norm_num at h ⊢
      linarith)
    rw [h_unit] at h_le
    norm_num at h_le ⊢
    exact h_le
  · rw [not_le] at h_half
    have h_exp : ulpExponent x ≤ -1 := by
      refine ulpExponent_le h_pos.ne' ?_ (by decide)
      rw [abs_of_pos h_pos]
      exact h_half.trans (by norm_num)
    have h_le : nearest x ≤ (1 : ℤ) * 2 ^ (-1 : ℤ) :=
      nearest_le h_exp (by norm_num at h_half ⊢; exact h_half.le)
    refine h_le.trans ?_
    norm_num

/-! ### Sums -/

/-- The additions of a summation: the sum so far, and the compensation for what the additions
have lost. -/
def addCompensated (state : ℚ × ℚ) (x : ℚ) : ℚ × ℚ :=
  let t := nearest (state.1 + x)
  let lost :=
    if |x| ≤ |state.1| then nearest (nearest (state.1 - t) + x)
    else nearest (nearest (x - t) + state.1)
  (t, nearest (state.2 + lost))

/-- The sum of a list. -/
def sum : List ℚ → ℚ
  | [] => 0
  | x :: xs =>
    let state := xs.foldl addCompensated (x, 0)
    if state.2 = 0 then state.1 else nearest (state.1 + state.2)

end Binary64

/-- The operations of binary64 numbers. A quotient of integers is rounded once. -/
def Arithmetic.binary64 : Arithmetic ℚ where
  sum := Binary64.sum
  mul x y := Binary64.nearest (x * y)
  div x y := Binary64.nearest (x / y)
  ratio m n := Binary64.nearest (m / n)

end Framework
