import Mathlib.Algebra.Order.Field.Rat
import Mathlib.Algebra.Order.Group.MinMax
import Mathlib.Data.Int.Log
import Mathlib.Data.Rat.Floor
import Mathlib.Tactic.FieldSimp
import Mathlib.Tactic.Linarith

set_option autoImplicit false

namespace PlanarLP

def nearestEven (x : Rat) : Int :=
  if x - ⌊x⌋ < 1 / 2 then ⌊x⌋ else if 1 / 2 < x - ⌊x⌋ then ⌊x⌋ + 1 else ⌊x⌋ + ⌊x⌋ % 2

theorem nearest_even_near (x : Rat) : |(nearestEven x : Rat) - x| ≤ 1 / 2 := by
  have below := Int.floor_le x
  have above := Int.lt_floor_add_one x
  have parity : ((⌊x⌋ % 2 : Int) : Rat) = 0 ∨ ((⌊x⌋ % 2 : Int) : Rat) = 1 := by
    exact_mod_cast Int.emod_two_eq ⌊x⌋
  unfold nearestEven
  rw [abs_le]
  split_ifs <;> push_cast <;> constructor <;> rcases parity with zero | one <;> linarith

theorem nearest_even_tie (x : Rat) (tie : |(nearestEven x : Rat) - x| = 1 / 2) : nearestEven x % 2 = 0 := by
  have below := Int.floor_le x
  have above := Int.lt_floor_add_one x
  unfold nearestEven at tie ⊢
  split_ifs at tie ⊢ with low high
  · rw [abs_sub_comm, abs_of_nonneg (by linarith)] at tie
    linarith
  · push_cast at tie
    rw [abs_of_nonneg (by linarith)] at tie
    linarith
  · omega

-- Two integers at most a half away from the same number are neighbours, and only one of them
-- is even.
theorem nearest_even_unique (x : Rat) (n : Int) (near : |(n : Rat) - x| ≤ 1 / 2)
    (even : |(n : Rat) - x| = 1 / 2 → n % 2 = 0) : nearestEven x = n := by
  have close := nearest_even_near x
  have tie := nearest_even_tie x
  rw [abs_le] at near close
  rcases lt_trichotomy (nearestEven x) n with less | same | more
  · have step : (nearestEven x : Rat) + 1 ≤ n := by exact_mod_cast less
    have left : (nearestEven x : Rat) - x = -(1 / 2) := by linarith
    have right : (n : Rat) - x = 1 / 2 := by linarith
    have next : n = nearestEven x + 1 := by
      have cast : (n : Rat) = nearestEven x + 1 := by linarith
      exact_mod_cast cast
    have first := tie (by rw [left]; norm_num)
    have second := even (by rw [right]; norm_num)
    omega
  · exact same
  · have step : (n : Rat) + 1 ≤ nearestEven x := by exact_mod_cast more
    have left : (n : Rat) - x = -(1 / 2) := by linarith
    have right : (nearestEven x : Rat) - x = 1 / 2 := by linarith
    have next : nearestEven x = n + 1 := by
      have cast : (nearestEven x : Rat) = n + 1 := by linarith
      exact_mod_cast cast
    have first := tie (by rw [right]; norm_num)
    have second := even (by rw [left]; norm_num)
    omega

theorem nearest_even_integer (n : Int) : nearestEven n = n :=
  nearest_even_unique n n (by simp) (by simp)

theorem nearest_even_neg (x : Rat) : nearestEven (-x) = -nearestEven x := by
  have mirrored : |((-nearestEven x : Int) : Rat) - -x| = |(nearestEven x : Rat) - x| := by
    push_cast
    rw [neg_sub_neg, abs_sub_comm]
  apply nearest_even_unique
  · rw [mirrored]
    exact nearest_even_near x
  · rw [mirrored]
    intro tie
    have even := nearest_even_tie x tie
    omega

theorem nearest_even_mono (x y : Rat) (order : x ≤ y) : nearestEven x ≤ nearestEven y := by
  rcases order.eq_or_lt with same | less
  · rw [same]
  · by_contra crossed
    have gap : (nearestEven y : Rat) + 1 ≤ nearestEven x := by exact_mod_cast not_le.mp crossed
    have left := abs_le.mp (nearest_even_near x)
    have right := abs_le.mp (nearest_even_near y)
    linarith

theorem nearest_even_le (x : Rat) (n : Int) (order : x ≤ n) : nearestEven x ≤ n :=
  (nearest_even_mono x n order).trans_eq (nearest_even_integer n)

theorem le_nearest_even (x : Rat) (n : Int) (order : n ≤ x) : n ≤ nearestEven x :=
  (nearest_even_integer n).symm.trans_le (nearest_even_mono n x order)

def gridExponent (q : Rat) : Int := max (Int.log 2 |q| - 52) (-1074)

def onGrid (q : Rat) : Rat := nearestEven (q / 2 ^ gridExponent q) * 2 ^ gridExponent q

theorem grid_exponent_neg (q : Rat) : gridExponent (-q) = gridExponent q := by
  rw [gridExponent, abs_neg, gridExponent]

theorem on_grid_neg (q : Rat) : onGrid (-q) = -onGrid q := by
  rw [onGrid, grid_exponent_neg, neg_div, nearest_even_neg, onGrid]
  push_cast
  ring

theorem on_grid_near (q : Rat) : |onGrid q - q| ≤ 2 ^ gridExponent q / 2 := by
  have scaled : onGrid q - q =
      ((nearestEven (q / 2 ^ gridExponent q) : Rat) - q / 2 ^ gridExponent q) * 2 ^ gridExponent q := by
    rw [sub_mul, div_mul_cancel₀ _ (zpow_ne_zero _ two_ne_zero), onGrid]
  rw [scaled, abs_mul, abs_of_pos (zpow_pos (zero_lt_two' Rat) _)]
  have near := nearest_even_near (q / 2 ^ gridExponent q)
  have half := mul_le_mul_of_nonneg_right near (zpow_nonneg zero_le_two (gridExponent q))
  linarith

theorem finer_multiple (n g e : Int) (coarse : g ≤ e) :
    ((n * 2 ^ (e - g).toNat : Int) : Rat) * 2 ^ g = n * 2 ^ e := by
  obtain ⟨k, gap⟩ := Int.eq_ofNat_of_zero_le (sub_nonneg.mpr coarse)
  have split : e = k + g := by omega
  rw [split, zpow_add₀ two_ne_zero, add_sub_cancel_right, Int.toNat_natCast, zpow_natCast]
  push_cast
  ring

theorem on_grid_below (q : Rat) (n e : Int) (coarse : gridExponent q ≤ e) (order : q ≤ n * 2 ^ e) :
    onGrid q ≤ n * 2 ^ e := by
  rw [← finer_multiple n _ e coarse] at order ⊢
  have scaled := nearest_even_le _ _ ((div_le_iff₀ (zpow_pos two_pos _)).mpr order)
  exact mul_le_mul_of_nonneg_right (by exact_mod_cast scaled) (zpow_nonneg zero_le_two _)

theorem on_grid_above (q : Rat) (n e : Int) (coarse : gridExponent q ≤ e) (order : n * 2 ^ e ≤ q) :
    n * 2 ^ e ≤ onGrid q := by
  rw [← finer_multiple n _ e coarse] at order ⊢
  have scaled := le_nearest_even _ _ ((le_div_iff₀ (zpow_pos two_pos _)).mpr order)
  exact mul_le_mul_of_nonneg_right (by exact_mod_cast scaled) (zpow_nonneg zero_le_two _)

theorem grid_exponent_le (q : Rat) (e : Int) (nonzero : q ≠ 0) (small : |q| < 2 ^ (e + 53)) (low : -1074 ≤ e) :
    gridExponent q ≤ e := by
  have log : Int.log 2 |q| < e + 53 :=
    (Int.lt_zpow_iff_log_lt (by norm_num) (abs_pos.mpr nonzero)).mp (by exact_mod_cast small)
  exact max_le (by omega) low

theorem on_grid_fixed (n e : Int) (bits : |n| < 2 ^ 53) (low : -1074 ≤ e) : onGrid (n * 2 ^ e) = n * 2 ^ e := by
  by_cases zero : n = 0
  · simp [zero, onGrid, nearestEven]
  · have nonzero : (n : Rat) * 2 ^ e ≠ 0 := mul_ne_zero (by exact_mod_cast zero) (zpow_ne_zero e two_ne_zero)
    have coarse : gridExponent (n * 2 ^ e) ≤ e := by
      refine grid_exponent_le _ e nonzero ?_ low
      have short : |(n : Rat)| < 2 ^ (53 : Int) := by exact_mod_cast bits
      rw [abs_mul, abs_of_pos (zpow_pos (zero_lt_two' Rat) e), add_comm, zpow_add₀ two_ne_zero]
      exact mul_lt_mul_of_pos_right short (zpow_pos two_pos e)
    exact le_antisymm (on_grid_below _ n e coarse le_rfl) (on_grid_above _ n e coarse le_rfl)

theorem on_grid_zero : onGrid 0 = 0 := by
  simpa using on_grid_fixed 0 0 (by norm_num) (by norm_num)

theorem grid_exponent_mono (p q : Rat) (positive : 0 < p) (order : p ≤ q) : gridExponent p ≤ gridExponent q := by
  have log := Int.log_mono_right (b := 2) positive order
  rw [gridExponent, gridExponent, abs_of_pos positive, abs_of_pos (positive.trans_le order)]
  omega

theorem on_grid_nonnegative (q : Rat) (nonnegative : 0 ≤ q) : 0 ≤ onGrid q := by
  simpa using on_grid_above q 0 (gridExponent q) le_rfl (by simpa using nonnegative)

-- With different spacings a power of two lies between the two numbers, and rounding crosses it on neither side.
theorem on_grid_order (p q : Rat) (positive : 0 < p) (order : p ≤ q) : onGrid p ≤ onGrid q := by
  rcases (grid_exponent_mono p q positive order).eq_or_lt with same | finer
  · rw [onGrid, onGrid, same]
    refine mul_le_mul_of_nonneg_right ?_ (zpow_nonneg zero_le_two _)
    exact_mod_cast nearest_even_mono _ _ (div_le_div_of_nonneg_right order (zpow_nonneg zero_le_two _))
  · have reached : 0 < q := positive.trans_le order
    have top : gridExponent q = Int.log 2 q - 52 := by
      simp only [gridExponent, abs_of_pos positive, abs_of_pos reached] at finer ⊢
      omega
    have apart : Int.log 2 p + 1 ≤ Int.log 2 q := by
      simp only [gridExponent, abs_of_pos positive, abs_of_pos reached] at finer
      omega
    have below : p ≤ 2 ^ Int.log 2 q :=
      (Int.lt_zpow_succ_log_self (by norm_num) p).le.trans (zpow_le_zpow_right₀ one_le_two apart)
    have above : 2 ^ Int.log 2 q ≤ q := Int.zpow_log_le_self (by norm_num) reached
    calc onGrid p
        ≤ (1 : Int) * 2 ^ Int.log 2 q := on_grid_below p 1 _ (by omega) (by simpa using below)
      _ ≤ onGrid q := on_grid_above q 1 _ (by omega) (by simpa using above)

theorem on_grid_mono (p q : Rat) (order : p ≤ q) : onGrid p ≤ onGrid q := by
  rcases lt_trichotomy 0 p with positive | zero | negative
  · exact on_grid_order p q positive order
  · subst zero
    rw [on_grid_zero]
    exact on_grid_nonnegative q order
  · rcases lt_or_ge q 0 with both | crosses
    · have mirrored := on_grid_order (-q) (-p) (neg_pos.mpr both) (neg_le_neg order)
      rw [on_grid_neg, on_grid_neg] at mirrored
      exact neg_le_neg_iff.mp mirrored
    · have left := on_grid_nonnegative (-p) (neg_nonneg.mpr negative.le)
      rw [on_grid_neg] at left
      linarith [on_grid_nonnegative q crosses]

def relativeHalf : Rat := 2 ^ (-53 : Int)

def fineHalf : Rat := 2 ^ (-1075 : Int)

def coarseHalf : Rat := 2 ^ (970 : Int)

theorem relative_half_positive : 0 < relativeHalf := zpow_pos two_pos (-53)

theorem fine_half_positive : 0 < fineHalf := zpow_pos two_pos (-1075)

theorem coarse_half_positive : 0 < coarseHalf := zpow_pos two_pos 970

theorem fine_less_coarse : 2 ^ (64 : Int) * fineHalf < coarseHalf :=
  (zpow_add₀ two_ne_zero 64 (-1075)).symm.trans_lt (zpow_lt_zpow_right₀ one_lt_two (by norm_num))

theorem on_grid_error (q : Rat) : |onGrid q - q| ≤ |q| * relativeHalf + fineHalf := by
  have relative : 0 ≤ |q| * relativeHalf := mul_nonneg (abs_nonneg q) relative_half_positive.le
  have absolute := fine_half_positive
  by_cases zero : q = 0
  · rw [zero, on_grid_zero, sub_zero, abs_zero, zero_mul, zero_add]
    exact absolute.le
  · have half : (2 : Rat) ^ gridExponent q / 2 = 2 ^ (gridExponent q - 1) := by
      rw [div_eq_iff (by norm_num), zpow_sub_one₀ (by norm_num), inv_mul_cancel_right₀ (by norm_num)]
    have near := on_grid_near q
    rw [half] at near
    refine near.trans ?_
    rcases le_total (Int.log 2 |q| - 52) (-1074) with subnormal | normal
    · have least : (-1074 : Int) - 1 = -1075 := rfl
      rw [gridExponent, max_eq_right subnormal, least]
      exact le_add_of_nonneg_left relative
    · have magnitude : (2 : Rat) ^ Int.log 2 |q| ≤ |q| := Int.zpow_log_le_self (by norm_num) (abs_pos.mpr zero)
      have split : Int.log 2 |q| - 52 - 1 = Int.log 2 |q| + -53 := by ring
      rw [gridExponent, max_eq_left normal, split, zpow_add₀ two_ne_zero]
      have scaled : 2 ^ Int.log 2 |q| * relativeHalf ≤ |q| * relativeHalf :=
        mul_le_mul_of_nonneg_right magnitude relative_half_positive.le
      exact scaled.trans (le_add_of_nonneg_right absolute.le)

-- Where the infinities stand: one step beyond the largest finite double.
def beyond : Rat := 2 ^ (1024 : Int)

theorem beyond_positive : 0 < beyond := zpow_pos two_pos 1024

theorem coarse_unit : (2 : Rat) ^ (971 : Int) = 2 * coarseHalf := (zpow_add₀ two_ne_zero 970 1).trans (mul_comm _ _)

theorem beyond_units : beyond = 2 ^ 54 * coarseHalf := zpow_add₀ two_ne_zero 54 970

theorem beyond_relative : beyond * relativeHalf = 2 * coarseHalf :=
  (zpow_add₀ two_ne_zero 1024 (-53)).symm.trans coarse_unit

def rounded (q : Rat) : Rat := max (-beyond) (min beyond (onGrid q))

theorem rounded_mono (p q : Rat) (order : p ≤ q) : rounded p ≤ rounded q :=
  max_le_max le_rfl (min_le_min le_rfl (on_grid_mono p q order))

theorem rounded_zero : rounded 0 = 0 := by
  have positive := beyond_positive
  rw [rounded, on_grid_zero, min_eq_right positive.le, max_eq_right (by linarith)]

theorem rounded_neg (q : Rat) : rounded (-q) = -rounded q := by
  have order : -beyond ≤ beyond := by linarith [beyond_positive]
  rw [rounded, rounded, on_grid_neg, max_min_distrib_left, max_eq_right order, max_neg_neg, ← min_neg_neg, neg_neg]

theorem rounded_abs (q : Rat) : |rounded q| = rounded |q| := by
  rcases le_total 0 q with nonnegative | nonpositive
  · have low := rounded_mono 0 q nonnegative
    rw [rounded_zero] at low
    rw [abs_of_nonneg nonnegative, abs_of_nonneg low]
  · have high := rounded_mono q 0 nonpositive
    rw [rounded_zero] at high
    rw [abs_of_nonpos nonpositive, abs_of_nonpos high, rounded_neg]

theorem rounded_inside (q : Rat) (small : |onGrid q| < beyond) : rounded q = onGrid q := by
  obtain ⟨low, high⟩ := abs_lt.mp small
  rw [rounded, min_eq_right high.le, max_eq_right low.le]

theorem rounded_finite (q : Rat) (small : |q| < beyond - coarseHalf) : |rounded q| < beyond := by
  have inRange : |q| < 2 ^ (971 + 53 : Int) := small.trans_le (sub_le_self _ coarse_half_positive.le)
  suffices inside : |onGrid q| < beyond by rwa [rounded_inside q inside]
  by_cases zero : q = 0
  · rw [zero, on_grid_zero, abs_zero]
    exact beyond_positive
  · have spacing : (2 : Rat) ^ gridExponent q ≤ 2 ^ (971 : Int) :=
      zpow_le_zpow_right₀ one_le_two (grid_exponent_le q 971 zero inRange (by norm_num))
    rw [coarse_unit] at spacing
    have near := on_grid_near q
    have triangle := abs_sub_abs_le_abs_sub (onGrid q) q
    linarith

theorem rounded_between (p q r : Rat) (below : p ≤ q) (above : q ≤ r) (low : |rounded p| < beyond)
    (high : |rounded r| < beyond) : |rounded q| < beyond :=
  abs_lt.mpr ⟨(abs_lt.mp low).1.trans_le (rounded_mono p q below), (rounded_mono q r above).trans_lt (abs_lt.mp high).2⟩

theorem rounded_nonnegative (q : Rat) (nonnegative : 0 ≤ q) : 0 ≤ rounded q :=
  rounded_zero.symm.trans_le (rounded_mono 0 q nonnegative)

theorem rounded_upper (q : Rat) (nonnegative : 0 ≤ q) : rounded q ≤ q + (q * relativeHalf + fineHalf) := by
  have error := (abs_le.mp (on_grid_error q)).2
  have low := on_grid_nonnegative q nonnegative
  have capped : rounded q ≤ onGrid q := max_le (by linarith [beyond_positive]) (min_le_right _ _)
  rw [abs_of_nonneg nonnegative] at error
  linarith

theorem multiple_finite (n e : Int) (bits : |n| < 2 ^ 53) (high : e ≤ 971) : |(n : Rat) * 2 ^ e| < beyond := by
  have short : |(n : Rat)| < 2 ^ (53 : Int) := by exact_mod_cast bits
  rw [abs_mul, abs_of_pos (zpow_pos (zero_lt_two' Rat) e)]
  calc |(n : Rat)| * 2 ^ e
      < 2 ^ (53 : Int) * 2 ^ e := mul_lt_mul_of_pos_right short (zpow_pos two_pos e)
    _ = 2 ^ (53 + e) := (zpow_add₀ two_ne_zero 53 e).symm
    _ ≤ beyond := zpow_le_zpow_right₀ one_le_two (by omega)

theorem rounded_fixed (n e : Int) (bits : |n| < 2 ^ 53) (low : -1074 ≤ e) (high : e ≤ 971) :
    rounded (n * 2 ^ e) = n * 2 ^ e := by
  have fixed := on_grid_fixed n e bits low
  rw [rounded_inside, fixed]
  rw [fixed]
  exact multiple_finite n e bits high

theorem rounded_beyond : rounded beyond = beyond := by
  have fixed : onGrid beyond = beyond := by
    have point := on_grid_fixed 1 1024 (by norm_num) (by norm_num)
    rwa [Int.cast_one, one_mul] at point
  rw [rounded, fixed, min_self, max_eq_right (by linarith [beyond_positive])]

end PlanarLP
