import PlanarLP.Proofs.DecimalValue
import PlanarLP.Proofs.ShortestDigits

set_option autoImplicit false

namespace PlanarLP

section Hits

def Neighbourhood.Holds (n : Neighbourhood) (x : Nat) : Prop :=
  x ≤ n.value ∧ n.within (n.value - x) n.below = true ∨ n.value ≤ x ∧ n.within (x - n.value) n.above = true

variable (n : Neighbourhood) (tie : Tie)

theorem multiple_holds (step digits : Nat) (positive : 0 < step) (hit : n.multiple? tie step = some digits) :
    n.Holds (digits * step) := by
  have parts := Nat.div_add_mod n.value step
  have rest := Nat.mod_lt n.value positive
  rw [Nat.mul_comm] at parts
  rcases multiple_cases n tie step digits hit with ⟨near, rfl⟩ | ⟨near, rfl⟩
  · have down : n.value - n.value / step * step = n.value % step := by omega
    exact .inl ⟨by omega, by rwa [down]⟩
  · have up : (n.value / step + 1) * step - n.value = step - n.value % step := by
      rw [Nat.add_mul]
      omega
    exact .inr ⟨by rw [Nat.add_mul]; omega, by rwa [up]⟩

theorem multiple_found (step : Nat) (positive : 0 < step) (narrow : step < n.below + n.above) :
    ∃ digits, n.multiple? tie step = some digits := by
  have rest := Nat.mod_lt n.value positive
  have near : n.within (n.value % step) n.below = true ∨ n.within (step - n.value % step) n.above = true := by
    unfold Neighbourhood.within
    simp only [Bool.or_eq_true, decide_eq_true_eq]
    omega
  unfold Neighbourhood.multiple?
  dsimp only
  split
  · exact ⟨_, rfl⟩
  · exact ⟨_, rfl⟩
  · rename_i down up
    exact absurd near (by simp [down, up])
  · split_ifs <;> exact ⟨_, rfl⟩

theorem search_holds (positive : 0 < n.unit) (narrow : n.unit < n.below + n.above) (level : Nat) :
    ∃ k : Nat, (n.search tie level).exponent = n.finest + k ∧
      n.Holds ((n.search tie level).digits * (n.unit * 10 ^ k)) := by
  induction level with
  | zero =>
      obtain ⟨digits, hit⟩ := multiple_found n tie n.unit positive narrow
      refine ⟨0, (add_zero _).symm, ?_⟩
      unfold Neighbourhood.search
      rw [hit, pow_zero, mul_one]
      exact multiple_holds n tie n.unit digits positive hit
  | succ level ih =>
      unfold Neighbourhood.search
      split
      · rename_i digits hit
        exact ⟨level + 1, rfl, multiple_holds n tie _ digits (Nat.mul_pos positive (Nat.pow_pos (by decide))) hit⟩
      · exact ih

end Hits

section Rounding

theorem grid_exponent_between (q : Rat) (e : Int) (positive : 0 < q) (low : 2 ^ (e + 52) ≤ q ∨ e = -1074)
    (high : q < 2 ^ (e + 53)) (least : -1074 ≤ e) : gridExponent q = e := by
  refine le_antisymm (grid_exponent_le q e positive.ne' (by rwa [abs_of_pos positive]) least) ?_
  rcases low with full | rfl
  · have log : e + 52 ≤ Int.log 2 q := (Int.zpow_le_iff_le_log (by norm_num) positive).mp full
    rw [gridExponent, abs_of_pos positive]
    omega
  · exact le_max_right _ _

theorem on_grid_nearest (q : Rat) (n e : Int) (exponent : gridExponent q = e) (near : |n * 2 ^ e - q| ≤ 2 ^ e / 2)
    (even : |n * 2 ^ e - q| = 2 ^ e / 2 → n % 2 = 0) : onGrid q = n * 2 ^ e := by
  have scaled : |(n : Rat) - q / 2 ^ e| = |n * 2 ^ e - q| / 2 ^ e := by
    rw [← abs_of_pos (zpow_pos (zero_lt_two' Rat) e), ← abs_div, abs_of_pos (zpow_pos (zero_lt_two' Rat) e), sub_div,
      mul_div_cancel_right₀ _ (zpow_ne_zero e two_ne_zero)]
  rw [onGrid, exponent, nearest_even_unique (q / 2 ^ e) n]
  · rw [scaled, div_le_iff₀ (zpow_pos two_pos e)]
    linarith
  · rw [scaled, div_eq_iff (zpow_ne_zero e two_ne_zero)]
    exact fun tie => even (by linarith)

end Rounding

section Interval

variable (m : Nat) (e : Int) (q : Rat)

def Reaches (distance reach : Rat) : Prop := distance < reach ∨ m % 2 = 0 ∧ distance = reach

-- The numbers around a double that are rounded to it; just below a power of two doubles lie twice as dense.
def Surrounds : Prop :=
  q ≤ m * 2 ^ e ∧
      Reaches m (m * 2 ^ e - q) ((if m = Binary64.leadingBit ∧ -1074 < e then 1 else 2) * 2 ^ (e - 2)) ∨
    m * 2 ^ e ≤ q ∧ Reaches m (q - m * 2 ^ e) (2 * 2 ^ (e - 2))

theorem within_scaled (a b : Nat) (distance reach : Rat) (first : (a : Rat) = distance * Neighbourhood.scale m e)
    (second : (b : Rat) = reach * Neighbourhood.scale m e)
    (near : (Neighbourhood.ofDouble m e).within a b = true) : Reaches m distance reach := by
  have unit := scale_positive m e
  unfold Neighbourhood.within at near
  rcases Bool.or_eq_true_iff.mp near with less | same
  · have cast : (a : Rat) < b := by exact_mod_cast of_decide_eq_true less
    rw [first, second] at cast
    exact .inl ((mul_lt_mul_iff_of_pos_right unit).mp cast)
  · obtain ⟨even, equal⟩ := Bool.and_eq_true_iff.mp same
    have cast : (a : Rat) = b := by exact_mod_cast beq_iff_eq.mp equal
    rw [first, second] at cast
    exact .inr ⟨beq_iff_eq.mp even, mul_right_cancel₀ unit.ne' cast⟩

theorem holds_surrounds (x : Nat) (scaled : (x : Rat) = q * Neighbourhood.scale m e)
    (holds : (Neighbourhood.ofDouble m e).Holds x) : Surrounds m e q := by
  have unit := scale_positive m e
  have value := neighbourhood_value m e
  rcases holds with ⟨order, near⟩ | ⟨order, near⟩
  · have cast : (x : Rat) ≤ (Neighbourhood.ofDouble m e).value := by exact_mod_cast order
    rw [scaled, value] at cast
    refine .inl ⟨(mul_le_mul_iff_of_pos_right unit).mp cast, within_scaled m e _ _ _ _ ?_ ?_ near⟩
    · rw [Nat.cast_sub order, value, scaled, sub_mul]
    · rw [neighbourhood_below, mul_assoc]
  · have cast : ((Neighbourhood.ofDouble m e).value : Rat) ≤ x := by exact_mod_cast order
    rw [scaled, value] at cast
    refine .inr ⟨(mul_le_mul_iff_of_pos_right unit).mp cast, within_scaled m e _ _ _ _ ?_ ?_ near⟩
    · rw [Nat.cast_sub order, value, scaled, sub_mul]
    · rw [neighbourhood_above, mul_assoc]

theorem half_spacing : (2 : Rat) * 2 ^ (e - 2) = 2 ^ e / 2 := by
  have quarters := quarters_whole e
  linarith

theorem reached_nearest (exponent : gridExponent q = e) (distance : Rat) (size : |(m : Rat) * 2 ^ e - q| = distance)
    (near : Reaches m distance (2 ^ e / 2)) : onGrid q = m * 2 ^ e := by
  have rounds := on_grid_nearest q m e exponent
  rw [Int.cast_natCast, size] at rounds
  rcases near with less | ⟨even, same⟩
  · exact rounds less.le fun tie => absurd tie less.ne
  · exact rounds same.le fun _ => by exact_mod_cast even

-- Below a power of two the grid is twice as fine, and the power is an even multiple of its spacing.
theorem narrow_rounded (fine : -1074 < e) (order : q < 2 ^ (52 : Int) * 2 ^ e)
    (near : 2 ^ (52 : Int) * 2 ^ e - q ≤ 2 ^ (e - 2)) : onGrid q = 2 ^ (52 : Int) * 2 ^ e := by
  have half : (2 : Rat) ^ (e - 1) / 2 = 2 ^ (e - 2) := by
    have quarters := quarters_whole e
    have halves : (2 : Rat) ^ (e - 1) * 2 = 2 ^ e := by
      rw [zpow_sub_one₀ two_ne_zero, inv_mul_cancel_right₀ two_ne_zero]
    linarith
  have double : (2 : Rat) ^ (53 : Int) * 2 ^ (e - 1) = 2 ^ (52 : Int) * 2 ^ e := by
    rw [← zpow_add₀ two_ne_zero, ← zpow_add₀ two_ne_zero]
    congr 1
    omega
  have lower : 2 ^ (52 : Int) * 2 ^ (e - 1) ≤ q := by
    have split : (2 : Rat) ^ (53 : Int) = 2 ^ (52 : Int) * 2 := zpow_add₀ two_ne_zero 52 1
    have unit := zpow_pos (zero_lt_two' Rat) (e - 1)
    have long : (1 : Rat) ≤ 2 ^ (52 : Int) := by norm_num
    have scaled := mul_le_mul_of_nonneg_right long unit.le
    rw [split] at double
    linarith
  have exponent : gridExponent q = e - 1 := by
    refine grid_exponent_between q (e - 1) ?_ (.inl ?_) ?_ (by omega)
    · exact (mul_pos (zpow_pos two_pos _) (zpow_pos two_pos _)).trans_le lower
    · rwa [add_comm, zpow_add₀ two_ne_zero]
    · rwa [add_comm, zpow_add₀ two_ne_zero, double]
  have rounds := on_grid_nearest q (2 ^ 53) (e - 1) exponent
  have cast : ((2 ^ 53 : Int) : Rat) = 2 ^ (53 : Int) := by norm_num
  rw [cast, double, half, abs_of_nonneg (sub_nonneg.mpr order.le)] at rounds
  exact rounds near fun _ => by decide

variable {m e q} (positive : 0 < m) (bits : m < 2 ^ 53) (low : -1074 ≤ e) (full : 2 ^ 52 ≤ m ∨ e = -1074)

theorem surrounding_bounds (surrounds : Surrounds m e q) : m * 2 ^ e - 2 ^ e / 2 ≤ q ∧ q ≤ m * 2 ^ e + 2 ^ e / 2 := by
  have half := half_spacing e
  have quarter := zpow_pos (zero_lt_two' Rat) (e - 2)
  rcases surrounds with ⟨order, near⟩ | ⟨order, near⟩
  · have reach : m * 2 ^ e - q ≤ 2 * 2 ^ (e - 2) := by
      have factor : (if m = Binary64.leadingBit ∧ -1074 < e then 1 else 2 : Rat) ≤ 2 := by split <;> norm_num
      have scaled := mul_le_mul_of_nonneg_right factor quarter.le
      exact (near.elim le_of_lt fun same => same.2.le).trans scaled
    constructor <;> linarith
  · have reach : q - m * 2 ^ e ≤ 2 * 2 ^ (e - 2) := near.elim le_of_lt fun same => same.2.le
    constructor <;> linarith

include positive bits low full

theorem surrounding_exponent (surrounds : Surrounds m e q)
    (inner : m * 2 ^ e ≤ q ∨ ¬ (m = Binary64.leadingBit ∧ -1074 < e)) : gridExponent q = e := by
  obtain ⟨least, most⟩ := surrounding_bounds surrounds
  have unit := zpow_pos (zero_lt_two' Rat) e
  have one : (1 : Rat) ≤ m := by exact_mod_cast positive
  have wide : (m : Rat) + 1 ≤ 2 ^ (53 : Int) := by exact_mod_cast bits
  have whole := mul_le_mul_of_nonneg_right one unit.le
  have carry := mul_le_mul_of_nonneg_right wide unit.le
  refine grid_exponent_between q e (by linarith) ?_ ?_ low
  · refine or_iff_not_imp_right.mpr fun other => ?_
    have long : 2 ^ 52 ≤ m := full.resolve_right other
    rw [add_comm, zpow_add₀ two_ne_zero]
    rcases inner with above | wide
    · have cast : (2 : Rat) ^ (52 : Int) ≤ m := by exact_mod_cast long
      exact (mul_le_mul_of_nonneg_right cast unit.le).trans above
    · have more : 2 ^ 52 < m := lt_of_le_of_ne long fun same => wide ⟨same.symm, by omega⟩
      have cast : (2 : Rat) ^ (52 : Int) + 1 ≤ m := by exact_mod_cast more
      have scaled := mul_le_mul_of_nonneg_right cast unit.le
      linarith
  · rw [add_comm, zpow_add₀ two_ne_zero]
    linarith

theorem surrounding_rounded (surrounds : Surrounds m e q) : onGrid q = m * 2 ^ e := by
  have exponent := surrounding_exponent positive bits low full surrounds
  have half := half_spacing e
  rcases surrounds with ⟨order, near⟩ | ⟨order, near⟩
  · have size : |(m : Rat) * 2 ^ e - q| = m * 2 ^ e - q := abs_of_nonneg (sub_nonneg.mpr order)
    by_cases narrow : m = Binary64.leadingBit ∧ -1074 < e
    · rw [if_pos narrow, one_mul] at near
      obtain ⟨rfl, fine⟩ := narrow
      rcases order.eq_or_lt with same | less
      · rw [same]
        exact on_grid_fixed _ e (by decide) low
      · exact narrow_rounded e q fine less (near.elim le_of_lt fun same => same.2.le)
    · rw [if_neg narrow, half] at near
      exact reached_nearest m e q (exponent (.inr narrow)) _ size near
  · have size : |(m : Rat) * 2 ^ e - q| = q - m * 2 ^ e := by
      rw [abs_sub_comm, abs_of_nonneg (sub_nonneg.mpr order)]
    rw [half] at near
    exact reached_nearest m e q (exponent (.inl order)) _ size near

end Interval

theorem shortest_surrounds (tie : Tie) (m : Nat) (e : Int) (positive : 0 < m) (bits : m < 2 ^ 53) (low : -1074 ≤ e)
    (high : e ≤ 971) : Surrounds m e (Decimal.shortest tie m e).value := by
  have unit : 0 < (Neighbourhood.ofDouble m e).unit := Nat.mul_pos (Nat.pow_pos (by decide)) (Nat.pow_pos (by decide))
  have narrow : (Neighbourhood.ofDouble m e).unit <
      (Neighbourhood.ofDouble m e).below + (Neighbourhood.ofDouble m e).above := by
    have fine := unit_fine m e positive bits low high
    have quarter : 0 < 2 ^ (e - 2) * Neighbourhood.scale m e := mul_pos (zpow_pos two_pos _) (scale_positive m e)
    have below : (0 : Rat) ≤ (Neighbourhood.ofDouble m e).below := Nat.cast_nonneg _
    have above := neighbourhood_above m e
    have cast : ((Neighbourhood.ofDouble m e).unit : Rat) <
        (Neighbourhood.ofDouble m e).below + (Neighbourhood.ofDouble m e).above := by linarith
    exact_mod_cast cast
  obtain ⟨k, exponent, holds⟩ := search_holds (Neighbourhood.ofDouble m e) tie unit narrow 18
  have shown : Decimal.shortest tie m e = (Neighbourhood.ofDouble m e).search tie 18 := if_neg positive.ne'
  rw [shown]
  refine holds_surrounds m e _ _ ?_ holds
  rw [Decimal.value, exponent, zpow_add₀ (by norm_num), zpow_natCast]
  push_cast
  rw [neighbourhood_unit]
  ring

-- The search hits on its finest power at the latest, a hit lies in the interval around the
-- double, and every number there is rounded to the double.
theorem shortest_rounded (tie : Tie) (m : Nat) (e : Int) (bits : m < 2 ^ 53) (low : -1074 ≤ e) (high : e ≤ 971)
    (full : 2 ^ 52 ≤ m ∨ e = -1074) : rounded (Decimal.shortest tie m e).value = m * 2 ^ e := by
  rcases m.eq_zero_or_pos with rfl | positive
  · have zero : (Decimal.shortest tie 0 e).value = 0 := by simp [Decimal.shortest, Decimal.value]
    rw [zero, rounded_zero, Nat.cast_zero, zero_mul]
  · have surrounds := shortest_surrounds tie m e positive bits low high
    have reads := surrounding_rounded positive bits low full surrounds
    rw [rounded_inside, reads]
    rw [reads]
    exact multiple_finite m e (by exact_mod_cast bits) high

end PlanarLP
