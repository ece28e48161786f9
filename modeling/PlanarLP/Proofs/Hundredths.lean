import PlanarLP.Proofs.DoubleParts
import PlanarLP.Proofs.PointEquality

set_option autoImplicit false

namespace PlanarLP

open Float.Model (UnpackedFloat Format)

theorem double_value_within (x : Float) : |doubleValue x| ≤ beyond := value_within _ (unpack_normal _)

section Infinite

variable (x : Float) (number : x.isNaN = false)

include number

theorem infinite_value (unbounded : ¬ x.isFinite = true) : doubleValue x = beyond ∨ doubleValue x = -beyond := by
  have reached : beyond ≤ |doubleValue x| := not_lt.mp fun small => unbounded ((finite_iff x).mpr ⟨number, small⟩)
  exact (abs_eq beyond_positive.le).mp (le_antisymm (double_value_within x) reached)

theorem add_zero_alike : Alike (x + 0) x := by
  by_cases finite : x.isFinite = true
  · obtain ⟨sum, value⟩ := add_value x 0 finite rfl
    refine .inl (double_equal_value _ _ sum number (value.trans ?_))
    change rounded (doubleValue x + 0) = doubleValue x
    rw [add_zero]
    exact rounded_value x finite
  · rcases infinite_cases x number finite with rfl | rfl <;> decide +kernel

theorem hundredfold_number : (x * 100).isNaN = false := by
  by_cases finite : x.isFinite = true
  · exact (mul_value x 100 finite rfl).1
  · rcases infinite_cases x number finite with rfl | rfl <;> decide +kernel

end Infinite

theorem rounded_within (q : Rat) (small : |rounded q| < beyond) : rounded q = onGrid q := by
  obtain ⟨low, high⟩ := abs_lt.mp small
  unfold rounded at low high ⊢
  have capped : min beyond (onGrid q) = onGrid q :=
    min_eq_right (le_of_not_ge fun above => (le_max_of_le_right (le_min le_rfl above)).not_gt high)
  rw [capped] at low ⊢
  exact max_eq_right ((lt_max_iff.mp low).resolve_left (lt_irrefl _)).le

theorem hundred_value : doubleValue 100 = 100 := by
  have value := (of_nat_value 100 (by norm_num)).2
  exact_mod_cast value

theorem finite_hundredth (q : Rat) (finite : |q| < beyond) : |rounded (q / 100)| < beyond := by
  have unit := coarse_half_positive
  have units := beyond_units
  refine rounded_finite _ ?_
  rw [abs_div, abs_of_pos (by norm_num : (0 : Rat) < 100)]
  linarith

def IsHundredths (r : Float) : Prop :=
  r.isFinite = true ∧ (∃ n : Int, doubleValue r = onGrid (n / 100)) ∨ r = 1 / 0 ∨ r = -1 / 0

theorem rounded_hundredths (x : Float) (fits : (x * 100).isFinite = true) :
    (Report.rounded x).isFinite = true ∧ ∃ n : Int, doubleValue (Report.rounded x) = onGrid (n / 100) := by
  obtain ⟨whole, n, value⟩ := round_whole (x * 100) fits
  have divisor : doubleValue 100 ≠ 0 := by rw [hundred_value]; norm_num
  have read := div_value (Binary64.round (x * 100)) 100 whole rfl divisor
  rw [hundred_value] at read
  have small := finite_hundredth _ (finite_value _ whole)
  refine ⟨read_finite _ _ read small, n, ?_⟩
  rw [Report.rounded, read.2, rounded_within _ small, value]

theorem rounded_is_hundredths (x : Float) (number : x.isNaN = false) : IsHundredths (Report.rounded x) := by
  have scaled := hundredfold_number x number
  by_cases finite : (x * 100).isFinite = true
  · exact .inl (rounded_hundredths x finite)
  · unfold Report.rounded
    rw [round_unbounded _ finite]
    rcases infinite_cases _ scaled finite with same | same <;> rw [same]
    · exact .inr (.inl (by decide +kernel))
    · exact .inr (.inr (by decide +kernel))

section Shown

variable (x y : Float) (number : x.isNaN = false)

include number

theorem rounded_number : (Report.rounded x).isNaN = false := by
  rcases rounded_is_hundredths x number with ⟨finite, _⟩ | same | same
  · exact finite_number _ finite
  · rw [same]
    decide +kernel
  · rw [same]
    decide +kernel

theorem hundredths_shown : Alike (Scalar.hundredths x) (Report.rounded x) :=
  add_zero_alike _ (rounded_number x number)

theorem hundredths_number : (Scalar.hundredths x).isNaN = false :=
  (alike_value _ _ (hundredths_shown x number)).1.trans (rounded_number x number)

theorem hundredths_equal (other : y.isNaN = false) :
    (Scalar.hundredths x == Scalar.hundredths y) = (Report.rounded x == Report.rounded y) :=
  eq_alike (hundredths_shown x number) (hundredths_shown y other)

end Shown

theorem coincides_rounded (p q : Point Float) (numbers : p.x.isNaN = false ∧ p.y.isNaN = false)
    (same : p.rounded = q.rounded) : p.coincides q = true := by
  have xs := double_equal_value _ _ (hundredths_number _ numbers.1) (hundredths_number _ numbers.1) rfl
  have ys := double_equal_value _ _ (hundredths_number _ numbers.2) (hundredths_number _ numbers.2) rfl
  unfold Point.coincides
  rw [← same]
  exact Bool.and_eq_true_iff.mpr ⟨xs, ys⟩

section Spacing

theorem coarse_iff (q : Rat) (nonnegative : 0 ≤ q) : -6 ≤ gridExponent q ↔ 2 ^ (46 : Int) ≤ q := by
  rcases nonnegative.eq_or_lt with zero | positive
  · rw [← zero, gridExponent, abs_zero, Int.log_zero_right]
    norm_num
  · have log := Int.zpow_le_iff_le_log (b := 2) (x := 46) (by norm_num) positive
    rw [Nat.cast_ofNat] at log
    rw [log, gridExponent, abs_of_pos positive]
    omega

theorem coarse_multiple (q : Rat) (coarse : -6 ≤ gridExponent q) : ∃ k : Int, onGrid q = k / 64 := by
  refine ⟨nearestEven (q / 2 ^ gridExponent q) * 2 ^ (gridExponent q - -6).toNat, ?_⟩
  have multiple := finer_multiple (nearestEven (q / 2 ^ gridExponent q)) (-6) _ coarse
  have sixtyFourth : (2 : Rat) ^ (-6 : Int) = 1 / 64 := by norm_num
  rw [sixtyFourth, mul_one_div] at multiple
  exact multiple.symm

variable (m n : Nat)

theorem fine_hundredth (fine : gridExponent (n / 100) ≤ -7) : nearestEven (100 * onGrid (n / 100)) = n := by
  have near := abs_le.mp (on_grid_near (n / 100))
  have spacing : (2 : Rat) ^ gridExponent (n / 100) ≤ 1 / 128 :=
    (zpow_le_zpow_right₀ one_le_two fine).trans_eq (by norm_num)
  have close : |((n : Int) : Rat) - 100 * onGrid (n / 100)| < 1 / 2 := by
    rw [Int.cast_natCast, abs_lt]
    constructor <;> linarith
  exact nearest_even_unique _ n close.le fun tie => absurd tie close.ne

theorem fine_below_coarse (fine : gridExponent (m / 100) ≤ -7) (coarse : -6 ≤ gridExponent (n / 100)) :
    nearestEven (100 * onGrid (m / 100)) < nearestEven (100 * onGrid (n / 100)) := by
  have small : (m : Rat) / 100 < 2 ^ (46 : Int) := by
    refine not_le.mp fun large => ?_
    have also := (coarse_iff _ (by positivity)).mpr large
    omega
  have large := (coarse_iff _ (by positivity)).mp coarse
  have kept := on_grid_fixed 1 46 (by norm_num) (by norm_num)
  have reached := on_grid_mono _ _ large
  rw [Int.cast_one, one_mul] at kept
  rw [kept, zpow_ofNat] at reached
  have above : 100 * 2 ^ 46 ≤ nearestEven (100 * onGrid (n / 100)) := by
    refine le_nearest_even _ _ ?_
    push_cast
    linarith
  have below : (m : Int) < 100 * 2 ^ 46 := by
    rw [div_lt_iff₀ (by norm_num), mul_comm] at small
    exact_mod_cast small
  rw [fine_hundredth m fine]
  exact below.trans_le above

-- Two coarse numbers are either equal or more than a hundredth apart.
theorem coarse_apart (first : -6 ≤ gridExponent (m / 100)) (second : -6 ≤ gridExponent (n / 100))
    (same : nearestEven (100 * onGrid (m / 100)) = nearestEven (100 * onGrid (n / 100))) :
    onGrid (m / 100) = onGrid (n / 100) := by
  obtain ⟨k, left⟩ := coarse_multiple _ first
  obtain ⟨l, right⟩ := coarse_multiple _ second
  have nearLeft := abs_le.mp (nearest_even_near (100 * onGrid (m / 100)))
  have nearRight := abs_le.mp (nearest_even_near (100 * onGrid (n / 100)))
  rw [← same] at nearRight
  generalize nearestEven (100 * onGrid (m / 100)) = shown at nearLeft nearRight
  rw [left] at nearLeft
  rw [right] at nearRight
  have less : (k : Rat) < l + 1 := by linarith
  have more : (l : Rat) < k + 1 := by linarith
  have equal : k = l := le_antisymm (Int.lt_add_one_iff.mp (by exact_mod_cast less))
    (Int.lt_add_one_iff.mp (by exact_mod_cast more))
  rw [left, right, equal]

-- Below `2 ^ 46` doubles are finer than a hundredth, from there on they are coarser. Either
-- way a result is determined by its nearest hundredth.
theorem nearest_hundredth_injective
    (same : nearestEven (100 * onGrid (m / 100)) = nearestEven (100 * onGrid (n / 100))) :
    onGrid (m / 100) = onGrid (n / 100) := by
  rcases lt_or_ge (-7) (gridExponent (m / 100)) with first | first
  · rcases lt_or_ge (-7) (gridExponent (n / 100)) with second | second
    · exact coarse_apart m n first second same
    · exact absurd same (fine_below_coarse n m second first).ne'
  · rcases lt_or_ge (-7) (gridExponent (n / 100)) with second | second
    · exact absurd same (fine_below_coarse m n first second).ne
    · rw [fine_hundredth m first, fine_hundredth n second, Nat.cast_inj] at same
      rw [same]

end Spacing

end PlanarLP
