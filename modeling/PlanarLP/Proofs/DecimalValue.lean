import PlanarLP.Decimal.Numeral
import PlanarLP.Proofs.DoubleParts
import PlanarLP.Proofs.NumeralText

set_option autoImplicit false

namespace PlanarLP

open Float.Model (UnpackedFloat Format)
open Float.Model.UnpackedFloat (Sign)

def Decimal.value (d : Decimal) : Rat := d.digits * 10 ^ d.exponent

section Scientific

theorem divided_reads (n k : Nat) (nonzero : n ≠ 0) (positive : 0 < k) (range : k ≤ 2048 + n.log2) :
    Reads (UnpackedFloat.ofScientific Format.binary64 n (-k)) (onGrid (n / 10 ^ k)) := by
  have power : 0 < 10 ^ (- -(k : Int)).toNat := Nat.pow_pos (by decide)
  have divisor : ((10 ^ (- -(k : Int)).toNat : Nat) : Rat) = 10 ^ k := by
    have back : (- -(k : Int)).toNat = k := by omega
    rw [back, Nat.cast_pow, Nat.cast_ofNat]
  have whole (m : Nat) (above : 0 < m) : unpackedValue (.finite .positive m 0 above) = m := by
    change (m : Rat) * 2 ^ (0 : Int) = m
    rw [zpow_zero, mul_one]
  have reads := div_reads (.finite .positive n 0 (Nat.pos_of_ne_zero nonzero)) (.finite .positive _ 0 power) rfl rfl
    (by rw [whole]; exact_mod_cast power.ne')
  rw [whole, whole, divisor] at reads
  unfold UnpackedFloat.ofScientific
  rw [dif_neg nonzero, if_neg (by change ¬ (2048 : Int) < -k; omega),
    if_neg (by change ¬ (-k : Int) < -((2048 : Int) + n.log2); omega), if_neg (by omega)]
  exact reads

theorem exact_power (k : Nat) (small : k < Float.exactlyRepresentablePowersOfTen.size) :
    Binary64.ofFloat Float.exactlyRepresentablePowersOfTen[k] =
      .finite false (5 ^ k * 2 ^ (52 - (5 ^ k).log2)) (k + (5 ^ k).log2 - 52) := by
  have all : ∀ k : Nat, ∀ small : k < Float.exactlyRepresentablePowersOfTen.size,
      Binary64.ofFloat Float.exactlyRepresentablePowersOfTen[k] =
        .finite false (5 ^ k * 2 ^ (52 - (5 ^ k).log2)) (k + (5 ^ k).log2 - 52) := by decide +kernel
  exact all k small

theorem parts_value (x : Float) (negative : Bool) (m : Nat) (e : Int)
    (parts : Binary64.ofFloat x = .finite negative m e) :
    x.isFinite = true ∧ doubleValue x = if negative then -((m : Rat) * 2 ^ e) else (m : Rat) * 2 ^ e := by
  rw [of_float_unpacked] at parts
  change x.toModel.unpack.isFinite = true ∧ unpackedValue x.toModel.unpack = _
  generalize x.toModel.unpack = u at parts
  cases u with
  | notANumber | infinity => cases parts
  | zero s =>
      cases parts
      rw [Nat.cast_zero, zero_mul, neg_zero, ite_self]
      exact ⟨rfl, rfl⟩
  | finite s m e =>
      cases parts
      cases s <;> exact ⟨rfl, rfl⟩

theorem exact_power_value (k : Nat) (small : k < Float.exactlyRepresentablePowersOfTen.size) :
    Float.exactlyRepresentablePowersOfTen[k].isFinite = true ∧
      doubleValue Float.exactlyRepresentablePowersOfTen[k] = 10 ^ k := by
  obtain ⟨finite, value⟩ := parts_value _ _ _ _ (exact_power k small)
  have bits : (5 ^ k).log2 ≤ 52 := by
    have all : ∀ k < Float.exactlyRepresentablePowersOfTen.size, (5 ^ k).log2 ≤ 52 := by decide
    exact all k small
  refine ⟨finite, value.trans ?_⟩
  have exponent : (k : Int) + (5 ^ k).log2 - 52 = k - (52 - (5 ^ k).log2 : Nat) := by omega
  rw [exponent, zpow_sub₀ two_ne_zero, zpow_natCast, zpow_natCast]
  push_cast
  rw [mul_assoc, mul_div_cancel₀ _ (pow_ne_zero _ two_ne_zero), ← mul_pow]
  norm_num

-- A short numeral is one operation on exact doubles; any other is rounded from the fraction that it is.
theorem scientific_multiple (n k : Nat) (nonzero : n ≠ 0) (range : k ≤ 2048) :
    (Float.ofScientific n false k).isNaN = false ∧
      doubleValue (Float.ofScientific n false k) = rounded (n * 10 ^ k) := by
  unfold Float.ofScientific
  split
  · rename_i short
    obtain ⟨finite, whole⟩ := whole_value n short.1
    obtain ⟨exact_finite, power⟩ := exact_power_value k (Nat.lt_succ_of_le short.2)
    have product := mul_value _ _ finite exact_finite
    rw [whole, power] at product
    exact product
  · exact packed_reads _ _ (scaled_reads n k nonzero range)

theorem scientific_quotient (n k : Nat) (nonzero : n ≠ 0) (positive : 0 < k) (range : k ≤ 2048 + n.log2) :
    (Float.ofScientific n true k).isNaN = false ∧
      doubleValue (Float.ofScientific n true k) = rounded (n / 10 ^ k) := by
  unfold Float.ofScientific
  split
  · rename_i short
    obtain ⟨finite, whole⟩ := whole_value n short.1
    obtain ⟨exact_finite, power⟩ := exact_power_value k (Nat.lt_succ_of_le short.2)
    have quotient := div_value _ _ finite exact_finite (by rw [power]; positivity)
    rw [whole, power] at quotient
    exact quotient
  · have reads := divided_reads n k nonzero positive range
    have exponent : Int.negOfNat k = -(k : Int) := Int.negOfNat_eq
    rw [← exponent] at reads
    exact packed_reads _ _ reads

theorem scientific_value (n : Nat) (e : Int) (nonzero : n ≠ 0) (high : e ≤ 2048) (low : -(2048 + n.log2 : Int) ≤ e) :
    (Float.ofScientific n (decide (e < 0)) e.natAbs).isNaN = false ∧
      doubleValue (Float.ofScientific n (decide (e < 0)) e.natAbs) = rounded (n * 10 ^ e) := by
  rcases lt_or_ge e 0 with negative | natural
  · obtain ⟨k, rfl⟩ : ∃ k : Nat, e = -k := ⟨e.natAbs, by omega⟩
    rw [decide_eq_true negative, Int.natAbs_neg, Int.natAbs_natCast, zpow_neg, zpow_natCast, ← div_eq_mul_inv]
    exact scientific_quotient n k nonzero (by omega) (by omega)
  · obtain ⟨k, rfl⟩ := Int.eq_ofNat_of_zero_le natural
    rw [decide_eq_false natural.not_gt, Int.natAbs_natCast, zpow_natCast]
    exact scientific_multiple n k nonzero (by omega)

end Scientific

section Range

theorem numeral_length (n : Nat) (nonzero : n ≠ 0) :
    10 ^ ((Decimal.numeral n).length - 1) ≤ n ∧ n < 10 ^ (Decimal.numeral n).length := by
  have shown : 0 < (Decimal.numeral n).length := List.length_pos_of_ne_nil (numeral_nonempty n)
  have bound (k : Nat) (positive : 0 < k) : (Decimal.numeral n).length ≤ k ↔ n < 10 ^ k :=
    Nat.length_toDigits_le_iff (by decide) positive
  refine ⟨?_, (bound _ shown).mp le_rfl⟩
  rcases Nat.eq_zero_or_pos ((Decimal.numeral n).length - 1) with single | longer
  · rw [single]
    exact Nat.pos_of_ne_zero nonzero
  · exact not_lt.mp fun less => absurd ((bound _ longer).mpr less) (by omega)

theorem place_bounds (d : Decimal) (nonzero : d.digits ≠ 0) :
    10 ^ (d.pointPlace - 1) ≤ d.value ∧ d.value < 10 ^ d.pointPlace := by
  obtain ⟨low, high⟩ := numeral_length d.digits nonzero
  have shown : 0 < (Decimal.numeral d.digits).length := List.length_pos_of_ne_nil (numeral_nonempty d.digits)
  have unit : (0 : Rat) < 10 ^ d.exponent := zpow_pos (by norm_num) _
  have first : d.pointPlace - 1 = ((Decimal.numeral d.digits).length - 1 : Nat) + d.exponent := by
    unfold Decimal.pointPlace
    omega
  unfold Decimal.value
  constructor
  · rw [first, zpow_add₀ (by norm_num), zpow_natCast]
    exact mul_le_mul_of_nonneg_right (by exact_mod_cast low) unit.le
  · rw [Decimal.pointPlace, zpow_add₀ (by norm_num), zpow_natCast]
    exact mul_lt_mul_of_pos_right (by exact_mod_cast high) unit

theorem powers_le (d e : Nat) (order : 2 ^ d ≤ 10 ^ e) : (2 : Rat) ^ d ≤ 10 ^ e := by exact_mod_cast order

theorem rounded_huge (q : Rat) (huge : 10 ^ 310 ≤ q) : rounded q = beyond := by
  have large : beyond ≤ 10 ^ 310 := by
    unfold beyond
    rw [zpow_ofNat]
    exact powers_le 1024 310 (by decide +kernel)
  have above := rounded_mono beyond q (large.trans huge)
  rw [rounded_beyond] at above
  exact le_antisymm (max_le (by linarith [beyond_positive]) (min_le_left _ _)) above

theorem rounded_tiny (q : Rat) (positive : 0 < q) (tiny : q < 10 ^ (-330 : Int)) : rounded q = 0 := by
  have inverse : ((10 : Rat) ^ 330)⁻¹ ≤ (2 ^ 1076)⁻¹ := by
    exact inv_anti₀ (pow_pos (by norm_num) _) (powers_le 1076 330 (by decide +kernel))
  have small : q < 2 ^ (-2 + -1074 : Int) := tiny.trans_le inverse
  have least : gridExponent q = -1074 := by
    refine le_antisymm (grid_exponent_le q _ positive.ne' ?_ le_rfl) (le_max_right _ _)
    rw [abs_of_pos positive]
    exact small.trans (zpow_lt_zpow_right₀ one_lt_two (by norm_num))
  have none : nearestEven (q / 2 ^ (-1074 : Int)) = 0 := by
    have quarter : q / 2 ^ (-1074 : Int) < 1 / 4 := by
      rw [div_lt_iff₀ (zpow_pos two_pos _)]
      have quarter : (2 : Rat) ^ (-2 : Int) = 1 / 4 := by norm_num
      rwa [zpow_add₀ two_ne_zero, quarter] at small
    have above : 0 < q / 2 ^ (-1074 : Int) := div_pos positive (zpow_pos two_pos _)
    have size : |((0 : Int) : Rat) - q / 2 ^ (-1074 : Int)| < 1 / 2 := by
      rw [Int.cast_zero, zero_sub, abs_neg, abs_of_pos above]
      linarith
    exact nearest_even_unique _ 0 size.le fun tie => absurd tie size.ne
  have zero : onGrid q = 0 := by
    rw [onGrid, least, none, Int.cast_zero, zero_mul]
  rw [rounded_inside q (by rw [zero, abs_zero]; exact beyond_positive), zero]

theorem decimal_value (d : Decimal) : d.toFloat.isNaN = false ∧ doubleValue d.toFloat = rounded d.value := by
  unfold Decimal.toFloat
  dsimp only
  by_cases zero : d.digits = 0
  · rw [if_pos zero, Decimal.value, zero, Nat.cast_zero, zero_mul, rounded_zero]
    exact ⟨rfl, rfl⟩
  · obtain ⟨low, high⟩ := place_bounds d zero
    rw [if_neg zero]
    split_ifs with large small
    · have power : (10 : Rat) ^ 310 ≤ 10 ^ (d.pointPlace - 1) := by
        rw [← zpow_natCast]
        exact zpow_le_zpow_right₀ (by norm_num) (by omega)
      rw [rounded_huge _ (power.trans low)]
      exact ⟨rfl, rfl⟩
    · have power : (10 : Rat) ^ d.pointPlace ≤ 10 ^ (-330 : Int) := zpow_le_zpow_right₀ (by norm_num) (by omega)
      have positive : 0 < d.value := (zpow_pos (by norm_num) _).trans_le low
      rw [rounded_tiny _ positive (high.trans_le power)]
      exact ⟨rfl, rfl⟩
    · have bits : (Decimal.numeral d.digits).length - 1 ≤ d.digits.log2 := by
        refine (Nat.le_log2 zero).mpr (le_trans ?_ (numeral_length d.digits zero).1)
        exact Nat.pow_le_pow_left (by decide) _
      have shown : 0 < (Decimal.numeral d.digits).length := List.length_pos_of_ne_nil (numeral_nonempty d.digits)
      unfold Decimal.pointPlace at large small
      exact scientific_value d.digits d.exponent zero (by omega) (by omega)

end Range

end PlanarLP
