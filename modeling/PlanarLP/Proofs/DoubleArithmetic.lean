import PlanarLP.Proofs.DoublePacking

set_option autoImplicit false

namespace PlanarLP

open Float.Model (UnpackedFloat Format totalExponent)
open Float.Model.UnpackedFloat (Sign Accuracy ExtendedMantissa)

theorem signed_mul (s t : Sign) (p q : Rat) : signed s p * signed t q = signed (s * t) (p * q) := by
  cases s <;> cases t
  · exact neg_mul_neg p q
  · exact neg_mul p q
  · exact mul_neg p q
  · rfl

theorem signed_div (s t : Sign) (p q : Rat) : signed s p / signed t q = signed (s / t) (p / q) := by
  cases s <;> cases t
  · exact neg_div_neg_eq p q
  · exact neg_div q p
  · exact div_neg p
  · rfl

theorem signed_scale (s : Sign) (q c : Rat) : signed s q * c = signed s (q * c) := by
  cases s with
  | positive => rfl
  | negative => exact neg_mul q c

theorem signed_apply (s : Sign) (n : Nat) : ((s.apply n : Int) : Rat) = signed s n := by
  cases s with
  | positive => rfl
  | negative => exact Int.cast_neg (n : Int)

theorem zero_reads (s : Sign) : Reads (.zero s) (onGrid 0) := ⟨trivial, rfl, on_grid_zero.symm⟩

theorem normal_reads (u : UnpackedFloat) (normal : Normal u) (finite : u.isFinite = true) :
    Reads u (onGrid (unpackedValue u)) := by
  cases u with
  | notANumber | infinity s => cases finite
  | zero s => exact zero_reads s
  | finite s m e positive => exact ⟨normal, rfl, (value_on_grid _ normal rfl).symm⟩

theorem neg_finite_iff (u : UnpackedFloat) : u.neg.isFinite = true ↔ u.isFinite = true := by
  cases u <;> rfl

theorem neg_normal (u : UnpackedFloat) (normal : Normal u ∧ Fits u) : Normal u.neg ∧ Fits u.neg := by
  cases u <;> exact normal

theorem neg_value (u : UnpackedFloat) : unpackedValue u.neg = -unpackedValue u := by
  cases u with
  | notANumber | zero s => rfl
  | infinity s | finite s =>
      cases s with
      | positive => rfl
      | negative => exact (neg_neg _).symm

theorem abs_normal (u : UnpackedFloat) (normal : Normal u ∧ Fits u) : Normal u.abs ∧ Fits u.abs := by
  cases u <;> exact normal

theorem abs_value (u : UnpackedFloat) : unpackedValue u.abs = |unpackedValue u| := by
  cases u with
  | notANumber | zero s => exact abs_zero.symm
  | infinity s => exact ((signed_abs s _).trans (abs_of_pos beyond_positive)).symm
  | finite s m e positive => exact ((signed_abs s _).trans (abs_of_pos (magnitude_positive m e positive))).symm

theorem shifted_value (m : Nat) (e g : Int) (coarse : g ≤ e) :
    ((m <<< (e - g).toNat : Nat) : Rat) * 2 ^ g = m * 2 ^ e := by
  have multiple := finer_multiple m g e coarse
  rw [Nat.shiftLeft_eq]
  exact_mod_cast multiple

theorem add_reads (u v : UnpackedFloat) (first : Normal u) (second : Normal v) (left : u.isFinite = true)
    (right : v.isFinite = true) :
    Reads (UnpackedFloat.add Format.binary64 u v) (onGrid (unpackedValue u + unpackedValue v)) := by
  cases u with
  | notANumber | infinity s => cases left
  | zero s =>
      change Reads _ (onGrid (0 + unpackedValue v))
      rw [zero_add]
      cases v with
      | notANumber | infinity t => cases right
      | zero t => cases s <;> cases t <;> exact zero_reads _
      | finite t n f positive => exact normal_reads _ second right
  | finite s m e nonzero =>
      cases v with
      | notANumber | infinity t => cases right
      | zero t =>
          change Reads _ (onGrid (_ + 0))
          rw [add_zero]
          exact normal_reads _ first left
      | finite t n f positive =>
          have reads := normalize_reads
            (s.apply (m <<< (e - min e f).toNat : Nat) + t.apply (n <<< (f - min e f).toNat : Nat)) (min e f) .positive
          rw [Int.cast_add, add_mul, signed_apply, signed_apply, signed_scale, signed_scale,
            shifted_value m e _ (min_le_left e f), shifted_value n f _ (min_le_right e f)] at reads
          exact reads

theorem sub_as_add (u v : UnpackedFloat) :
    UnpackedFloat.sub Format.binary64 u v = UnpackedFloat.add Format.binary64 u v.neg := by
  cases u with
  | notANumber => cases v <;> rfl
  | infinity s | zero s =>
      cases v with
      | infinity t | zero t => cases s <;> cases t <;> rfl
      | notANumber | finite t => rfl
  | finite s m e =>
      cases v with
      | finite t n f positive =>
          have turned : (-t).apply (n <<< (f - min e f).toNat : Nat) = -t.apply (n <<< (f - min e f).toNat : Nat) := by
            cases t with
            | positive => rfl
            | negative => exact (Int.neg_neg _).symm
          change UnpackedFloat.normalize _ (_ - _) _ _ = UnpackedFloat.normalize _ (_ + _) _ _
          rw [turned]
          rfl
      | infinity t | zero t | notANumber => rfl

theorem sub_reads (u v : UnpackedFloat) (first : Normal u) (second : Normal v ∧ Fits v) (left : u.isFinite = true)
    (right : v.isFinite = true) :
    Reads (UnpackedFloat.sub Format.binary64 u v) (onGrid (unpackedValue u - unpackedValue v)) := by
  rw [sub_as_add, sub_eq_add_neg, ← neg_value]
  exact add_reads u v.neg first (neg_normal v second).1 left ((neg_finite_iff v).mpr right)

-- Either mantissa is full, or the exponents add up to far below the least one.
theorem product_bits (m n : Nat) (e f : Int) (positive : 0 < m * n) (first : 2 ^ 52 ≤ m ∨ e = -1074)
    (second : 2 ^ 52 ≤ n ∨ f = -1074) : e + f ≤ gridExponent ((m * n : Nat) * 2 ^ (e + f)) := by
  rw [grid_exponent_leading _ _ _ positive.ne' le_rfl (lt_add_one _)]
  have left : 0 < m := Nat.pos_of_mul_pos_right positive
  have right : 0 < n := Nat.pos_of_mul_pos_left positive
  by_cases full : 2 ^ 52 ≤ m * n
  · have bits := (Nat.le_log2 positive.ne').mpr full
    omega
  · have least : e = -1074 := first.resolve_left fun long => full (long.trans (Nat.le_mul_of_pos_right m right))
    have least' : f = -1074 := second.resolve_left fun long => full (long.trans (Nat.le_mul_of_pos_left n left))
    omega

theorem mul_reads (u v : UnpackedFloat) (first : Normal u) (second : Normal v) (left : u.isFinite = true)
    (right : v.isFinite = true) :
    Reads (UnpackedFloat.mul Format.binary64 u v) (onGrid (unpackedValue u * unpackedValue v)) := by
  cases u with
  | notANumber | infinity s => cases left
  | zero s =>
      change Reads _ (onGrid (0 * _))
      rw [zero_mul]
      cases v with
      | notANumber | infinity t => cases right
      | zero t | finite t => exact zero_reads _
  | finite s m e nonzero =>
      cases v with
      | notANumber | infinity t => cases right
      | zero t =>
          change Reads _ (onGrid (_ * 0))
          rw [mul_zero]
          exact zero_reads _
      | finite t n f positive =>
          have product : 0 < m * n := Nat.mul_pos nonzero positive
          have reads := round_accuracy_reads (s * t) (m * n) (e + f) .exact _ (Nat.cast_pos.mpr product)
            (described_exact _) (product_bits m n e f product first.2.2 second.2.2)
          have exact_value : ((m * n : Nat) : Rat) * 2 ^ (e + f) = m * 2 ^ e * (n * 2 ^ f) := by
            rw [zpow_add₀ two_ne_zero]
            push_cast
            ring
          change Reads _ (onGrid (signed s (m * 2 ^ e) * signed t (n * 2 ^ f)))
          rw [signed_mul, signed_on_grid, ← exact_value]
          exact reads

theorem described_fraction (n d : Nat) (positive : 0 < d) :
    Describes (.ofMantissaAndAccuracy (n / d) (UnpackedFloat.accuracyOfFraction (n % d) d)) (n / d) := by
  have unit : (0 : Rat) < d := Nat.cast_pos.mpr positive
  have split : (n : Rat) = d * (n / d : Nat) + (n % d : Nat) := by exact_mod_cast (Nat.div_add_mod n d).symm
  have quotient : (n : Rat) / d = (n / d : Nat) + (n % d : Nat) / d := by
    rw [split]
    field_simp
  have proper : ((n % d : Nat) : Rat) / d < 1 := (div_lt_one unit).mpr (Nat.cast_lt.mpr (Nat.mod_lt n positive))
  rw [quotient]
  unfold UnpackedFloat.accuracyOfFraction
  by_cases whole : n % d = 0
  · rw [if_pos whole, whole, Nat.cast_zero, zero_div, add_zero]
    rfl
  · have remains : 0 < ((n % d : Nat) : Rat) / d := div_pos (Nat.cast_pos.mpr (Nat.pos_of_ne_zero whole)) unit
    rw [if_neg whole]
    rcases lt_trichotomy (2 * (n % d)) d with less | same | more
    · have below : ((n % d : Nat) : Rat) / d < 1 / 2 := by
        rw [div_lt_div_iff₀ unit two_pos, mul_comm, one_mul]
        exact_mod_cast less
      rw [Nat.compare_eq_lt.mpr less]
      exact ⟨lt_add_of_pos_right _ remains, (add_lt_add_iff_left _).mpr below⟩
    · have tie : ((n % d : Nat) : Rat) / d = 1 / 2 := by
        rw [div_eq_div_iff unit.ne' two_ne_zero, mul_comm, one_mul]
        exact_mod_cast same
      rw [Nat.compare_eq_eq.mpr same, tie]
      rfl
    · have above : 1 / 2 < ((n % d : Nat) : Rat) / d := by
        rw [div_lt_div_iff₀ two_pos unit, one_mul, mul_comm]
        exact_mod_cast more
      rw [Nat.compare_eq_gt.mpr more]
      exact ⟨(add_lt_add_iff_left _).mpr above, (add_lt_add_iff_left _).mpr proper⟩

theorem log_quotient (m n : Nat) (e f : Int) (first : 0 < m) (second : 0 < n) :
    (m.log2 : Int) + e - (n.log2 + f) - 1 ≤ Int.log 2 ((m : Rat) * 2 ^ e / (n * 2 ^ f)) := by
  have above : (0 : Rat) < m * 2 ^ e := magnitude_positive m e first
  have below : (0 : Rat) < n * 2 ^ f := magnitude_positive n f second
  rw [← Int.zpow_le_iff_le_log (by norm_num) (div_pos above below), le_div_iff₀ below]
  have reached : (2 : Rat) ^ (m.log2 : Int) ≤ m := by exact_mod_cast Nat.log2_self_le first.ne'
  have short : (n : Rat) ≤ 2 ^ ((n.log2 : Int) + 1) := by exact_mod_cast Nat.lt_log2_self.le
  push_cast
  calc (2 : Rat) ^ ((m.log2 : Int) + e - (n.log2 + f) - 1) * (n * 2 ^ f)
      ≤ 2 ^ ((m.log2 : Int) + e - (n.log2 + f) - 1) * (2 ^ ((n.log2 : Int) + 1) * 2 ^ f) := by
        have bound := mul_le_mul_of_nonneg_right short (zpow_nonneg zero_le_two f)
        exact mul_le_mul_of_nonneg_left bound (zpow_nonneg zero_le_two _)
    _ = 2 ^ (m.log2 : Int) * 2 ^ e := by
        rw [← zpow_add₀ two_ne_zero, ← zpow_add₀ two_ne_zero, ← zpow_add₀ two_ne_zero]
        congr 1
        ring
    _ ≤ m * 2 ^ e := mul_le_mul_of_nonneg_right reached (zpow_nonneg zero_le_two e)

theorem quotient_bits (m n : Nat) (e f : Int) (first : 0 < m) (second : 0 < n) :
    min (e - f) (Format.binary64.targetExponent (totalExponent m e - totalExponent n f)) ≤
      gridExponent ((m : Rat) * 2 ^ e / (n * 2 ^ f)) := by
  have target : Format.binary64.targetExponent (totalExponent m e - totalExponent n f) =
      max ((m.log2 : Int) + 1 + e - (n.log2 + 1 + f) - 53) (-1074) := rfl
  have log := log_quotient m n e f first second
  have positive := div_pos (magnitude_positive m e first) (magnitude_positive n f second)
  rw [target, gridExponent, abs_of_pos positive]
  omega

theorem quotient_value (m n : Nat) (e f g : Int) (coarse : g ≤ e - f) :
    ((m <<< (e - f - g).toNat : Nat) : Rat) / n * 2 ^ g = m * 2 ^ e / (n * 2 ^ f) := by
  rw [div_mul_eq_mul_div, shifted_value m (e - f) g coarse, zpow_sub₀ two_ne_zero, mul_div_assoc', div_div,
    mul_comm (2 ^ f)]

theorem div_reads (u v : UnpackedFloat) (left : u.isFinite = true) (right : v.isFinite = true)
    (nonzero : unpackedValue v ≠ 0) :
    Reads (UnpackedFloat.div Format.binary64 u v) (onGrid (unpackedValue u / unpackedValue v)) := by
  cases v with
  | notANumber | infinity t => cases right
  | zero t => exact absurd rfl nonzero
  | finite t n f divisor =>
      cases u with
      | notANumber | infinity s => cases left
      | zero s =>
          change Reads _ (onGrid (0 / _))
          rw [zero_div]
          exact zero_reads _
      | finite s m e positive =>
          have value := quotient_value m n e f _
            (min_le_left (e - f) (Format.binary64.targetExponent (totalExponent m e - totalExponent n f)))
          have enough := quotient_bits m n e f positive divisor
          rw [← value] at enough
          have above : 0 < (m : Rat) * 2 ^ e / (n * 2 ^ f) :=
            div_pos (magnitude_positive m e positive) (magnitude_positive n f divisor)
          rw [← value] at above
          have reads := round_accuracy_reads (s / t) _ _ _ _ (pos_of_mul_pos_left above (zpow_nonneg zero_le_two _))
            (described_fraction _ n divisor) enough
          rw [value] at reads
          change Reads _ (onGrid (signed s (m * 2 ^ e) / signed t (n * 2 ^ f)))
          rw [signed_div, signed_on_grid]
          exact reads

theorem packed_finite (u : UnpackedFloat) (finite : (Float.Model.pack u).unpack.isFinite = true) :
    u.isFinite = true := by
  cases u with
  | notANumber => cases finite
  | infinity s => cases s <;> cases finite
  | zero | finite => rfl

theorem finite_summands (u v : UnpackedFloat) (finite : (UnpackedFloat.add Format.binary64 u v).isFinite = true) :
    u.isFinite = true ∧ v.isFinite = true := by
  cases u with
  | notANumber => cases v <;> cases finite
  | infinity s =>
      cases v with
      | infinity t => cases s <;> cases t <;> cases finite
      | notANumber | zero | finite => cases finite
  | zero | finite =>
      cases v with
      | notANumber | infinity => cases finite
      | zero | finite => exact ⟨rfl, rfl⟩

theorem finite_factors (u v : UnpackedFloat) (finite : (UnpackedFloat.mul Format.binary64 u v).isFinite = true) :
    u.isFinite = true ∧ v.isFinite = true := by
  cases u with
  | notANumber | infinity => cases v <;> cases finite
  | zero | finite =>
      cases v with
      | notANumber | infinity => cases finite
      | zero | finite => exact ⟨rfl, rfl⟩

theorem finite_dividend (u v : UnpackedFloat) (finite : (UnpackedFloat.div Format.binary64 u v).isFinite = true) :
    u.isFinite = true := by
  cases u with
  | notANumber | infinity => cases v <;> cases finite
  | zero | finite => rfl

section Doubles

variable (a b : Float)

theorem add_value (left : a.isFinite = true) (right : b.isFinite = true) :
    (a + b).isNaN = false ∧ doubleValue (a + b) = rounded (doubleValue a + doubleValue b) :=
  packed_reads _ _ (add_reads _ _ (unpack_normal _).1 (unpack_normal _).1 left right)

theorem sub_value (left : a.isFinite = true) (right : b.isFinite = true) :
    (a - b).isNaN = false ∧ doubleValue (a - b) = rounded (doubleValue a - doubleValue b) :=
  packed_reads _ _ (sub_reads _ _ (unpack_normal _).1 (unpack_normal _) left right)

theorem mul_value (left : a.isFinite = true) (right : b.isFinite = true) :
    (a * b).isNaN = false ∧ doubleValue (a * b) = rounded (doubleValue a * doubleValue b) :=
  packed_reads _ _ (mul_reads _ _ (unpack_normal _).1 (unpack_normal _).1 left right)

theorem div_value (left : a.isFinite = true) (right : b.isFinite = true) (nonzero : doubleValue b ≠ 0) :
    (a / b).isNaN = false ∧ doubleValue (a / b) = rounded (doubleValue a / doubleValue b) :=
  packed_reads _ _ (div_reads _ _ left right nonzero)

theorem add_operands (finite : (a + b).isFinite = true) : a.isFinite = true ∧ b.isFinite = true :=
  finite_summands _ _ (packed_finite _ finite)

theorem sub_operands (finite : (a - b).isFinite = true) : a.isFinite = true ∧ b.isFinite = true := by
  have difference := packed_finite _ finite
  rw [sub_as_add] at difference
  obtain ⟨left, right⟩ := finite_summands _ _ difference
  exact ⟨left, (neg_finite_iff _).mp right⟩

theorem mul_operands (finite : (a * b).isFinite = true) : a.isFinite = true ∧ b.isFinite = true :=
  finite_factors _ _ (packed_finite _ finite)

theorem div_dividend (finite : (a / b).isFinite = true) : a.isFinite = true :=
  finite_dividend _ _ (packed_finite _ finite)

theorem abs_double_value : doubleValue a.abs = |doubleValue a| := by
  have normal := unpack_normal a.toModel.toBits.toBitVec
  have restored := packed_fits a.toModel.unpack.abs (abs_normal _ normal).1 (abs_normal _ normal).2
  exact (congrArg unpackedValue restored).trans (abs_value _)

end Doubles

theorem one_value : doubleValue (Float.ofBits 0x3FF0000000000000) = 1 := by
  have unpacked : (Float.ofBits 0x3FF0000000000000).toModel.unpack =
      .finite .positive (2 ^ 52) (-52) (by norm_num) := rfl
  rw [doubleValue, unpacked]
  change ((2 ^ 52 : Nat) : Rat) * 2 ^ (-52 : Int) = 1
  norm_num

theorem whole_rounded (n : Nat) (fits : n < 2 ^ 53) : rounded n = n := by
  have fixed := rounded_fixed n 0 (by exact_mod_cast fits) (by norm_num) (by norm_num)
  rwa [Int.cast_natCast, zpow_zero, mul_one] at fixed

theorem natural_small (n : Nat) (fits : n < 2 ^ 64) : |rounded n| < beyond := by
  have word : (n : Rat) < 2 ^ (64 : Int) := by exact_mod_cast fits
  have halves : beyond = 2 ^ (1023 : Int) + 2 ^ (1023 : Int) := (zpow_add₀ two_ne_zero 1023 1).trans (mul_two _)
  refine rounded_finite _ ?_
  rw [abs_of_nonneg n.cast_nonneg]
  calc (n : Rat)
      < 2 ^ (64 : Int) := word
    _ ≤ 2 ^ (1023 : Int) := zpow_le_zpow_right₀ one_le_two (by norm_num)
    _ = beyond - 2 ^ (1023 : Int) := eq_sub_of_add_eq halves.symm
    _ ≤ beyond - coarseHalf := sub_le_sub_left (zpow_le_zpow_right₀ one_le_two (by norm_num)) _

theorem whole_value (n : Nat) (fits : n < 2 ^ 53) :
    n.toUInt64.toFloat.isFinite = true ∧ doubleValue n.toUInt64.toFloat = n := by
  have reads := normalize_reads n.toUInt64.toNat 0 .positive
  have word : n.toUInt64.toNat = n := UInt64.toNat_ofNat_of_lt (fits.trans (by norm_num))
  have cast : ((n.toUInt64.toNat : Int) : Rat) * 2 ^ (0 : Int) = n := by
    rw [Int.cast_natCast, zpow_zero, mul_one, word]
  rw [cast] at reads
  have read := packed_reads _ _ reads
  exact ⟨read_finite _ _ read (natural_small n (fits.trans (by norm_num))), read.2.trans (whole_rounded n fits)⟩

theorem scaled_reads (n k : Nat) (nonzero : n ≠ 0) (range : k ≤ 2048) :
    Reads (UnpackedFloat.ofScientific Format.binary64 n k) (onGrid (n * 10 ^ k)) := by
  have power : 0 < 10 ^ k := Nat.pow_pos (by decide)
  have positive : 0 < n <<< 53 * 10 ^ k := by
    rw [Nat.shiftLeft_eq]
    positivity
  have long : 2 ^ 53 ≤ n <<< 53 * 10 ^ k := by
    rw [Nat.shiftLeft_eq, mul_right_comm]
    exact Nat.le_mul_of_pos_left _ (Nat.mul_pos (Nat.pos_of_ne_zero nonzero) power)
  have bits := (Nat.le_log2 positive.ne').mpr long
  have value : ((n <<< 53 * 10 ^ k : Nat) : Rat) * 2 ^ (-53 + 0 : Int) = n * 10 ^ k := by
    have inverse : (2 : Rat) ^ 53 * 2 ^ (-53 + 0 : Int) = 1 := by norm_num
    rw [Nat.shiftLeft_eq, mul_right_comm, Nat.cast_mul, Nat.cast_pow 2, Nat.cast_ofNat, mul_assoc, inverse, mul_one]
    push_cast
    rfl
  have leading := grid_exponent_leading (n <<< 53 * 10 ^ k) (-53 + 0) _ positive.ne' le_rfl (lt_add_one _)
  have reads := round_accuracy_reads .positive (n <<< 53 * 10 ^ k) (-53 + 0) .exact _ (Nat.cast_pos.mpr positive)
    (described_exact _) (by rw [leading]; omega)
  rw [value] at reads
  unfold UnpackedFloat.ofScientific
  rw [dif_neg nonzero, if_neg (by change ¬ (2048 : Int) < k; omega),
    if_neg (by change ¬ (k : Int) < -((2048 : Int) + n.log2); omega), if_pos k.cast_nonneg]
  exact reads

theorem natural_reads (n : Nat) :
    (Scalar.natural n : Float).isNaN = false ∧ doubleValue (Scalar.natural n) = rounded n := by
  change (Float.ofScientific n true 0).isNaN = false ∧ doubleValue (Float.ofScientific n true 0) = _
  unfold Float.ofScientific
  split
  · rename_i small
    obtain ⟨finite, whole⟩ := whole_value n small.1
    have quotient := div_value n.toUInt64.toFloat (Float.ofBits 0x3FF0000000000000) finite rfl
      (by rw [one_value]; exact one_ne_zero)
    rw [whole, one_value, div_one] at quotient
    exact quotient
  · rename_i large
    have nonzero : n ≠ 0 := by
      rintro rfl
      exact large (by norm_num)
    have reads := scaled_reads n 0 nonzero (by decide)
    rw [pow_zero, mul_one] at reads
    exact packed_reads _ _ reads

theorem natural_value (n : Nat) (fits : n < 2 ^ 64) :
    (Scalar.natural n : Float).isFinite = true ∧ doubleValue (Scalar.natural n) = rounded n := by
  have read := natural_reads n
  exact ⟨read_finite _ _ read (natural_small n fits), read.2⟩

end PlanarLP
