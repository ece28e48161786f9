import PlanarLP.Proofs.DoubleNegation
import PlanarLP.Proofs.ShortestDigits
import PlanarLP.Report.Amount

set_option autoImplicit false

namespace PlanarLP

open Float.Model (UnpackedFloat Format)
open Float.Model.UnpackedFloat (Sign unpackSign unpackMantissa unpackExponent)

def isNegative : Sign → Bool
  | .positive => false
  | .negative => true

-- A zero has the exponent of the smallest numbers.
def Binary64.ofUnpacked : UnpackedFloat → Binary64
  | .notANumber => .nan
  | .infinity s => .infinite (isNegative s)
  | .zero s => .finite (isNegative s) 0 (-1074)
  | .finite s m e _ => .finite (isNegative s) m e

section Bits

variable (bits : BitVec Format.binary64.numBits)

theorem sign_bit :
    isNegative (Sign.ofBitVec (unpackSign bits)) = (bits.toNat / Binary64.leadingBit / 0x800 % 2 == 1) := by
  have value : (unpackSign bits).toNat = bits.toNat / Binary64.leadingBit / 0x800 % 2 := by
    unfold unpackSign
    rw [BitVec.toNat_cast, BitVec.extractLsb_toNat, Nat.shiftRight_eq_div_pow, Nat.div_div_eq_div_mul]
    rfl
  rw [← value]
  generalize unpackSign bits = sign
  revert sign
  decide

theorem exponent_bits : (unpackExponent bits).toNat = bits.toNat / Binary64.leadingBit % 0x800 := by
  unfold unpackExponent
  rw [BitVec.toNat_cast, BitVec.extractLsb_toNat, Nat.shiftRight_eq_div_pow]
  rfl

theorem fraction_bits : (unpackMantissa bits).toNat = bits.toNat % Binary64.leadingBit := by
  unfold unpackMantissa
  rw [BitVec.toNat_cast, BitVec.extractLsb_toNat, Nat.shiftRight_zero]
  rfl

theorem of_bits_unpacked :
    Binary64.ofBits bits.toNat = .ofUnpacked (UnpackedFloat.unpack Format.binary64 bits) := by
  have all : (unpackExponent bits).toNat = 2047 ↔ unpackExponent bits = -1#11 :=
    ⟨fun same => BitVec.eq_of_toNat_eq same, congrArg BitVec.toNat⟩
  have none : (unpackExponent bits).toNat = 0 ↔ unpackExponent bits = 0#11 :=
    ⟨fun same => BitVec.eq_of_toNat_eq same, congrArg BitVec.toNat⟩
  have zero : (unpackMantissa bits).toNat = 0 ↔ unpackMantissa bits = 0#52 :=
    ⟨fun same => BitVec.eq_of_toNat_eq same, congrArg BitVec.toNat⟩
  unfold Binary64.ofBits UnpackedFloat.unpack
  dsimp only
  rw [← sign_bit, ← exponent_bits, ← fraction_bits]
  by_cases top : unpackExponent bits = -1#11
  · rw [if_pos (all.mpr top), if_pos top]
    by_cases empty : unpackMantissa bits = 0#52
    · rw [if_pos (zero.mpr empty), if_pos empty]
      rfl
    · rw [if_neg (mt zero.mp empty), if_neg empty]
      rfl
  · rw [if_neg (mt all.mp top), if_neg top]
    by_cases least : unpackExponent bits = 0#11
    · rw [if_pos (none.mpr least), if_pos least]
      by_cases empty : unpackMantissa bits = 0#52
      · rw [dif_pos empty, zero.mpr empty]
        rfl
      · rw [dif_neg empty, none.mpr least]
        rfl
    · have full : (1#1 ++ unpackMantissa bits).toNat = Binary64.leadingBit + (unpackMantissa bits).toNat :=
        leading_bit _
      rw [if_neg (mt none.mp least), if_neg least, ← full]
      rfl

end Bits

theorem of_float_unpacked (x : Float) : Binary64.ofFloat x = .ofUnpacked x.toModel.unpack := of_bits_unpacked _

theorem finite_parts (x : Float) (finite : x.isFinite = true) :
    ∃ s m e, Binary64.ofFloat x = .finite (isNegative s) m e ∧ doubleValue x = signed s (m * 2 ^ e) := by
  rw [of_float_unpacked]
  change x.toModel.unpack.isFinite = true at finite
  change ∃ s, ∃ m : Nat, ∃ e, _ = Binary64.finite (isNegative s) m e ∧
    unpackedValue x.toModel.unpack = signed s (m * 2 ^ e)
  generalize x.toModel.unpack = u at finite
  cases u with
  | notANumber | infinity => cases finite
  | zero s =>
      refine ⟨s, 0, _, rfl, ?_⟩
      rw [Nat.cast_zero, zero_mul]
      cases s with
      | positive => rfl
      | negative => exact neg_zero.symm
  | finite s m e => exact ⟨s, m, e, rfl, rfl⟩

theorem of_nat_value (n : Nat) (fits : n < 2 ^ 53) :
    (Float.ofNat n).isFinite = true ∧ doubleValue (Float.ofNat n) = n := by
  obtain ⟨finite, whole⟩ := whole_value n fits
  have product := mul_value n.toUInt64.toFloat (Float.ofBits 0x3FF0000000000000) finite rfl
  rw [whole, one_value, mul_one, whole_rounded n fits] at product
  have scaled : Float.ofNat n = n.toUInt64.toFloat * Float.ofBits 0x3FF0000000000000 := by
    change Float.ofScientific n false 0 = _
    unfold Float.ofScientific
    rw [dif_pos ⟨fits, Nat.zero_le 22⟩]
    rfl
  have small := natural_small n (fits.trans (by norm_num))
  rw [whole_rounded n fits] at small
  rw [scaled]
  exact ⟨read_finite _ _ product small, product.2⟩

theorem half_up_fits (m d : Nat) (bits : m < 2 ^ 53) (positive : 0 < d) : Binary64.nearestHalfUp m d < 2 ^ 53 := by
  unfold Binary64.nearestHalfUp
  rw [Nat.div_lt_iff_lt_mul (Nat.mul_pos two_pos positive)]
  omega

theorem whole_multiple (s : Sign) (m : Nat) (e : Int) (whole : 0 ≤ e) : ∃ n : Int, signed s (m * 2 ^ e) = n := by
  obtain ⟨k, rfl⟩ := Int.eq_ofNat_of_zero_le whole
  refine ⟨s.apply ((m * 2 ^ k : Nat) : Int), ?_⟩
  rw [signed_apply]
  push_cast
  rfl

theorem halves_whole (s : Sign) (m : Nat) (e : Int) (bits : m < 2 ^ 53) :
    let size := Float.ofNat (Binary64.nearestHalfUp m (Nat.pow 2 (-e).toNat))
    (if isNegative s then -size else size).isFinite = true ∧
      ∃ n : Int, doubleValue (if isNegative s then -size else size) = n := by
  intro size
  obtain ⟨finite, value⟩ := of_nat_value _ (half_up_fits m (Nat.pow 2 (-e).toNat) bits (Nat.two_pow_pos _))
  cases s with
  | positive => exact ⟨finite, _, value⟩
  | negative =>
      refine ⟨double_neg_finite size finite, -(Binary64.nearestHalfUp m (Nat.pow 2 (-e).toNat) : Int), ?_⟩
      rw [Int.cast_neg]
      exact (double_neg_value size).trans (congrArg Neg.neg value)

theorem round_whole (x : Float) (finite : x.isFinite = true) :
    (Binary64.round x).isFinite = true ∧ ∃ n : Int, doubleValue (Binary64.round x) = n := by
  obtain ⟨normal, _⟩ := unpack_normal x.toModel.toBits.toBitVec
  have parts := of_float_unpacked x
  have value : doubleValue x = unpackedValue x.toModel.unpack := rfl
  have itself := finite
  change Normal x.toModel.unpack at normal
  change x.toModel.unpack.isFinite = true at itself
  unfold Binary64.round
  rw [parts]
  generalize x.toModel.unpack = u at normal itself value
  cases u with
  | notANumber | infinity => cases itself
  | zero s =>
      dsimp only [Binary64.ofUnpacked]
      rw [if_neg (by decide)]
      exact halves_whole s 0 (-1074) (by norm_num)
  | finite s m e positive =>
      dsimp only [Binary64.ofUnpacked]
      by_cases whole : 0 ≤ e
      · rw [if_pos whole]
        obtain ⟨n, same⟩ := whole_multiple s m e whole
        exact ⟨finite, n, value.trans same⟩
      · rw [if_neg whole]
        exact halves_whole s m e normal.1

theorem round_unbounded (x : Float) (unbounded : ¬ x.isFinite = true) : Binary64.round x = x := by
  have parts := of_float_unpacked x
  change ¬ x.toModel.unpack.isFinite = true at unbounded
  unfold Binary64.round
  rw [parts]
  generalize x.toModel.unpack = u at unbounded
  cases u with
  | notANumber | infinity => rfl
  | zero | finite => exact absurd rfl unbounded

theorem half_even_quotient (n d : Nat) (positive : 0 < d) :
    (Binary64.nearestHalfEven n d : Int) = nearestEven (n / d) := by
  have unit : (0 : Rat) < d := Nat.cast_pos.mpr positive
  have floor : ⌊(n : Rat) / d⌋ = (n / d : Nat) := Rat.floor_natCast_div_natCast n d
  have rest : (n : Rat) / d - ((n / d : Nat) : Int) = (n % d : Nat) / d := by
    rw [sub_eq_iff_eq_add, div_eq_iff unit.ne', add_mul, div_mul_cancel₀ _ unit.ne', Int.cast_natCast]
    exact_mod_cast (Nat.mod_add_div' n d).symm
  have below : ((n % d : Nat) : Rat) / d < 1 / 2 ↔ 2 * (n % d) < d := by
    rw [div_lt_div_iff₀ unit two_pos, one_mul, mul_comm]
    exact_mod_cast Iff.rfl
  have above : 1 / 2 < ((n % d : Nat) : Rat) / d ↔ d < 2 * (n % d) := by
    rw [div_lt_div_iff₀ two_pos unit, one_mul, mul_comm]
    exact_mod_cast Iff.rfl
  unfold Binary64.nearestHalfEven nearestEven
  simp only [floor, rest, below, above]
  split_ifs <;> push_cast <;> omega

theorem nearest_hundredth_value (m : Nat) (e : Int) :
    (Binary64.nearestHundredth m e : Int) = nearestEven (100 * (m * 2 ^ e)) := by
  have scaled : ((100 * m * 2 ^ e.toNat : Nat) : Rat) / (2 ^ (-e).toNat : Nat) = 100 * (m * 2 ^ e) := by
    push_cast
    rw [power_toNat 2 two_ne_zero e, div_eq_iff (pow_ne_zero _ two_ne_zero)]
    ring
  rw [← scaled]
  exact half_even_quotient _ _ (Nat.two_pow_pos _)

end PlanarLP
