import PlanarLP.Proofs.DoubleRounding

set_option autoImplicit false

namespace PlanarLP

open Float.Model (UnpackedFloat Format)
open Float.Model.UnpackedFloat (Sign packComponents packedInfinity unpackSign unpackMantissa unpackExponent
  unpackMantissa_packComponents unpackExponent_packComponents)

theorem packed_sign (s : Sign) (biased : BitVec 11) (fraction : BitVec 52) :
    Sign.ofBitVec (unpackSign (packComponents Format.binary64 s biased fraction)) = s := by
  delta unpackSign packComponents BitVec.extractLsb
  rw [BitVec.extractLsb'_append_eq_of_le (by decide), BitVec.extractLsb'_append_eq_of_le (by decide)]
  cases s <;> rfl

theorem pack_finite (s : Sign) (m : Nat) (e : Int) (positive : 0 < m) :
    UnpackedFloat.pack Format.binary64 (.finite s m e positive) =
      if 2048 ≤ (e + 1075).toNat + 1 then packedInfinity Format.binary64 s
      else if m.log2 + 1 = 53 then
        packComponents Format.binary64 s (BitVec.ofNat 11 (e + 1075).toNat) (BitVec.ofNat 52 m)
      else packComponents Format.binary64 s 0#11 (BitVec.ofNat 52 m) := by
  have biased : (e + 1023 + 52).toNat = (e + 1075).toNat := by omega
  rw [← biased]
  rfl

section Parts

variable (bits : BitVec Format.binary64.numBits) (s : Sign) (m : Nat) (e : Int) (positive : 0 < m)
  (sign : Sign.ofBitVec (unpackSign bits) = s)

include sign

theorem full_parts (notTop : unpackExponent bits ≠ -1#11) (notLeast : unpackExponent bits ≠ 0#11)
    (mantissa : (1#1 ++ unpackMantissa bits).toNat = m) (exponent : ((unpackExponent bits).toNat : Int) - 1075 = e) :
    UnpackedFloat.unpack Format.binary64 bits = .finite s m e positive := by
  subst sign mantissa exponent
  unfold UnpackedFloat.unpack
  dsimp only
  rw [if_neg notTop, if_neg notLeast]
  rfl

theorem short_parts (least : unpackExponent bits = 0#11) (mantissa : (unpackMantissa bits).toNat = m) :
    UnpackedFloat.unpack Format.binary64 bits = .finite s m (-1074) positive := by
  subst sign mantissa
  have notTop : unpackExponent bits ≠ -1#11 := least.trans_ne (by decide)
  have nonzero : unpackMantissa bits ≠ 0#52 := fun zero => positive.ne' (congrArg BitVec.toNat zero)
  have exponent : ((unpackExponent bits).toNat : Int) - (Format.binary64.exponentBias +
      Format.binary64.mantissaBitsWithoutImplicit) + 1 = -1074 := by
    rw [least]
    rfl
  unfold UnpackedFloat.unpack
  dsimp only
  rw [if_neg notTop, if_pos least, dif_neg nonzero]
  congr 1

end Parts

theorem unpack_full (s : Sign) (m : Nat) (e : Int) (positive : 0 < m) (full : 2 ^ 52 ≤ m) (bits : m < 2 ^ 53)
    (low : -1074 ≤ e) (high : e ≤ 971) :
    UnpackedFloat.unpack Format.binary64
      (packComponents Format.binary64 s (BitVec.ofNat 11 (e + 1075).toNat) (BitVec.ofNat 52 m)) =
      .finite s m e positive := by
  have biased : (BitVec.ofNat 11 (e + 1075).toNat).toNat = (e + 1075).toNat := by
    rw [BitVec.toNat_ofNat]
    omega
  have notTop : BitVec.ofNat 11 (e + 1075).toNat ≠ -1#11 := fun top => by
    have same := congrArg BitVec.toNat top
    rw [biased] at same
    change _ = 2047 at same
    omega
  have notLeast : BitVec.ofNat 11 (e + 1075).toNat ≠ 0#11 := fun least => by
    have same := congrArg BitVec.toNat least
    rw [biased] at same
    change _ = 0 at same
    omega
  apply full_parts _ s m e positive (packed_sign s _ _)
  · exact unpackExponent_packComponents.trans_ne notTop
  · exact unpackExponent_packComponents.trans_ne notLeast
  · rw [unpackMantissa_packComponents, leading_bit, BitVec.toNat_ofNat]
    omega
  · rw [unpackExponent_packComponents, biased]
    omega

theorem unpack_short (s : Sign) (m : Nat) (positive : 0 < m) (bits : m < 2 ^ 52) :
    UnpackedFloat.unpack Format.binary64 (packComponents Format.binary64 s 0#11 (BitVec.ofNat 52 m)) =
      .finite s m (-1074) positive := by
  apply short_parts _ s m positive (packed_sign s _ _)
  · exact unpackExponent_packComponents
  · rw [unpackMantissa_packComponents]
    exact (BitVec.toNat_ofNat m 52).trans (Nat.mod_eq_of_lt bits)

theorem packed_fits (u : UnpackedFloat) (normal : Normal u) (fits : Fits u) : (Float.Model.pack u).unpack = u := by
  change UnpackedFloat.unpack Format.binary64 (UnpackedFloat.pack Format.binary64 u) = u
  cases u with
  | notANumber => rfl
  | infinity s => cases s <;> rfl
  | zero s => cases s <;> rfl
  | finite s m e positive =>
      obtain ⟨bits, low, full⟩ := normal
      change e ≤ 971 at fits
      rw [pack_finite, if_neg (by omega)]
      by_cases long : 2 ^ 52 ≤ m
      · have width : m.log2 + 1 = 53 := by
          have lower := (Nat.le_log2 positive.ne').mpr long
          have upper := (Nat.log2_lt positive.ne').mpr bits
          omega
        rw [if_pos width]
        exact unpack_full s m e positive long bits low fits
      · have short := not_le.mp long
        have width : m.log2 + 1 ≠ 53 := by
          have upper := (Nat.log2_lt positive.ne').mpr short
          omega
        have least : e = -1074 := full.resolve_left long
        subst least
        rw [if_neg width]
        exact unpack_short s m positive short

theorem packed_large (s : Sign) (m : Nat) (e : Int) (positive : 0 < m) (large : 971 < e) :
    (Float.Model.pack (.finite s m e positive)).unpack = .infinity s := by
  change UnpackedFloat.unpack Format.binary64 (UnpackedFloat.pack Format.binary64 _) = _
  rw [pack_finite, if_pos (by omega)]
  cases s <;> rfl

theorem large_beyond (m : Nat) (e : Int) (full : 2 ^ 52 ≤ m) (large : 971 < e) : beyond ≤ m * 2 ^ e := by
  have long : (2 : Rat) ^ (52 : Int) ≤ m := by exact_mod_cast full
  calc beyond
      ≤ 2 ^ (52 + e) := zpow_le_zpow_right₀ one_le_two (by omega)
    _ = 2 ^ (52 : Int) * 2 ^ e := zpow_add₀ two_ne_zero 52 e
    _ ≤ m * 2 ^ e := mul_le_mul_of_nonneg_right long (zpow_nonneg zero_le_two e)

theorem packed_reads (u : UnpackedFloat) (q : Rat) (reads : Reads u q) :
    (Float.Model.pack u).unpack.isNaN = false ∧
      unpackedValue (Float.Model.pack u).unpack = max (-beyond) (min beyond q) := by
  obtain ⟨normal, number, rfl⟩ := reads
  by_cases fits : Fits u
  · obtain ⟨low, high⟩ := abs_le.mp (value_within u ⟨normal, fits⟩)
    rw [packed_fits u normal fits, min_eq_right high, max_eq_right low]
    exact ⟨number, rfl⟩
  · cases u with
    | notANumber | infinity | zero => exact absurd trivial fits
    | finite s m e positive =>
        have large : 971 < e := not_le.mp fits
        have magnitude := large_beyond m e (normal.2.2.resolve_right (by omega)) large
        have top := beyond_positive
        rw [packed_large s m e positive large]
        refine ⟨rfl, ?_⟩
        cases s with
        | positive =>
            change beyond = max (-beyond) (min beyond (m * 2 ^ e))
            rw [min_eq_left magnitude, max_eq_right (by linarith)]
        | negative =>
            change -beyond = max (-beyond) (min beyond (-(m * 2 ^ e)))
            rw [min_eq_right (by linarith), max_eq_left (by linarith)]

end PlanarLP
