import PlanarLP.Proofs.DoubleOrder
import PlanarLP.Proofs.NearestEven

set_option autoImplicit false

namespace PlanarLP

open Float.Model (UnpackedFloat Format)
open Float.Model.UnpackedFloat (Sign)

def signed : Sign → Rat → Rat
  | .positive, q => q
  | .negative, q => -q

theorem signed_abs (s : Sign) (q : Rat) : |signed s q| = |q| := by
  cases s with
  | positive => rfl
  | negative => exact abs_neg q

theorem signed_on_grid (s : Sign) (q : Rat) : onGrid (signed s q) = signed s (onGrid q) := by
  cases s with
  | positive => rfl
  | negative => exact on_grid_neg q

-- The infinities stand just beyond the finite doubles, so one linear order compares all
-- doubles but NaN.
def unpackedValue : UnpackedFloat → Rat
  | .notANumber => 0
  | .infinity s => signed s beyond
  | .zero _ => 0
  | .finite s m e _ => signed s (m * 2 ^ e)

def doubleValue (x : Float) : Rat := unpackedValue x.toModel.unpack

-- Fifty-three bits, all of them used unless the exponent is the least one.
def Normal : UnpackedFloat → Prop
  | .finite _ m e _ => m < 2 ^ 53 ∧ -1074 ≤ e ∧ (2 ^ 52 ≤ m ∨ e = -1074)
  | _ => True

def Fits : UnpackedFloat → Prop
  | .finite _ _ e _ => e ≤ 971
  | _ => True

theorem leading_bit (fraction : BitVec 52) : (1#1 ++ fraction).toNat = 2 ^ 52 + fraction.toNat := by
  rw [BitVec.toNat_append, ← Nat.shiftLeft_add_eq_or_of_lt fraction.isLt]
  rfl

theorem unpack_normal (bits : BitVec Format.binary64.numBits) :
    Normal (UnpackedFloat.unpack Format.binary64 bits) ∧ Fits (UnpackedFloat.unpack Format.binary64 bits) := by
  have fraction : (UnpackedFloat.unpackMantissa bits).toNat < 2 ^ 52 := BitVec.isLt _
  have range : (UnpackedFloat.unpackExponent bits).toNat < 2 ^ 11 := BitVec.isLt _
  have bias : (Format.binary64.exponentBias : Int) + Format.binary64.mantissaBitsWithoutImplicit = 1075 := rfl
  unfold UnpackedFloat.unpack
  dsimp only
  by_cases top : UnpackedFloat.unpackExponent bits = -1#11
  · rw [if_pos top]
    split <;> exact ⟨trivial, trivial⟩
  · rw [if_neg top]
    have below : (UnpackedFloat.unpackExponent bits).toNat ≠ 2047 := fun same => top (BitVec.eq_of_toNat_eq same)
    by_cases least : UnpackedFloat.unpackExponent bits = 0#11
    · rw [if_pos least]
      by_cases empty : UnpackedFloat.unpackMantissa bits = 0#52
      · rw [dif_pos empty]
        exact ⟨trivial, trivial⟩
      · rw [dif_neg empty]
        have zero : (UnpackedFloat.unpackExponent bits).toNat = 0 := congrArg BitVec.toNat least
        have least : ((UnpackedFloat.unpackExponent bits).toNat : Int) -
            (Format.binary64.exponentBias + Format.binary64.mantissaBitsWithoutImplicit) + 1 = -1074 := by
          rw [bias, zero]
          rfl
        exact ⟨⟨by omega, least.ge, .inr least⟩, least.trans_le (by norm_num)⟩
    · rw [if_neg least]
      have positive : (UnpackedFloat.unpackExponent bits).toNat ≠ 0 := fun zero => least (BitVec.eq_of_toNat_eq zero)
      have full := leading_bit (UnpackedFloat.unpackMantissa bits)
      refine ⟨⟨?_, ?_, .inl ?_⟩, ?_⟩
      · exact full.trans_lt (by omega)
      · rw [bias]
        omega
      · exact (Nat.le_add_right _ _).trans_eq full.symm
      · change ((UnpackedFloat.unpackExponent bits).toNat : Int) - _ ≤ 971
        rw [bias]
        omega

theorem magnitude_positive (m : Nat) (e : Int) (positive : 0 < m) : (0 : Rat) < m * 2 ^ e :=
  mul_pos (by exact_mod_cast positive) (zpow_pos two_pos e)

theorem magnitude_beyond (m : Nat) (e : Int) (bits : m < 2 ^ 53) (fits : e ≤ 971) : (m : Rat) * 2 ^ e < beyond := by
  have finite := multiple_finite m e (by simpa using bits) fits
  exact (le_abs_self _).trans_lt (by exact_mod_cast finite)

theorem magnitude_top (m : Nat) (e : Int) (bits : m < 2 ^ 53) (fits : e ≤ 971) :
    (m : Rat) * 2 ^ e = beyond - 2 * coarseHalf ∨ (m : Rat) * 2 ^ e ≤ beyond - 4 * coarseHalf := by
  have units := beyond_units
  have unit := coarse_half_positive
  by_cases last : e = 971
  · rw [last, coarse_unit]
    rcases (Nat.le_sub_one_of_lt bits).eq_or_lt with largest | smaller
    · left
      rw [largest, units]
      norm_num
      ring
    · right
      have below : (m : Rat) ≤ 2 ^ 53 - 2 := by
        rw [le_sub_iff_add_le]
        exact_mod_cast (by omega : m + 2 ≤ 2 ^ 53)
      have scaled := mul_le_mul_of_nonneg_right below (by linarith : 0 ≤ 2 * coarseHalf)
      linarith
  · right
    have short : (m : Rat) ≤ 2 ^ 53 := by exact_mod_cast bits.le
    have lower : (2 : Rat) ^ e ≤ coarseHalf := zpow_le_zpow_right₀ one_le_two (by omega)
    have scaled := mul_le_mul short lower (zpow_nonneg zero_le_two e) (by norm_num)
    linarith

-- A larger exponent means a larger number, since only the least exponent leaves bits unused.
theorem magnitude_lt (m n : Nat) (e f : Int) (bits : m < 2 ^ 53) (full : 2 ^ 52 ≤ n ∨ f = -1074) (low : -1074 ≤ e)
    (order : e < f) : (m : Rat) * 2 ^ e < n * 2 ^ f := by
  have large : 2 ^ 52 ≤ n := full.resolve_right (by omega)
  have short : (m : Rat) < 2 ^ (53 : Int) := by exact_mod_cast bits
  have long : (2 : Rat) ^ (52 : Int) ≤ n := by exact_mod_cast large
  calc (m : Rat) * 2 ^ e
      < 2 ^ (53 : Int) * 2 ^ e := mul_lt_mul_of_pos_right short (zpow_pos two_pos e)
    _ = 2 ^ (52 + (e + 1)) := by rw [← zpow_add₀ two_ne_zero]; congr 1; ring
    _ ≤ 2 ^ (52 + f) := zpow_le_zpow_right₀ one_le_two (by omega)
    _ = 2 ^ (52 : Int) * 2 ^ f := zpow_add₀ two_ne_zero 52 f
    _ ≤ n * 2 ^ f := mul_le_mul_of_nonneg_right long (zpow_nonneg zero_le_two f)

theorem magnitude_compare (m n : Nat) (e f : Int) (first : m < 2 ^ 53 ∧ -1074 ≤ e ∧ (2 ^ 52 ≤ m ∨ e = -1074))
    (second : n < 2 ^ 53 ∧ -1074 ≤ f ∧ (2 ^ 52 ≤ n ∨ f = -1074)) :
    (compare e f).then (compare m n) = cmp ((m : Rat) * 2 ^ e) (n * 2 ^ f) := by
  rcases lt_trichotomy e f with less | same | more
  · rw [Int.compare_eq_lt.mpr less, (cmp_eq_lt_iff _ _).mpr (magnitude_lt m n e f first.1 second.2.2 first.2.1 less)]
    rfl
  · subst same
    rw [Int.compare_eq_eq.mpr rfl]
    change compare m n = _
    rcases lt_trichotomy m n with less | same | more
    · have scaled := mul_lt_mul_of_pos_right (Nat.cast_lt.mpr less) (zpow_pos (zero_lt_two' Rat) e)
      rw [Nat.compare_eq_lt.mpr less, (cmp_eq_lt_iff _ _).mpr scaled]
    · rw [same, Nat.compare_eq_eq.mpr rfl, cmp_self_eq_eq]
    · have scaled := mul_lt_mul_of_pos_right (Nat.cast_lt.mpr more) (zpow_pos (zero_lt_two' Rat) e)
      rw [Nat.compare_eq_gt.mpr more, (cmp_eq_gt_iff _ _).mpr scaled]
  · rw [Int.compare_eq_gt.mpr more, (cmp_eq_gt_iff _ _).mpr (magnitude_lt n m f e second.1 first.2.2 second.2.1 more)]
    rfl

theorem signed_cmp_swap (p q : Rat) : cmp (-p) (-q) = (cmp p q).swap := by
  rw [cmp_swap]
  rcases lt_trichotomy p q with less | same | more
  · rw [(cmp_eq_gt_iff _ _).mpr (neg_lt_neg less), (cmp_eq_gt_iff _ _).mpr less]
  · rw [same, cmp_self_eq_eq, cmp_self_eq_eq]
  · rw [(cmp_eq_lt_iff _ _).mpr (neg_lt_neg more), (cmp_eq_lt_iff _ _).mpr more]

theorem compare_value (u v : UnpackedFloat) (first : Normal u ∧ Fits u) (second : Normal v ∧ Fits v)
    (left : u.isNaN = false) (right : v.isNaN = false) :
    u.compare v = some (cmp (unpackedValue u) (unpackedValue v)) := by
  have top := beyond_positive
  have bottom : -beyond < 0 := neg_lt_zero.mpr top
  cases u with
  | notANumber => cases left
  | infinity s =>
      cases v with
      | notANumber => cases right
      | infinity t =>
          cases s <;> cases t
          · exact congrArg some (cmp_self_eq_eq _).symm
          · exact congrArg some ((cmp_eq_lt_iff _ _).mpr (bottom.trans top)).symm
          · exact congrArg some ((cmp_eq_gt_iff _ _).mpr (bottom.trans top)).symm
          · exact congrArg some (cmp_self_eq_eq _).symm
      | zero t =>
          cases s
          · exact congrArg some ((cmp_eq_lt_iff _ _).mpr bottom).symm
          · exact congrArg some ((cmp_eq_gt_iff _ _).mpr top).symm
      | finite t n f positive =>
          have above := magnitude_positive n f positive
          have below := magnitude_beyond n f second.1.1 second.2
          cases s <;> cases t
          · exact congrArg some ((cmp_eq_lt_iff _ _).mpr (neg_lt_neg below)).symm
          · exact congrArg some ((cmp_eq_lt_iff _ _).mpr (bottom.trans above)).symm
          · exact congrArg some ((cmp_eq_gt_iff _ _).mpr ((neg_lt_zero.mpr above).trans top)).symm
          · exact congrArg some ((cmp_eq_gt_iff _ _).mpr below).symm
  | zero s =>
      cases v with
      | notANumber => cases right
      | infinity t =>
          cases t
          · exact congrArg some ((cmp_eq_gt_iff _ _).mpr bottom).symm
          · exact congrArg some ((cmp_eq_lt_iff _ _).mpr top).symm
      | zero t => exact congrArg some (cmp_self_eq_eq _).symm
      | finite t n f positive =>
          have above := magnitude_positive n f positive
          cases t
          · exact congrArg some ((cmp_eq_gt_iff _ _).mpr (neg_lt_zero.mpr above)).symm
          · exact congrArg some ((cmp_eq_lt_iff _ _).mpr above).symm
  | finite s m e nonzero =>
      have high := magnitude_positive m e nonzero
      have low := magnitude_beyond m e first.1.1 first.2
      cases v with
      | notANumber => cases right
      | infinity t =>
          cases s <;> cases t
          · exact congrArg some ((cmp_eq_gt_iff _ _).mpr (neg_lt_neg low)).symm
          · exact congrArg some ((cmp_eq_lt_iff _ _).mpr ((neg_lt_zero.mpr high).trans top)).symm
          · exact congrArg some ((cmp_eq_gt_iff _ _).mpr (bottom.trans high)).symm
          · exact congrArg some ((cmp_eq_lt_iff _ _).mpr low).symm
      | zero t =>
          cases s
          · exact congrArg some ((cmp_eq_lt_iff _ _).mpr (neg_lt_zero.mpr high)).symm
          · exact congrArg some ((cmp_eq_gt_iff _ _).mpr high).symm
      | finite t n f positive =>
          have above := magnitude_positive n f positive
          have magnitudes := magnitude_compare m n e f first.1 second.1
          cases s <;> cases t
          · exact congrArg some ((congrArg Ordering.swap magnitudes).trans (signed_cmp_swap _ _).symm)
          · exact congrArg some ((cmp_eq_lt_iff _ _).mpr ((neg_lt_zero.mpr high).trans above)).symm
          · exact congrArg some ((cmp_eq_gt_iff _ _).mpr ((neg_lt_zero.mpr above).trans high)).symm
          · exact congrArg some magnitudes

theorem ordering_value (a b : Float) (left : a.isNaN = false) (right : b.isNaN = false) :
    ordering? a b = some (cmp (doubleValue a) (doubleValue b)) :=
  compare_value _ _ (unpack_normal _) (unpack_normal _) left right

theorem double_lt_value (a b : Float) (left : a.isNaN = false) (right : b.isNaN = false) :
    a < b ↔ doubleValue a < doubleValue b := by
  rw [double_lt_iff, ordering_value a b left right, Option.some_inj, cmp_eq_lt_iff]

theorem double_le_value (a b : Float) (left : a.isNaN = false) (right : b.isNaN = false) :
    a ≤ b ↔ doubleValue a ≤ doubleValue b := by
  rw [double_le_iff, ordering_value a b left right, Option.some_inj, Option.some_inj, cmp_eq_lt_iff, cmp_eq_eq_iff,
    le_iff_lt_or_eq]

theorem finite_unpacked (u : UnpackedFloat) (normal : Normal u ∧ Fits u) :
    u.isFinite = true ↔ u.isNaN = false ∧ |unpackedValue u| < beyond := by
  have top := beyond_positive
  cases u with
  | notANumber => exact ⟨nofun, fun finite => nomatch finite.1⟩
  | infinity s =>
      have size : |unpackedValue (.infinity s)| = beyond := (signed_abs s beyond).trans (abs_of_pos top)
      exact ⟨nofun, fun finite => absurd size finite.2.ne⟩
  | zero s => exact ⟨fun _ => ⟨rfl, abs_zero.trans_lt top⟩, fun _ => rfl⟩
  | finite s m e positive =>
      have above := magnitude_positive m e positive
      have size : |unpackedValue (.finite s m e positive)| = m * 2 ^ e := (signed_abs s _).trans (abs_of_pos above)
      exact ⟨fun _ => ⟨rfl, size.trans_lt (magnitude_beyond m e normal.1.1 normal.2)⟩, fun _ => rfl⟩

theorem value_within (u : UnpackedFloat) (normal : Normal u ∧ Fits u) : |unpackedValue u| ≤ beyond := by
  have top := beyond_positive
  cases u with
  | notANumber | zero s => exact abs_zero.trans_le top.le
  | infinity s => exact ((signed_abs s beyond).trans (abs_of_pos top)).le
  | finite s m e positive =>
      have above := magnitude_positive m e positive
      exact ((signed_abs s _).trans (abs_of_pos above)).trans_le (magnitude_beyond m e normal.1.1 normal.2).le

theorem value_on_grid (u : UnpackedFloat) (normal : Normal u) (finite : u.isFinite = true) :
    onGrid (unpackedValue u) = unpackedValue u := by
  cases u with
  | notANumber | infinity s => cases finite
  | zero s => exact on_grid_zero
  | finite s m e positive =>
      have fixed := on_grid_fixed m e (by exact_mod_cast normal.1) normal.2.1
      refine (signed_on_grid s _).trans (congrArg (signed s) ?_)
      exact_mod_cast fixed

theorem unpacked_largest (u : UnpackedFloat) (normal : Normal u ∧ Fits u) (finite : u.isFinite = true) :
    |unpackedValue u| = beyond - 2 * coarseHalf ∨ |unpackedValue u| ≤ beyond - 4 * coarseHalf := by
  cases u with
  | notANumber | infinity s => cases finite
  | zero s =>
      right
      have unit := coarse_half_positive
      have units := beyond_units
      change |(0 : Rat)| ≤ _
      rw [abs_zero]
      linarith
  | finite s m e positive =>
      change |signed s _| = _ ∨ |signed s _| ≤ _
      rw [signed_abs, abs_of_pos (magnitude_positive m e positive)]
      exact magnitude_top m e normal.1.1 normal.2

theorem finite_iff (x : Float) : x.isFinite = true ↔ x.isNaN = false ∧ |doubleValue x| < beyond :=
  finite_unpacked _ (unpack_normal _)

theorem finite_value (x : Float) (finite : x.isFinite = true) : |doubleValue x| < beyond := ((finite_iff x).mp finite).2

theorem read_finite (x : Float) (q : Rat) (read : x.isNaN = false ∧ doubleValue x = q) (small : |q| < beyond) :
    x.isFinite = true := by
  obtain ⟨number, value⟩ := read
  rw [finite_iff, value]
  exact ⟨number, small⟩

theorem rounded_value (x : Float) (finite : x.isFinite = true) : rounded (doubleValue x) = doubleValue x := by
  have fixed : onGrid (doubleValue x) = doubleValue x := value_on_grid _ (unpack_normal _).1 finite
  rw [rounded_inside, fixed]
  rw [fixed]
  exact finite_value x finite

theorem double_le_trans (a b c : Float) (first : a ≤ b) (second : b ≤ c) : a ≤ c := by
  have left := double_le_number a b first
  have right := double_le_number b c second
  rw [double_le_value _ _ left.1 left.2] at first
  rw [double_le_value _ _ right.1 right.2] at second
  exact (double_le_value _ _ left.1 right.2).mpr (first.trans second)

theorem double_between_finite (low x high : Float) (below : low ≤ x) (above : x ≤ high) (first : low.isFinite = true)
    (last : high.isFinite = true) : x.isFinite = true := by
  have left := double_le_number _ _ below
  have right := double_le_number _ _ above
  rw [double_le_value _ _ left.1 left.2] at below
  rw [double_le_value _ _ right.1 right.2] at above
  have bottom := (abs_lt.mp (finite_value low first)).1
  have top := (abs_lt.mp (finite_value high last)).2
  exact (finite_iff x).mpr ⟨right.1, abs_lt.mpr ⟨bottom.trans_le below, above.trans_lt top⟩⟩

theorem finite_largest (x : Float) (finite : x.isFinite = true) :
    |doubleValue x| = beyond - 2 * coarseHalf ∨ |doubleValue x| ≤ beyond - 4 * coarseHalf :=
  unpacked_largest _ (unpack_normal _) finite

theorem finite_top (x : Float) (finite : x.isFinite = true) : |doubleValue x| ≤ beyond - 2 * coarseHalf := by
  have unit := coarse_half_positive
  rcases finite_largest x finite with largest | below <;> linarith

end PlanarLP
