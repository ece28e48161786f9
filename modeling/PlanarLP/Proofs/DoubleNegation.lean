import PlanarLP.Proofs.DoubleEquality

set_option autoImplicit false

namespace PlanarLP

open Float.Model (UnpackedFloat Format)
open Float.Model.UnpackedFloat (Sign packComponents unpackSign unpackMantissa unpackExponent
  unpackMantissa_packComponents unpackExponent_packComponents)

theorem sign_neg_apply (s : Sign) (n : Int) : (-s).apply n = -s.apply n := by
  cases s with
  | positive => rfl
  | negative => exact (Int.neg_neg n).symm

theorem opposite_bits (bits other : BitVec Format.binary64.numBits)
    (sign : Sign.ofBitVec (unpackSign other) = -Sign.ofBitVec (unpackSign bits))
    (exponent : unpackExponent other = unpackExponent bits) (mantissa : unpackMantissa other = unpackMantissa bits) :
    UnpackedFloat.unpack Format.binary64 other = (UnpackedFloat.unpack Format.binary64 bits).neg := by
  unfold UnpackedFloat.unpack
  dsimp only
  rw [sign, exponent]
  by_cases top : unpackExponent bits = -1#11
  · rw [if_pos top, if_pos top, mantissa]
    split_ifs <;> rfl
  · rw [if_neg top, if_neg top]
    by_cases least : unpackExponent bits = 0#11
    · rw [if_pos least, if_pos least]
      by_cases empty : unpackMantissa bits = 0#52
      · rw [dif_pos (mantissa.trans empty), dif_pos empty]
        rfl
      · rw [dif_neg (mantissa.trans_ne empty), dif_neg empty]
        congr 1
        rw [mantissa]
    · rw [if_neg least, if_neg least]
      congr 1
      rw [mantissa]

theorem opposite_components (s : Sign) (biased : BitVec 11) (fraction : BitVec 52) :
    UnpackedFloat.unpack Format.binary64 (packComponents Format.binary64 (-s) biased fraction) =
      (UnpackedFloat.unpack Format.binary64 (packComponents Format.binary64 s biased fraction)).neg := by
  refine opposite_bits _ _ ?_ ?_ ?_
  · rw [packed_sign, packed_sign]
  · rw [unpackExponent_packComponents, unpackExponent_packComponents]
  · rw [unpackMantissa_packComponents, unpackMantissa_packComponents]

theorem neg_packed (u : UnpackedFloat) : (Float.Model.pack u.neg).unpack = (Float.Model.pack u).unpack.neg := by
  cases u with
  | notANumber => rfl
  | infinity s | zero s => cases s <;> rfl
  | finite s m e positive =>
      change UnpackedFloat.unpack _ (UnpackedFloat.pack _ (.finite (-s) m e positive)) =
        (UnpackedFloat.unpack _ (UnpackedFloat.pack _ (.finite s m e positive))).neg
      rw [pack_finite, pack_finite]
      split_ifs
      · cases s <;> rfl
      · exact opposite_components s _ _
      · exact opposite_components s _ _

theorem neg_settled (s : Sign) (m : Nat) (e : Int) : settled (-s) m e = (settled s m e).neg := by
  unfold settled
  by_cases zero : m = 0
  · rw [dif_pos zero, dif_pos zero]
    rfl
  · rw [dif_neg zero, dif_neg zero]
    rfl

theorem neg_rounded (s : Sign) (m : Nat) (e : Int) (accuracy : UnpackedFloat.Accuracy) :
    UnpackedFloat.roundWithAccuracy Format.binary64 (-s) m e accuracy =
      (UnpackedFloat.roundWithAccuracy Format.binary64 s m e accuracy).neg :=
  neg_settled s _ _

theorem neg_normalized (n e : Int) (s : Sign) :
    Twins (UnpackedFloat.normalize Format.binary64 (-n) e s) (UnpackedFloat.normalize Format.binary64 n e s).neg := by
  unfold UnpackedFloat.normalize
  rcases lt_trichotomy n 0 with negative | none | positive
  · rw [Int.compare_eq_lt.mpr negative, Int.compare_eq_gt.mpr (neg_pos.mpr negative)]
    exact neg_rounded .negative _ _ _ ▸ .same _
  · rw [none, neg_zero, Int.compare_eq_eq.mpr rfl]
    exact .zeros _ _
  · rw [Int.compare_eq_gt.mpr positive, Int.compare_eq_lt.mpr (neg_neg_of_pos positive), neg_neg]
    exact neg_rounded .positive _ _ _ ▸ .same _

theorem neg_sum (u v : UnpackedFloat) :
    Twins (UnpackedFloat.add Format.binary64 u.neg v.neg) (UnpackedFloat.add Format.binary64 u v).neg := by
  cases u with
  | notANumber => cases v <;> exact .same _
  | infinity s =>
      cases v with
      | infinity t => cases s <;> cases t <;> exact .same _
      | notANumber | zero | finite => exact .same _
  | zero s =>
      cases v with
      | zero t => cases s <;> cases t <;> exact .zeros _ _
      | notANumber | infinity | finite => exact .same _
  | finite s m e =>
      cases v with
      | notANumber | infinity | zero => exact .same _
      | finite t n f =>
          change Twins (UnpackedFloat.normalize _ ((-s).apply _ + (-t).apply _) _ _) _
          rw [sign_neg_apply, sign_neg_apply, ← neg_add]
          exact neg_normalized _ _ _

theorem neg_product (u v : UnpackedFloat) :
    UnpackedFloat.mul Format.binary64 u.neg v = (UnpackedFloat.mul Format.binary64 u v).neg := by
  have signs (s t : Sign) : -s * t = -(s * t) := by cases s <;> cases t <;> rfl
  cases u with
  | notANumber => cases v <;> rfl
  | infinity s | zero s =>
      cases v with
      | notANumber => rfl
      | infinity t | zero t | finite t => cases s <;> cases t <;> rfl
  | finite s m e =>
      cases v with
      | notANumber => rfl
      | infinity t | zero t => cases s <;> cases t <;> rfl
      | finite t n f =>
          change UnpackedFloat.roundWithAccuracy _ (-s * t) _ _ _ = _
          rw [signs, neg_rounded]
          rfl

theorem neg_quotient (u v : UnpackedFloat) :
    UnpackedFloat.div Format.binary64 u.neg v.neg = UnpackedFloat.div Format.binary64 u v := by
  have signs (s t : Sign) : -s / -t = s / t := by cases s <;> cases t <;> rfl
  cases u with
  | notANumber => cases v <;> rfl
  | infinity s | zero s =>
      cases v with
      | notANumber => rfl
      | infinity t | zero t | finite t => cases s <;> cases t <;> rfl
  | finite s m e =>
      cases v with
      | notANumber => rfl
      | infinity t | zero t => cases s <;> cases t <;> rfl
      | finite t n f =>
          change UnpackedFloat.roundWithAccuracy _ (-s / -t) _ _ _ = _
          rw [signs]
          rfl

section Doubles

variable (a b : Float)

theorem double_neg_neg : -(-a) = a := by
  refine double_eq_of_unpacked _ _ ?_
  rw [neg_unpacked, neg_unpacked]
  cases a.toModel.unpack with
  | notANumber => rfl
  | infinity s | zero s | finite s => cases s <;> rfl

theorem zero_of_neg (zero : IsZero (-a)) : IsZero a := by
  have back := double_neg_neg a
  rcases zero with same | same
  · rw [same] at back
    exact .inr back.symm
  · rw [same, double_neg_neg] at back
    exact .inl back.symm

theorem neg_add_neg : Alike (-a + -b) (-(a + b)) := by
  rw [alike_iff_twins, neg_unpacked]
  change Twins (Float.Model.pack (UnpackedFloat.add _ (-a).toModel.unpack (-b).toModel.unpack)).unpack
    (Float.Model.pack (UnpackedFloat.add _ a.toModel.unpack b.toModel.unpack)).unpack.neg
  rw [neg_unpacked, neg_unpacked, ← neg_packed]
  exact packed_twins _ _ (neg_sum _ _)

theorem double_neg_mul : -a * b = -(a * b) := by
  refine double_eq_of_unpacked _ _ ?_
  rw [neg_unpacked]
  change (Float.Model.pack (UnpackedFloat.mul _ (-a).toModel.unpack b.toModel.unpack)).unpack =
    (Float.Model.pack (UnpackedFloat.mul _ a.toModel.unpack b.toModel.unpack)).unpack.neg
  rw [neg_unpacked, neg_product, neg_packed]

theorem double_neg_div_neg : -a / -b = a / b := by
  change Float.ofModel (Float.Model.pack (UnpackedFloat.div _ (-a).toModel.unpack (-b).toModel.unpack)) =
    Float.ofModel (Float.Model.pack (UnpackedFloat.div _ a.toModel.unpack b.toModel.unpack))
  rw [neg_unpacked, neg_unpacked, neg_quotient]

theorem sub_swapped : Alike (b - a) (-(a - b)) := by
  have turned := neg_add_neg a (-b)
  rw [double_neg_neg, ← double_sub_eq, double_add_comm, ← double_sub_eq] at turned
  exact turned

theorem double_abs_neg : (-a).abs = a.abs := by
  refine congrArg (fun u => Float.ofModel (Float.Model.pack u)) ?_
  rw [neg_unpacked]
  cases a.toModel.unpack <;> rfl

theorem double_neg_number : (-a).isNaN = a.isNaN := by
  change (-a).toModel.unpack.isNaN = a.toModel.unpack.isNaN
  rw [neg_unpacked]
  cases a.toModel.unpack <;> rfl

theorem double_neg_value : doubleValue (-a) = -doubleValue a := by
  rw [doubleValue, neg_unpacked, neg_value, doubleValue]

theorem double_neg_finite (finite : a.isFinite = true) : (-a).isFinite = true := by
  change (-a).toModel.unpack.isFinite = true
  rw [neg_unpacked, neg_finite_iff]
  exact finite

theorem double_neg_lt : -a < -b ↔ b < a := by
  have compared (x y : Float) (less : x < y) := double_le_number x y (double_le_of_lt x y less)
  by_cases numbers : a.isNaN = false ∧ b.isNaN = false
  · have left := (double_neg_number a).trans numbers.1
    have right := (double_neg_number b).trans numbers.2
    rw [double_lt_value _ _ left right, double_lt_value _ _ numbers.2 numbers.1, double_neg_value, double_neg_value,
      neg_lt_neg_iff]
  · constructor
    · intro less
      have found := compared _ _ less
      rw [double_neg_number, double_neg_number] at found
      exact absurd found numbers
    · intro less
      exact absurd (compared _ _ less).symm numbers

end Doubles

end PlanarLP
