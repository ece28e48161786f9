import PlanarLP.Proofs.DoubleArithmetic

set_option autoImplicit false

namespace PlanarLP

open Float.Model (UnpackedFloat Format)
open Float.Model.UnpackedFloat (Sign packComponents unpackSign unpackMantissa unpackExponent)

-- Equal as numbers, or both NaN. No operation tells such doubles apart, except that a quotient
-- shows the sign of a zero divisor.
def Alike (a b : Float) : Prop := (a == b) = true ∨ a.isNaN = true ∧ b.isNaN = true

instance (a b : Float) : Decidable (Alike a b) := inferInstanceAs (Decidable (_ ∨ _))

inductive Twins : UnpackedFloat → UnpackedFloat → Prop
  | same (u : UnpackedFloat) : Twins u u
  | zeros (s t : Sign) : Twins (.zero s) (.zero t)

theorem twins_symm (u v : UnpackedFloat) (twins : Twins u v) : Twins v u := by
  cases twins with
  | same => exact .same _
  | zeros s t => exact .zeros t s

theorem twins_trans (u v w : UnpackedFloat) (first : Twins u v) (second : Twins v w) : Twins u w := by
  cases first with
  | same => exact second
  | zeros s t =>
      cases second with
      | same => exact .zeros s t
      | zeros _ r => exact .zeros s r

theorem magnitudes_equal (m n : Nat) (e f : Int) : (compare e f).then (compare m n) = .eq ↔ e = f ∧ m = n := by
  rw [Ordering.then_eq_eq, Int.compare_eq_eq, Nat.compare_eq_eq]

theorem compare_self (u : UnpackedFloat) (number : u.isNaN = false) : u.compare u = some .eq := by
  cases u with
  | notANumber => cases number
  | infinity s => cases s <;> rfl
  | zero => rfl
  | finite s m e =>
      have same := (magnitudes_equal m m e e).mpr ⟨rfl, rfl⟩
      cases s with
      | positive => exact congrArg some same
      | negative => exact congrArg (fun order => some order.swap) same

theorem equal_twins (u v : UnpackedFloat) (equal : u.compare v = some .eq) : Twins u v := by
  cases u with
  | notANumber => cases equal
  | infinity s =>
      cases v with
      | infinity t =>
          have signs : s = t := by cases s <;> cases t <;> trivial
          exact signs ▸ .same _
      | notANumber | zero | finite => cases s <;> cases equal
  | zero s =>
      cases v with
      | zero t => exact .zeros s t
      | infinity t | finite t => cases t <;> cases equal
      | notANumber => cases equal
  | finite s m e positive =>
      cases v with
      | finite t n f also =>
          have parts : s = t ∧ e = f ∧ m = n := by
            cases s <;> cases t
            · exact ⟨rfl, (magnitudes_equal m n e f).mp (Ordering.swap_eq_eq.mp (Option.some.inj equal))⟩
            · cases equal
            · cases equal
            · exact ⟨rfl, (magnitudes_equal m n e f).mp (Option.some.inj equal)⟩
          obtain ⟨rfl, rfl, rfl⟩ := parts
          exact .same _
      | infinity t => cases s <;> cases t <;> cases equal
      | notANumber | zero => cases s <;> cases equal

theorem double_eq_iff (a b : Float) : (a == b) = true ↔ ordering? a b = some .eq := by
  change (a.toModel.unpack.compare b.toModel.unpack == some .eq) = true ↔ _
  rw [beq_iff_eq]
  rfl

theorem double_equal_value (a b : Float) (left : a.isNaN = false) (right : b.isNaN = false)
    (same : doubleValue a = doubleValue b) : (a == b) = true := by
  rw [double_eq_iff, ordering_value a b left right, same, cmp_self_eq_eq]

theorem alike_iff_twins (a b : Float) : Alike a b ↔ Twins a.toModel.unpack b.toModel.unpack := by
  unfold Alike
  rw [double_eq_iff, ordering?]
  change _ ∨ a.toModel.unpack.isNaN = true ∧ b.toModel.unpack.isNaN = true ↔ _
  generalize a.toModel.unpack = u
  generalize b.toModel.unpack = v
  constructor
  · rintro (equal | ⟨left, right⟩)
    · exact equal_twins u v equal
    · cases u <;> cases left
      cases v <;> cases right
      exact .same _
  · intro twins
    cases twins with
    | zeros => exact .inl rfl
    | same =>
        cases number : u.isNaN with
        | false => exact .inl (compare_self u number)
        | true => exact .inr ⟨rfl, rfl⟩

theorem double_eq_comm (a b : Float) : (a == b) = (b == a) := by
  rw [Bool.eq_iff_iff, double_eq_iff, double_eq_iff, ordering_swap a b]
  cases ordering? a b with
  | none => rfl
  | some order => cases order <;> decide

theorem alike_value (a b : Float) (alike : Alike a b) : a.isNaN = b.isNaN ∧ doubleValue a = doubleValue b := by
  rw [alike_iff_twins] at alike
  change a.toModel.unpack.isNaN = b.toModel.unpack.isNaN ∧
    unpackedValue a.toModel.unpack = unpackedValue b.toModel.unpack
  generalize a.toModel.unpack = u at alike ⊢
  generalize b.toModel.unpack = v at alike ⊢
  cases alike <;> exact ⟨rfl, rfl⟩

theorem alike_refl (a : Float) : Alike a a := (alike_iff_twins a a).mpr (.same _)

theorem alike_symm (a b : Float) (alike : Alike a b) : Alike b a :=
  (alike_iff_twins b a).mpr (twins_symm _ _ ((alike_iff_twins a b).mp alike))

theorem alike_trans (a b c : Float) (first : Alike a b) (second : Alike b c) : Alike a c :=
  (alike_iff_twins a c).mpr (twins_trans _ _ _ ((alike_iff_twins a b).mp first) ((alike_iff_twins b c).mp second))

section Repacking

variable (bits : BitVec Format.binary64.numBits)

theorem rejoined : packComponents Format.binary64 (Sign.ofBitVec (unpackSign bits)) (unpackExponent bits)
    (unpackMantissa bits) = bits := by
  have sign (v : BitVec 1) : (Sign.ofBitVec v).toBitVec = v := by
    revert v
    decide
  delta packComponents unpackExponent unpackMantissa
  rw [sign]
  delta unpackSign
  ext i inside
  grind

theorem repacked_short (least : unpackExponent bits = 0#11) (positive : 0 < (unpackMantissa bits).toNat) :
    UnpackedFloat.pack Format.binary64
      (.finite (Sign.ofBitVec (unpackSign bits)) (unpackMantissa bits).toNat (-1074) positive) = bits := by
  have fraction : (unpackMantissa bits).toNat < 2 ^ 52 := BitVec.isLt _
  have width := (Nat.log2_lt positive.ne').mpr fraction
  rw [pack_finite, if_neg (by decide), if_neg (by omega), BitVec.ofNat_toNat, BitVec.setWidth_eq, ← least]
  exact rejoined bits

theorem repacked_full (notTop : unpackExponent bits ≠ -1#11) (positive : 0 < (1#1 ++ unpackMantissa bits).toNat) :
    UnpackedFloat.pack Format.binary64 (.finite (Sign.ofBitVec (unpackSign bits)) (1#1 ++ unpackMantissa bits).toNat
      ((unpackExponent bits).toNat - 1075) positive) = bits := by
  have fraction : (unpackMantissa bits).toNat < 2 ^ 52 := BitVec.isLt _
  have range : (unpackExponent bits).toNat < 2 ^ 11 := BitVec.isLt _
  have below : (unpackExponent bits).toNat ≠ 2047 := fun same => notTop (BitVec.eq_of_toNat_eq same)
  have full : (1#1 ++ unpackMantissa bits).toNat = 2 ^ 52 + (unpackMantissa bits).toNat := leading_bit _
  have lower := (Nat.le_log2 positive.ne').mpr ((Nat.le_add_right _ _).trans_eq full.symm)
  have upper := (Nat.log2_lt positive.ne').mpr (full.trans_lt (by omega : _ < 2 ^ 53))
  have mantissa : BitVec.ofNat 52 (1#1 ++ unpackMantissa bits).toNat = unpackMantissa bits := by
    refine BitVec.eq_of_toNat_eq ?_
    rw [BitVec.toNat_ofNat, full]
    omega
  rw [pack_finite, sub_add_cancel, Int.toNat_natCast, if_neg (by omega), if_pos (by omega), mantissa,
    BitVec.ofNat_toNat, BitVec.setWidth_eq]
  exact rejoined bits

theorem repacked (valid : Format.binary64.Valid bits) :
    UnpackedFloat.pack Format.binary64 (UnpackedFloat.unpack Format.binary64 bits) = bits := by
  unfold UnpackedFloat.unpack
  dsimp only
  by_cases top : unpackExponent bits = -1#11
  · rw [if_pos top]
    by_cases empty : unpackMantissa bits = 0#52
    · rw [if_pos empty]
      have whole := rejoined bits
      rw [top, empty] at whole
      exact whole
    · rw [if_neg empty]
      exact (valid.eq_packedNaN top empty).symm
  · rw [if_neg top]
    by_cases least : unpackExponent bits = 0#11
    · rw [if_pos least]
      by_cases empty : unpackMantissa bits = 0#52
      · rw [dif_pos empty]
        have whole := rejoined bits
        rw [least, empty] at whole
        exact whole
      · rw [dif_neg empty]
        have exponent : ((unpackExponent bits).toNat : Int) -
            (Format.binary64.exponentBias + Format.binary64.mantissaBitsWithoutImplicit) + 1 = -1074 := by
          rw [least]
          rfl
        rw [exponent]
        exact repacked_short bits least _
    · rw [if_neg least]
      exact repacked_full bits top _

end Repacking

theorem double_eq_of_unpacked (a b : Float) (same : a.toModel.unpack = b.toModel.unpack) : a = b := by
  have left := repacked a.toModel.toBits.toBitVec a.toModel.valid
  have right := repacked b.toModel.toBits.toBitVec b.toModel.valid
  have bits : a.toModel.toBits.toBitVec = b.toModel.toBits.toBitVec :=
    left.symm.trans ((congrArg (UnpackedFloat.pack Format.binary64) same).trans right)
  obtain ⟨⟨⟨_⟩, _⟩⟩ := a
  obtain ⟨⟨⟨_⟩, _⟩⟩ := b
  cases bits
  rfl

theorem infinite_cases (x : Float) (number : x.isNaN = false) (unbounded : ¬ x.isFinite = true) :
    x = 1 / 0 ∨ x = -1 / 0 := by
  have same (y : Float) (alike : x.toModel.unpack = y.toModel.unpack) : x = y := double_eq_of_unpacked x y alike
  change x.toModel.unpack.isNaN = false at number
  change ¬ x.toModel.unpack.isFinite = true at unbounded
  generalize unpacked : x.toModel.unpack = u at same number unbounded
  cases u with
  | notANumber => cases number
  | zero | finite => exact absurd rfl unbounded
  | infinity s =>
      cases s with
      | positive => exact .inl (same _ rfl)
      | negative => exact .inr (same _ rfl)

def IsZero (x : Float) : Prop := x = 0 ∨ x = -0

theorem zero_unpacked (x : Float) (s : Sign) (unpacked : x.toModel.unpack = .zero s) : IsZero x := by
  cases s with
  | positive => exact .inl (double_eq_of_unpacked x 0 unpacked)
  | negative => exact .inr (double_eq_of_unpacked x (-0) unpacked)

theorem alike_cases (a b : Float) (alike : Alike a b) : a = b ∨ IsZero a ∧ IsZero b := by
  rw [alike_iff_twins] at alike
  generalize first : a.toModel.unpack = u at alike
  generalize second : b.toModel.unpack = v at alike
  cases alike with
  | same => exact .inl (double_eq_of_unpacked a b (first.trans second.symm))
  | zeros s t => exact .inr ⟨zero_unpacked a s first, zero_unpacked b t second⟩

theorem value_determines (a b : Float) (left : a.isNaN = false) (right : b.isNaN = false)
    (same : doubleValue a = doubleValue b) (nonzero : doubleValue b ≠ 0) : a = b := by
  rcases alike_cases a b (.inl (double_equal_value a b left right same)) with equal | ⟨_, rfl | rfl⟩
  · exact equal
  · exact absurd rfl nonzero
  · exact absurd rfl nonzero

theorem zero_alike (a b : Float) (zero : IsZero a) (alike : Alike a b) : IsZero b := by
  rcases alike_cases a b alike with rfl | ⟨_, also⟩
  · exact zero
  · exact also

-- What takes the two zeros to numbers that are alike takes all numbers that are alike to such.
theorem alike_map (f : Float → Float) (zeros : Alike (f 0) (f (-0))) (a b : Float) (alike : Alike a b) :
    Alike (f a) (f b) := by
  have turned : Alike (f (-0)) (f 0) := alike_symm _ _ zeros
  rcases alike_cases a b alike with rfl | ⟨rfl | rfl, rfl | rfl⟩
  · exact alike_refl _
  · exact alike_refl _
  · exact zeros
  · exact turned
  · exact alike_refl _

theorem packed_twins (u v : UnpackedFloat) (twins : Twins u v) :
    Twins (Float.Model.pack u).unpack (Float.Model.pack v).unpack := by
  cases twins with
  | same => exact .same _
  | zeros s t =>
      rw [packed_fits (.zero s) trivial trivial, packed_fits (.zero t) trivial trivial]
      exact .zeros s t

theorem neg_unpacked (a : Float) : (-a).toModel.unpack = a.toModel.unpack.neg :=
  packed_fits _ (neg_normal _ (unpack_normal _)).1 (neg_normal _ (unpack_normal _)).2

section Operations

variable (a b c d : Float)

theorem double_add_comm : a + b = b + a := by
  suffices swapped : UnpackedFloat.add Format.binary64 a.toModel.unpack b.toModel.unpack =
      UnpackedFloat.add Format.binary64 b.toModel.unpack a.toModel.unpack by
    exact congrArg (fun u => Float.ofModel (Float.Model.pack u)) swapped
  generalize a.toModel.unpack = u
  generalize b.toModel.unpack = v
  cases u with
  | notANumber => cases v <;> rfl
  | infinity s | zero s =>
      cases v with
      | infinity t | zero t => cases s <;> cases t <;> rfl
      | notANumber | finite => rfl
  | finite s m e =>
      cases v with
      | notANumber | infinity | zero => rfl
      | finite t n f =>
          change UnpackedFloat.normalize _ (_ + _) (min e f) _ = UnpackedFloat.normalize _ (_ + _) (min f e) _
          rw [min_comm f e, add_comm (s.apply _)]

theorem double_mul_comm : a * b = b * a := by
  suffices swapped : UnpackedFloat.mul Format.binary64 a.toModel.unpack b.toModel.unpack =
      UnpackedFloat.mul Format.binary64 b.toModel.unpack a.toModel.unpack by
    exact congrArg (fun u => Float.ofModel (Float.Model.pack u)) swapped
  generalize a.toModel.unpack = u
  generalize b.toModel.unpack = v
  have signs (s t : Sign) : s * t = t * s := by cases s <;> cases t <;> rfl
  cases u with
  | notANumber => cases v <;> rfl
  | infinity s | zero s =>
      cases v with
      | notANumber => rfl
      | infinity t | zero t | finite t => cases s <;> cases t <;> rfl
  | finite s m e =>
      cases v with
      | notANumber => rfl
      | infinity t | zero t => cases s <;> cases t <;> rfl
      | finite t n f =>
          change UnpackedFloat.roundWithAccuracy _ (s * t) (m * n) (e + f) _ =
            UnpackedFloat.roundWithAccuracy _ (t * s) (n * m) (f + e) _
          rw [signs, mul_comm m, add_comm e]

theorem double_sub_eq : a - b = a + -b := by
  change Float.ofModel (Float.Model.pack (UnpackedFloat.sub _ a.toModel.unpack b.toModel.unpack)) =
    Float.ofModel (Float.Model.pack (UnpackedFloat.add _ a.toModel.unpack (-b).toModel.unpack))
  rw [sub_as_add, neg_unpacked]

theorem zero_plus : Alike (0 + c) (-0 + c) := by
  refine (alike_iff_twins _ _).mpr (packed_twins _ _ ?_)
  change Twins (UnpackedFloat.add _ (.zero .positive) c.toModel.unpack)
    (UnpackedFloat.add _ (.zero .negative) c.toModel.unpack)
  cases c.toModel.unpack with
  | zero t => cases t <;> exact .zeros _ _
  | notANumber | infinity | finite => exact .same _

theorem zero_times : Alike (0 * c) (-0 * c) := by
  refine (alike_iff_twins _ _).mpr (packed_twins _ _ ?_)
  change Twins (UnpackedFloat.mul _ (.zero .positive) c.toModel.unpack)
    (UnpackedFloat.mul _ (.zero .negative) c.toModel.unpack)
  cases c.toModel.unpack with
  | zero | finite => exact .zeros _ _
  | notANumber | infinity => exact .same _

theorem zero_over : Alike (0 / c) (-0 / c) := by
  refine (alike_iff_twins _ _).mpr (packed_twins _ _ ?_)
  change Twins (UnpackedFloat.div _ (.zero .positive) c.toModel.unpack)
    (UnpackedFloat.div _ (.zero .negative) c.toModel.unpack)
  cases c.toModel.unpack with
  | infinity | finite => exact .zeros _ _
  | notANumber | zero => exact .same _

section Alike

variable {a b c d} (first : Alike a b)

include first

theorem neg_alike : Alike (-a) (-b) := alike_map (fun x => -x) (by decide +kernel) a b first

theorem abs_alike : Alike a.abs b.abs := alike_map Float.abs (by decide +kernel) a b first

theorem hundredths_alike : Alike (Scalar.hundredths a) (Scalar.hundredths b) :=
  alike_map Scalar.hundredths (by decide +kernel) a b first

variable (second : Alike c d)

include second

theorem add_alike : Alike (a + c) (b + d) := by
  have left : Alike (a + c) (b + c) := alike_map (fun x => x + c) (zero_plus c) a b first
  have right : Alike (c + b) (d + b) := alike_map (fun x => x + b) (zero_plus b) c d second
  rw [double_add_comm c b, double_add_comm d b] at right
  exact alike_trans _ _ _ left right

theorem sub_alike : Alike (a - c) (b - d) := by
  rw [double_sub_eq, double_sub_eq]
  exact add_alike first (neg_alike second)

theorem mul_alike : Alike (a * c) (b * d) := by
  have left : Alike (a * c) (b * c) := alike_map (fun x => x * c) (zero_times c) a b first
  have right : Alike (c * b) (d * b) := alike_map (fun x => x * b) (zero_times b) c d second
  rw [double_mul_comm c b, double_mul_comm d b] at right
  exact alike_trans _ _ _ left right

theorem div_alike (nonzero : ¬ IsZero c) : Alike (a / c) (b / d) := by
  rcases alike_cases c d second with rfl | ⟨zero, _⟩
  · exact alike_map (fun x => x / c) (zero_over c) a b first
  · exact absurd zero nonzero

end Alike

end Operations

section Order

variable {a b c d : Float}

theorem twins_compare (u v w : UnpackedFloat) (twins : Twins u v) : u.compare w = v.compare w := by
  cases twins with
  | same => rfl
  | zeros s t =>
      cases w with
      | infinity r | finite r => cases r <;> rfl
      | notANumber | zero => rfl

theorem ordering_alike (first : Alike a b) (second : Alike c d) : ordering? a c = ordering? b d := by
  have left : ordering? a c = ordering? b c := twins_compare _ _ _ ((alike_iff_twins a b).mp first)
  have right : ordering? c b = ordering? d b := twins_compare _ _ _ ((alike_iff_twins c d).mp second)
  rw [left, ordering_swap c b, right, ← ordering_swap]

theorem lt_alike (first : Alike a b) (second : Alike c d) : a < c ↔ b < d := by
  rw [double_lt_iff, double_lt_iff, ordering_alike first second]

theorem le_alike (first : Alike a b) (second : Alike c d) : a ≤ c ↔ b ≤ d := by
  rw [double_le_iff, double_le_iff, ordering_alike first second]

theorem eq_alike (first : Alike a b) (second : Alike c d) : (a == c) = (b == d) := by
  rw [Bool.eq_iff_iff, double_eq_iff, double_eq_iff, ordering_alike first second]

theorem number_alike (alike : Alike a b) (number : a.isNaN = false) : (a == b) = true :=
  alike.resolve_right fun undefined => Bool.false_ne_true (number.symm.trans undefined.1)

end Order

end PlanarLP
