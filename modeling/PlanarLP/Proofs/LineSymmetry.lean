import PlanarLP.Proofs.DoubleNegation
import PlanarLP.Proofs.PointEquality
import PlanarLP.Proofs.Validation

set_option autoImplicit false

namespace PlanarLP

theorem quotient_turned (a b c d : Float) (numerators : Alike c (-a)) (denominators : Alike d (-b))
    (nonzero : ¬ IsZero b) : Alike (c / d) (a / b) := by
  rw [← double_neg_div_neg a b]
  refine div_alike numerators denominators fun zero => nonzero ?_
  exact zero_of_neg b (zero_alike d (-b) zero denominators)

section Magnitudes

variable (a b : Float)

theorem double_abs_number : a.abs.isNaN = a.isNaN := by
  have normal := unpack_normal a.toModel.toBits.toBitVec
  have unpacked : a.abs.toModel.unpack = a.toModel.unpack.abs :=
    packed_fits _ (abs_normal _ normal).1 (abs_normal _ normal).2
  change a.abs.toModel.unpack.isNaN = a.toModel.unpack.isNaN
  rw [unpacked]
  cases a.toModel.unpack <;> rfl

theorem max_value (left : a.isNaN = false) (right : b.isNaN = false) :
    (Scalar.max a b).isNaN = false ∧ doubleValue (Scalar.max a b) = max (doubleValue a) (doubleValue b) := by
  have itself := double_equal_value b b right right rfl
  unfold Scalar.max
  by_cases less : b ≤ a
  · rw [if_pos less]
    exact ⟨left, (max_eq_left ((double_le_value b a right left).mp less)).symm⟩
  · have above := (double_lt_value a b left right).mp (double_lt_of_not_le _ _ right left less)
    rw [if_neg less, if_pos itself]
    exact ⟨right, (max_eq_right above.le).symm⟩

variable (unsigned : 0 ≤ a)

include unsigned

theorem unsigned_infinite (unbounded : ¬ a.isFinite = true) : a = 1 / 0 := by
  rcases infinite_cases a (double_le_number _ _ unsigned).2 unbounded with same | same
  · exact same
  · rw [same] at unsigned
    exact absurd unsigned (by decide +kernel)

theorem tolerated_unsigned : 0 ≤ (Scalar.ofDecimal 1 12 : Float) * a := by
  by_cases finite : a.isFinite = true
  · have share := (double_le_value 0 (Scalar.ofDecimal 1 12) rfl rfl).mp (by decide +kernel)
    have nonnegative := (double_le_value 0 a rfl (finite_number a finite)).mp unsigned
    obtain ⟨number, value⟩ := mul_value (Scalar.ofDecimal 1 12) a rfl finite
    refine (double_le_value _ _ rfl number).mpr ?_
    rw [value]
    exact rounded_nonnegative _ (mul_nonneg share nonnegative)
  · rw [unsigned_infinite a unsigned finite]
    decide +kernel

end Magnitudes

namespace Line

def Finite (l : Line Float) : Prop := l.a.isFinite = true ∧ l.b.isFinite = true ∧ l.c.isFinite = true

def mirrored (l : Line Float) : Line Float := ⟨l.b, l.a, l.c⟩

end Line

def Point.mirrored (p : Point Float) : Point Float := ⟨p.y, p.x⟩

theorem boundaries_finite (problem : Problem Float) :
    problem.first.boundary.Finite ∧ problem.second.boundary.Finite := by
  have finite := ((problem_fault_none _ _ _ _).mp problem.valid).1
  simp only [Problem.coefficients, List.forall_mem_cons] at finite
  obtain ⟨a1, b1, c1, a2, b2, c2, _⟩ := finite
  exact ⟨⟨a1, b1, c1⟩, a2, b2, c2⟩

theorem magnitude_value (l : Line Float) (finite : l.Finite) :
    l.magnitude.isFinite = true ∧ doubleValue l.magnitude = max |doubleValue l.a| |doubleValue l.b| := by
  obtain ⟨a, b, _⟩ := finite
  have left := (double_abs_number l.a).trans (finite_number _ a)
  have right := (double_abs_number l.b).trans (finite_number _ b)
  obtain ⟨number, value⟩ := max_value l.a.abs l.b.abs left right
  rw [abs_double_value, abs_double_value] at value
  have below := max_lt (finite_value _ a) (finite_value _ b)
  refine ⟨(finite_iff _).mpr ⟨number, ?_⟩, value⟩
  exact (congrArg abs value).trans_lt ((abs_of_nonneg (le_max_of_le_left (abs_nonneg _))).trans_lt below)

section Pairs

variable (l m : Line Float) (first : l.Finite) (second : m.Finite)

include first second

theorem scale_unsigned : 0 ≤ l.magnitude * m.magnitude := by
  obtain ⟨left, leftValue⟩ := magnitude_value l first
  obtain ⟨right, rightValue⟩ := magnitude_value m second
  obtain ⟨number, value⟩ := mul_value _ _ left right
  refine (double_le_value _ _ rfl number).mpr ?_
  rw [value, leftValue, rightValue]
  exact rounded_nonnegative _
    (mul_nonneg (le_max_of_le_left (abs_nonneg _)) (le_max_of_le_left (abs_nonneg _)))

-- A zero is never above the tolerated share of the scale, be that infinite.
theorem separate_nonzero (separate : l.isParallel m = false) : ¬ IsZero (l.determinant m) := by
  intro zero
  have size : (l.determinant m).abs = 0 := by
    rcases zero with same | same <;> rw [same] <;> rfl
  have small : Scalar.abs (l.determinant m) ≤ Scalar.ofDecimal 1 12 * (l.magnitude * m.magnitude) := by
    change (l.determinant m).abs ≤ _
    rw [size]
    exact tolerated_unsigned _ (scale_unsigned l m first second)
  have parallel : l.isParallel m = true := Bool.or_eq_true_iff.mpr (.inr (decide_eq_true small))
  exact Bool.false_ne_true (separate.symm.trans parallel)

omit first second in
theorem parallel_turned (turned back : Line Float) (determinants : Alike (turned.determinant back) (-l.determinant m))
    (scales : Alike (turned.magnitude * back.magnitude) (l.magnitude * m.magnitude)) :
    turned.isParallel back = l.isParallel m := by
  have sizes : Alike (turned.determinant back).abs (l.determinant m).abs := by
    have abs := abs_alike determinants
    rwa [double_abs_neg] at abs
  unfold Line.isParallel
  refine congrArg₂ or (eq_alike scales (alike_refl 0)) ?_
  rw [decide_eq_decide]
  exact le_alike sizes (mul_alike (alike_refl _) scales)

-- The determinant and both numerators turn their signs. A determinant that is zero counts as
-- parallel, so the sign of a zero never reaches a quotient.
theorem intersection_exchanged : Option.Rel Point.Alike (m.intersection? l) (l.intersection? m) := by
  have determinants : Alike (m.determinant l) (-l.determinant m) := sub_swapped _ _
  have scales : Alike (m.magnitude * l.magnitude) (l.magnitude * m.magnitude) := by
    rw [double_mul_comm]
    exact alike_refl _
  unfold Line.intersection?
  rw [parallel_turned l m m l determinants scales]
  cases separate : l.isParallel m with
  | true => exact .none
  | false =>
      have nonzero := separate_nonzero l m first second separate
      exact .some ⟨quotient_turned _ _ _ _ (sub_swapped _ _) determinants nonzero,
        quotient_turned _ _ _ _ (sub_swapped _ _) determinants nonzero⟩

omit second in
theorem magnitude_mirrored : Alike l.mirrored.magnitude l.magnitude := by
  obtain ⟨a, b, c⟩ := first
  obtain ⟨finite, value⟩ := magnitude_value l ⟨a, b, c⟩
  obtain ⟨turned, also⟩ := magnitude_value l.mirrored ⟨b, a, c⟩
  exact .inl (double_equal_value _ _ (finite_number _ turned) (finite_number _ finite)
    (also.trans ((max_comm _ _).trans value.symm)))

omit first second in
theorem products_mirrored (a b c d : Float) : Alike (b * c - d * a) (-(a * d - c * b)) := by
  rw [double_mul_comm b c, double_mul_comm d a]
  exact sub_swapped _ _

theorem intersection_mirrored :
    Option.Rel (fun p q => p.Alike q.mirrored) (l.mirrored.intersection? m.mirrored) (l.intersection? m) := by
  have determinants : Alike (l.mirrored.determinant m.mirrored) (-l.determinant m) := products_mirrored _ _ _ _
  have scales := mul_alike (magnitude_mirrored l first) (magnitude_mirrored m second)
  unfold Line.intersection?
  rw [parallel_turned l m _ _ determinants scales]
  cases separate : l.isParallel m with
  | true => exact .none
  | false =>
      have nonzero := separate_nonzero l m first second separate
      exact .some ⟨quotient_turned _ _ _ _ (products_mirrored _ _ _ _) determinants nonzero,
        quotient_turned _ _ _ _ (products_mirrored _ _ _ _) determinants nonzero⟩

end Pairs

end PlanarLP
