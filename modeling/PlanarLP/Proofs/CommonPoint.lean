import PlanarLP.Proofs.Provenance
import PlanarLP.Proofs.Region

set_option autoImplicit false

namespace PlanarLP

def Line.scaled (l : Line Rat) (k : Rat) : Line Rat := ⟨k * l.a, k * l.b, k * l.c⟩

theorem intersection_point (l m : Line Rat) :
    l.intersection? m = if l.isParallel m = true then none else
      some ⟨(l.c * m.b - m.c * l.b) / l.determinant m, (l.a * m.c - m.a * l.c) / l.determinant m⟩ := rfl

section Verdict

variable (l m : Line Rat)

theorem flat_of_no_magnitude (flat : l.magnitude = 0) : l.a = 0 ∧ l.b = 0 := by
  rw [magnitude_exactly] at flat
  have first : |l.a| ≤ 0 := flat ▸ le_max_left _ _
  have second : |l.b| ≤ 0 := flat ▸ le_max_right _ _
  exact ⟨abs_nonpos_iff.mp first, abs_nonpos_iff.mp second⟩

theorem parallel_iff :
    l.isParallel m = true ↔ |l.determinant m| ≤ 1 / 10 ^ 12 * (l.magnitude * m.magnitude) := by
  rw [parallel_exactly, or_iff_right_of_imp]
  intro flat
  have zero : l.determinant m = 0 := by
    change l.a * m.b - m.a * l.b = 0
    rcases mul_eq_zero.mp flat with left | right
    · rw [(flat_of_no_magnitude l left).1, (flat_of_no_magnitude l left).2]
      ring
    · rw [(flat_of_no_magnitude m right).1, (flat_of_no_magnitude m right).2]
      ring
  rw [zero, flat, abs_zero, mul_zero]

theorem intersection_none_iff :
    l.intersection? m = none ↔
      |l.a * m.b - m.a * l.b| ≤ 1 / 10 ^ 12 * (max |l.a| |l.b| * max |m.a| |m.b|) := by
  rw [← magnitude_exactly, ← magnitude_exactly, intersection_point]
  refine Iff.trans ?_ (parallel_iff l m)
  split_ifs with parallel
  · exact iff_of_true rfl parallel
  · exact iff_of_false nofun parallel

theorem parallel_symmetric : m.isParallel l = l.isParallel m := by
  rw [Bool.eq_iff_iff, parallel_iff, parallel_iff, determinant_antisymmetric, abs_neg, mul_comm m.magnitude]

theorem intersection_symmetric : m.intersection? l = l.intersection? m := by
  have x : m.c * l.b - l.c * m.b = -(l.c * m.b - m.c * l.b) := by ring
  have y : m.a * l.c - l.a * m.c = -(l.a * m.c - m.a * l.c) := by ring
  rw [intersection_point, intersection_point, parallel_symmetric, determinant_antisymmetric, x, y, neg_div_neg_eq,
    neg_div_neg_eq]

end Verdict

section Factors

variable (l m : Line Rat) (j k : Rat)

theorem scaled_one : l.scaled 1 = l := by
  unfold Line.scaled
  rw [one_mul, one_mul, one_mul]

theorem determinant_scaled : (l.scaled j).determinant (m.scaled k) = j * k * l.determinant m := by
  change j * l.a * (k * m.b) - k * m.a * (j * l.b) = j * k * (l.a * m.b - m.a * l.b)
  ring

theorem magnitude_scaled : (l.scaled k).magnitude = |k| * l.magnitude := by
  rw [magnitude_exactly, magnitude_exactly, mul_max_of_nonneg _ _ (abs_nonneg k)]
  change max |k * l.a| |k * l.b| = _
  rw [abs_mul, abs_mul]

variable (first : j ≠ 0) (second : k ≠ 0)

include first second

-- Determinant and scale grow by the same factor, which is why the test is relative.
theorem parallel_scaled : (l.scaled j).isParallel (m.scaled k) = l.isParallel m := by
  have positive : 0 < |j * k| := abs_pos.mpr (mul_ne_zero first second)
  have scale : (l.scaled j).magnitude * (m.scaled k).magnitude = |j * k| * (l.magnitude * m.magnitude) := by
    rw [magnitude_scaled, magnitude_scaled, abs_mul]
    ring
  rw [Bool.eq_iff_iff, parallel_iff, parallel_iff, scale, determinant_scaled, abs_mul,
    mul_left_comm (1 / 10 ^ 12 : Rat), mul_le_mul_iff_right₀ positive]

theorem intersection_scaled : (l.scaled j).intersection? (m.scaled k) = l.intersection? m := by
  have nonzero := mul_ne_zero first second
  have x : (l.scaled j).c * (m.scaled k).b - (m.scaled k).c * (l.scaled j).b =
      j * k * (l.c * m.b - m.c * l.b) := by
    simp only [Line.scaled]
    ring
  have y : (l.scaled j).a * (m.scaled k).c - (m.scaled k).a * (l.scaled j).c =
      j * k * (l.a * m.c - m.a * l.c) := by
    simp only [Line.scaled]
    ring
  rw [intersection_point, intersection_point, parallel_scaled l m j k first second, determinant_scaled, x, y,
    mul_div_mul_left _ _ nonzero, mul_div_mul_left _ _ nonzero]

end Factors

theorem lines_meet_once (l m : Line Rat) :
    (l.intersection? m = none ↔
        |l.a * m.b - m.a * l.b| ≤ 1 / 10 ^ 12 * (max |l.a| |l.b| * max |m.a| |m.b|)) ∧
      (∀ q, l.intersection? m = some q → ∀ p, l.value p = l.c ∧ m.value p = m.c ↔ p = q) ∧
      m.intersection? l = l.intersection? m ∧
      ∀ k, k ≠ 0 → (l.scaled k).intersection? m = l.intersection? m ∧
        l.intersection? (m.scaled k) = l.intersection? m := by
  refine ⟨intersection_none_iff l m, intersection_meets l m, intersection_symmetric l m, fun k nonzero => ?_⟩
  have left := intersection_scaled l m k 1 nonzero one_ne_zero
  have right := intersection_scaled l m 1 k one_ne_zero nonzero
  rw [scaled_one] at left right
  exact ⟨left, right⟩

theorem lines_meet_once_turned_equation :
    (⟨1, 1, 4⟩ : Line Rat).determinant ⟨10 ^ 13, 10 ^ 13 + 1, 5⟩ ≠ 0 ∧
      (⟨1, 1, 4⟩ : Line Rat).intersection? ⟨10 ^ 13, 10 ^ 13 + 1, 5⟩ = none ∧
      (⟨2, 1, 300⟩ : Line Rat).intersection? ⟨1, 2, 300⟩ = some ⟨100, 100⟩ ∧
      (∀ p : Point Rat, (⟨2, 1, 300⟩ : Line Rat).value p = 300 ∧ (⟨1, 2, 300⟩ : Line Rat).value p = 300 ↔
        p = ⟨100, 100⟩) ∧
      (-3 / 7 : Rat) ≠ 0 ∧
      (⟨-6 / 7, -3 / 7, -900 / 7⟩ : Line Rat).intersection? ⟨1, 2, 300⟩ = some ⟨100, 100⟩ := by
  have small : |(1 : Rat) * (10 ^ 13 + 1) - 10 ^ 13 * 1| ≤
      1 / 10 ^ 12 * (max |1| |1| * max |10 ^ 13| |10 ^ 13 + 1|) := by
    decide +kernel
  have nearly := (lines_meet_once ⟨1, 1, 4⟩ ⟨10 ^ 13, 10 ^ 13 + 1, 5⟩).1.mpr small
  have crossing : (⟨2, 1, 300⟩ : Line Rat).intersection? ⟨1, 2, 300⟩ = some ⟨100, 100⟩ := by decide +kernel
  obtain ⟨_, only, _, factors⟩ := lines_meet_once ⟨2, 1, 300⟩ ⟨1, 2, 300⟩
  have nonzero : (-3 / 7 : Rat) ≠ 0 := by decide +kernel
  have turned : (⟨2, 1, 300⟩ : Line Rat).scaled (-3 / 7) = ⟨-6 / 7, -3 / 7, -900 / 7⟩ := by decide +kernel
  exact ⟨by decide +kernel, nearly, crossing, only _ crossing, nonzero, turned ▸ (factors _ nonzero).1.trans crossing⟩

end PlanarLP
