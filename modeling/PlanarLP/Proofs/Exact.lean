import Mathlib.Algebra.Order.Field.Rat
import Mathlib.Algebra.Order.Round
import Mathlib.Data.Rat.Floor
import Mathlib.Tactic.Linarith
import PlanarLP.Proofs.Screening
import PlanarLP.Proofs.Validation
import PlanarLP.Solution

set_option autoImplicit false

namespace PlanarLP

theorem abs_exactly (x : Rat) : Scalar.abs x = |x| := by
  change Rat.abs x = |x|
  rcases le_total 0 x with sign | sign
  · rw [Rat.abs_of_nonneg sign, abs_of_nonneg sign]
  · rw [Rat.abs_of_nonpos sign, abs_of_nonpos sign]

theorem min_exactly (a b : Rat) : Scalar.min a b = min a b := by
  unfold Scalar.min
  by_cases less : a ≤ b
  · rw [if_pos less, min_eq_left less]
  · rw [if_neg less, if_pos BEq.rfl, min_eq_right (not_le.mp less).le]

theorem max_exactly (a b : Rat) : Scalar.max a b = max a b := by
  unfold Scalar.max
  by_cases less : b ≤ a
  · rw [if_pos less, max_eq_left less]
  · rw [if_neg less, if_pos BEq.rfl, max_eq_right (not_le.mp less).le]

theorem exact_clamp_inside (top v : Rat) (lower : 0 ≤ v) (upper : v ≤ top) : Scalar.clamp top v = v := by
  unfold Scalar.clamp
  exact (if_neg (not_lt.mpr lower)).trans (if_neg (not_lt.mpr upper))

theorem exact_clamp_within (top v : Rat) (nonnegative : 0 ≤ top) :
    0 ≤ Scalar.clamp top v ∧ Scalar.clamp top v ≤ top := by
  unfold Scalar.clamp
  split_ifs with below beyond
  · exact ⟨le_rfl, nonnegative⟩
  · exact ⟨nonnegative, le_rfl⟩
  · exact ⟨not_lt.mp below, not_lt.mp beyond⟩

theorem round_near (x : Rat) : |roundRat x - x| ≤ 1 / 2 := by
  have half : mkRat 1 2 = 1 / 2 := by decide +kernel
  unfold roundRat
  rw [half, abs_le]
  by_cases sign : 0 ≤ x
  · rw [if_pos sign]
    change -(1 / 2) ≤ ((⌊x + 1 / 2⌋ : Int) : Rat) - x ∧ ((⌊x + 1 / 2⌋ : Int) : Rat) - x ≤ 1 / 2
    have below := Int.floor_le (x + 1 / 2)
    have above := Int.lt_floor_add_one (x + 1 / 2)
    constructor <;> linarith
  · rw [if_neg sign]
    change -(1 / 2) ≤ -((⌊-x + 1 / 2⌋ : Int) : Rat) - x ∧ -((⌊-x + 1 / 2⌋ : Int) : Rat) - x ≤ 1 / 2
    have below := Int.floor_le (-x + 1 / 2)
    have above := Int.lt_floor_add_one (-x + 1 / 2)
    constructor <;> linarith

theorem hundredths_near (v : Rat) : |Scalar.hundredths v - v| ≤ 1 / 200 := by
  have scaled : Scalar.hundredths v = roundRat (v * 100) / 100 := by
    change roundRat (v * mkRat 100 1) / mkRat 100 1 + 0 = _
    rw [add_zero]
    rfl
  have near := abs_le.mp (round_near (v * 100))
  rw [scaled, abs_le]
  constructor <;> linarith

theorem coincident_near (p q : Point Rat) (same : p.coincides q = true) :
    |p.x - q.x| ≤ 1 / 100 ∧ |p.y - q.y| ≤ 1 / 100 := by
  have equal : Scalar.hundredths p.x = Scalar.hundredths q.x ∧ Scalar.hundredths p.y = Scalar.hundredths q.y := by
    simpa [Point.coincides, Point.rounded] using same
  have px := abs_le.mp (hundredths_near p.x)
  have py := abs_le.mp (hundredths_near p.y)
  have qx := abs_le.mp (hundredths_near q.x)
  have qy := abs_le.mp (hundredths_near q.y)
  rw [equal.1] at px
  rw [equal.2] at py
  constructor <;> rw [abs_le] <;> constructor <;> linarith

theorem default_tolerance_positive : (0 : Rat) < defaultTolerance := by decide +kernel

theorem exact_top_positive (problem : Problem Rat) (axis : Axis) : 0 < problem.bounds.top axis :=
  not_le.mp (problem_top problem axis).2

theorem slack_le (l : Line Rat) (p : Point Rat) : Constraint.slack ⟨l, .le⟩ p = l.c - (l.a * p.x + l.b * p.y) := rfl

theorem slack_ge (l : Line Rat) (p : Point Rat) : Constraint.slack ⟨l, .ge⟩ p = l.a * p.x + l.b * p.y - l.c := rfl

theorem holds_exactly (c : Constraint Rat) (p : Point Rat) : c.Holds 0 p ↔ 0 ≤ c.slack p := by
  change -0 ≤ c.slack p ↔ _
  rw [neg_zero]

theorem contains_exactly (b : Bounds Rat) (p : Point Rat) :
    b.Contains 0 p ↔ (0 ≤ p.x ∧ p.x ≤ b.xMax) ∧ (0 ≤ p.y ∧ p.y ≤ b.yMax) := by
  change (-0 ≤ p.x ∧ p.x ≤ b.xMax + 0) ∧ (-0 ≤ p.y ∧ p.y ≤ b.yMax + 0) ↔ _
  rw [neg_zero, add_zero, add_zero]

theorem feasible_exactly (problem : Problem Rat) (p : Point Rat) :
    problem.Feasible 0 p ↔
      ((0 ≤ p.x ∧ p.x ≤ problem.bounds.xMax) ∧ (0 ≤ p.y ∧ p.y ≤ problem.bounds.yMax)) ∧
        ∀ c ∈ problem.constraints, 0 ≤ c.slack p := by
  unfold Problem.Feasible
  simp only [contains_exactly, holds_exactly]

theorem feasible_loosen (problem : Problem Rat) (tight loose : Rat) (le : tight ≤ loose) (p : Point Rat)
    (feasible : problem.Feasible tight p) : problem.Feasible loose p := by
  obtain ⟨⟨⟨xLow, xHigh⟩, ⟨yLow, yHigh⟩⟩, satisfied⟩ := feasible
  have lower : -loose ≤ -tight := neg_le_neg le
  exact ⟨⟨⟨lower.trans xLow, xHigh.trans (add_le_add_right le _)⟩,
    ⟨lower.trans yLow, yHigh.trans (add_le_add_right le _)⟩⟩, fun c member => lower.trans (satisfied c member)⟩

theorem clamp_feasible (problem : Problem Rat) (p : Point Rat) (feasible : problem.Feasible 0 p) :
    problem.bounds.clamp p = p := by
  obtain ⟨⟨⟨xLow, xHigh⟩, ⟨yLow, yHigh⟩⟩, _⟩ := (feasible_exactly problem p).mp feasible
  unfold Bounds.clamp
  rw [exact_clamp_inside _ _ xLow xHigh, exact_clamp_inside _ _ yLow yHigh]

theorem objective_value_exactly (o : Objective Rat) (p : Point Rat) : o.value p = o.g * p.x + o.h * p.y := rfl

end PlanarLP
