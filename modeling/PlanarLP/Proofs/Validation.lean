import PlanarLP.Problem
import PlanarLP.Proofs.DoubleOrder

set_option autoImplicit false

namespace PlanarLP

variable {α : Type} [Scalar α]

theorem bounds_fault_iff (b : Bounds α) :
    b.fault? = none ↔ ∀ axis, Scalar.isFinite (b.top axis) = true ∧ ¬ b.top axis ≤ 0 := by
  have either (axis : Axis) : axis ∈ [Axis.x, Axis.y] := by cases axis <;> simp
  unfold Bounds.fault?
  rw [List.findSome?_eq_none_iff]
  refine forall_congr' fun axis => (imp_iff_right (either axis)).trans ?_
  by_cases rejected : Scalar.isFinite (b.top axis) = false ∨ b.top axis ≤ 0
  · rw [if_pos rejected]
    exact iff_of_false nofun fun sound => by simp [sound] at rejected
  · rw [if_neg rejected]
    simpa using rejected

theorem problem_fault_none (first second : Constraint α) (objective : Objective α) (bounds : Bounds α) :
    Problem.fault? first second objective bounds = none ↔
      (∀ entry ∈ Problem.coefficients first second objective, Scalar.isFinite entry.2 = true) ∧
        bounds.fault? = none := by
  unfold Problem.fault?
  rw [Option.or_eq_none_iff, List.findSome?_eq_none_iff]
  refine and_congr_left fun _ => forall₂_congr fun entry _ => ?_
  by_cases finite : Scalar.isFinite entry.2 = true <;> simp [finite]

theorem problem_top (problem : Problem α) (axis : Axis) :
    Scalar.isFinite (problem.bounds.top axis) = true ∧ ¬ problem.bounds.top axis ≤ 0 :=
  (bounds_fault_iff problem.bounds).mp ((problem_fault_none _ _ _ _).mp problem.valid).2 axis

theorem double_top_nonnegative (problem : Problem Float) (axis : Axis) : 0 ≤ problem.bounds.top axis := by
  obtain ⟨finite, notPositive⟩ := problem_top problem axis
  have number := finite_number (problem.bounds.top axis) finite
  exact double_le_of_lt _ _ (double_lt_of_not_le _ 0 number (by decide +kernel) notPositive)

end PlanarLP
