import PlanarLP.Proofs.EvenSteps
import PlanarLP.Proofs.Merging

set_option autoImplicit false

namespace PlanarLP

def Bounds.corners (b : Bounds Rat) : List (Point Rat) := [⟨0, 0⟩, ⟨b.xMax, 0⟩, ⟨0, b.yMax⟩, ⟨b.xMax, b.yMax⟩]

structure Objective.LevelsRise (o : Objective Rat) (b : Bounds Rat) (target : Rat) : Prop where
  above : ∀ z ∈ isolineLevels .minimize o b target, target ≤ z
  below : ∀ z ∈ isolineLevels .minimize o b target, ∃ q ∈ b.corners, z < o.value q
  rising : (isolineLevels .minimize o b target).Pairwise (· < ·)

section Ceiling

variable (o : Objective Rat) (b : Bounds Rat)

theorem ceiling_exactly :
    o.ceiling b = max (max (o.g * b.xMax) (o.h * b.yMax)) (o.g * b.xMax + o.h * b.yMax) := by
  unfold Objective.ceiling
  rw [max_exactly, max_exactly]

theorem ceiling_attained : ∃ q ∈ b.corners, o.value q = o.ceiling b := by
  simp only [Bounds.corners, List.mem_cons, List.not_mem_nil, or_false, exists_eq_or_imp, exists_eq_left,
    objective_value_exactly, ceiling_exactly, mul_zero, add_zero, zero_add]
  rcases max_choice (max (o.g * b.xMax) (o.h * b.yMax)) (o.g * b.xMax + o.h * b.yMax) with single | sum
  · rw [single]
    rcases max_choice (o.g * b.xMax) (o.h * b.yMax) with onX | onY
    · exact .inr (.inl onX.symm)
    · exact .inr (.inr (.inl onY.symm))
  · exact .inr (.inr (.inr sum.symm))

theorem under_ceiling (p : Point Rat) (low : 0 ≤ p.x ∧ 0 ≤ p.y) (high : p.x ≤ b.xMax ∧ p.y ≤ b.yMax)
    (rises : 0 ≤ o.g ∨ 0 ≤ o.h) : o.value p ≤ o.ceiling b := by
  rw [objective_value_exactly, ceiling_exactly]
  by_cases right : 0 ≤ o.g
  · have across := mul_le_mul_of_nonneg_left high.1 right
    rcases le_total 0 o.h with up | down
    · exact le_max_of_le_right (add_le_add across (mul_le_mul_of_nonneg_left high.2 up))
    · have sinks := mul_nonpos_of_nonpos_of_nonneg down low.2
      exact le_max_of_le_left (le_max_of_le_left (by linarith))
  · have sinks := mul_nonpos_of_nonpos_of_nonneg (not_le.mp right).le low.1
    have along := mul_le_mul_of_nonneg_left high.2 (rises.resolve_left right)
    exact le_max_of_le_left (le_max_of_le_right (by linarith))

end Ceiling

section Levels

variable (o : Objective Rat) (b : Bounds Rat) (target : Rat)

theorem minimize_levels_walk :
    isolineLevels .minimize o b target =
      if target = o.ceiling b then [] else walk target ((o.ceiling b - target) / (40 : Nat)) 40 :=
  levels_walk .minimize o b target target (o.ceiling b) rfl

theorem levels_rise (below : target ≤ o.ceiling b) : o.LevelsRise b target := by
  rcases below.eq_or_lt with same | less
  · have none : isolineLevels .minimize o b target = [] := (minimize_levels_walk o b target).trans (if_pos same)
    constructor <;> simp [none]
  · have levels : isolineLevels .minimize o b target = walk target ((o.ceiling b - target) / (40 : Nat)) 40 :=
      (minimize_levels_walk o b target).trans (if_neg less.ne)
    have gap := sub_pos.mpr less
    obtain ⟨q, corner, top⟩ := ceiling_attained o b
    constructor <;> rw [levels]
    · intro z listed
      obtain ⟨t, nonnegative, _, rfl⟩ := walk_share _ _ _ z listed
      exact le_add_of_nonneg_right (mul_nonneg nonnegative gap.le)
    · intro z listed
      obtain ⟨t, _, short, rfl⟩ := walk_share _ _ _ z listed
      refine ⟨q, corner, ?_⟩
      rw [top]
      linarith [mul_lt_of_lt_one_left gap short]
    · exact walk_rising _ _ _ (div_pos gap (by norm_num))

theorem levels_fall (above : o.ceiling b < target) :
    (isolineLevels .minimize o b target).Pairwise (· > ·) ∧
      ∀ z ∈ isolineLevels .minimize o b target, o.ceiling b < z ∧ z ≤ target := by
  rw [(minimize_levels_walk o b target).trans (if_neg above.ne')]
  have gap := sub_neg.mpr above
  refine ⟨walk_falling _ _ _ (div_neg_of_neg_of_pos gap (by norm_num)), fun z listed => ?_⟩
  obtain ⟨t, nonnegative, short, rfl⟩ := walk_share _ _ _ z listed
  have down := mul_nonpos_of_nonneg_of_nonpos nonnegative gap.le
  have part := mul_lt_mul_of_neg_right short gap
  constructor <;> linarith

theorem levels_rise_iff : o.LevelsRise b target ↔ target ≤ o.ceiling b := by
  refine ⟨fun rise => ?_, levels_rise o b target⟩
  by_contra beyond
  have above := not_le.mp beyond
  have levels := (minimize_levels_walk o b target).trans (if_neg above.ne')
  have second : target + (o.ceiling b - target) / (40 : Nat) * (1 : Nat) ∈ isolineLevels .minimize o b target := by
    rw [levels]
    exact List.mem_of_getElem? (walk_entry _ _ 40 1 (by norm_num))
  have step : (o.ceiling b - target) / (40 : Nat) < 0 := div_neg_of_neg_of_pos (sub_neg.mpr above) (by norm_num)
  have order := rise.above _ second
  rw [Nat.cast_one, mul_one] at order
  linarith

end Levels

theorem minimize_levels_rise (problem : Problem Rat) (tolerance : Rat) (m : Extremum Rat)
    (found : (problem.solve .minimize tolerance).minimum = some m) :
    (problem.objective.LevelsRise problem.bounds m.value ↔ m.value ≤ problem.objective.ceiling problem.bounds) ∧
      (0 ≤ problem.objective.g ∨ 0 ≤ problem.objective.h → m.value ≤ problem.objective.ceiling problem.bounds) ∧
      (problem.objective.ceiling problem.bounds < m.value →
        (isolineLevels .minimize problem.objective problem.bounds m.value).Pairwise (· > ·) ∧
          ∀ z ∈ isolineLevels .minimize problem.objective problem.bounds m.value,
            problem.objective.ceiling problem.bounds < z ∧ z ≤ m.value) := by
  refine ⟨levels_rise_iff _ _ _, fun rises => ?_, levels_fall _ _ _⟩
  have selected := solve_minimum problem .minimize tolerance m found
  obtain ⟨⟨left, right⟩, ⟨lower, upper⟩⟩ := selected_in_box problem tolerance _ m selected
  rw [(selected_attained problem tolerance _ m selected).2]
  exact under_ceiling _ _ _ ⟨left, lower⟩ ⟨right, upper⟩ rises

def fallingAlongX : Problem Rat where
  first := ⟨⟨1, 1, 1⟩, .ge⟩
  second := ⟨⟨1, 0, 3⟩, .le⟩
  objective := ⟨-1, 4⟩
  bounds := ⟨4, 4⟩
  valid := by decide +kernel

theorem minimize_levels_rise_falling_along_x :
    (fallingAlongX.solve .minimize defaultTolerance).minimum = some ⟨2, ⟨3, 0⟩, -3⟩ ∧
      fallingAlongX.objective.LevelsRise ⟨4, 4⟩ (-3) := by
  have found : (fallingAlongX.solve .minimize defaultTolerance).minimum = some ⟨2, ⟨3, 0⟩, -3⟩ := by
    decide +kernel
  have rise := minimize_levels_rise fallingAlongX defaultTolerance _ found
  exact ⟨found, rise.1.mpr (rise.2.1 (.inr (by decide +kernel)))⟩

-- Both coefficients are negative, and the least value -5 lies above those of the three corners.
def fallingBothWays : Problem Rat where
  first := ⟨⟨1, 1, 5⟩, .le⟩
  second := ⟨⟨1, 1, 5⟩, .le⟩
  objective := ⟨-1, -1⟩
  bounds := ⟨10, 10⟩
  valid := by decide +kernel

theorem minimize_levels_descend :
    (fallingBothWays.solve .minimize defaultTolerance).status = .optimal ∧
      (fallingBothWays.solve .minimize defaultTolerance).minimum = some ⟨0, ⟨5, 0⟩, -5⟩ ∧
      (isolineLevels .minimize fallingBothWays.objective fallingBothWays.bounds (-5)).take 2 = [-5, -41 / 8] ∧
      ¬ fallingBothWays.objective.LevelsRise fallingBothWays.bounds (-5) := by
  refine ⟨by decide +kernel, by decide +kernel, by decide +kernel, fun rise => ?_⟩
  have second : (-41 / 8 : Rat) ∈ isolineLevels .minimize fallingBothWays.objective fallingBothWays.bounds (-5) := by
    decide +kernel
  have order : (-5 : Rat) ≤ -41 / 8 := rise.above _ second
  norm_num at order

end PlanarLP
