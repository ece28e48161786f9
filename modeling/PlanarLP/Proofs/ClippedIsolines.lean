import PlanarLP.Proofs.PlotLines

set_option autoImplicit false

namespace PlanarLP

section Clipping

variable (problem : Problem Rat)

theorem column_feasible (p : Point Rat) (inside : 0 ≤ p.x ∧ p.x ≤ problem.bounds.xMax) :
    ((extent? problem.constraints problem.bounds p.x).any fun (lower, upper) => decide (lower ≤ p.y ∧ p.y ≤ upper)) =
      decide (problem.Feasible 0 p) := by
  rw [Bool.eq_iff_iff, Option.any_eq_true, decide_eq_true_iff, feasible_exactly, and_iff_right inside]
  refine Iff.trans ?_ (extent_spans problem.constraints problem.bounds p.x p.y)
  exact exists_congr fun limits => and_congr_right fun _ => decide_eq_true_iff

theorem clip_feasible (l : Line Rat) (xs : List Rat) (inside : ∀ x ∈ xs, 0 ≤ x ∧ x ≤ problem.bounds.xMax) :
    ((l.sample xs).clip (xs.map (extent? problem.constraints problem.bounds))).points =
      (l.sample xs).points.filter fun p => decide (problem.Feasible 0 p) := by
  rw [clip_sampled]
  refine List.filter_congr fun p drawn => column_feasible problem p (inside p.x ?_)
  exact sample_abscissa l xs p drawn

variable (solution : Solution Rat) (samples : Nat)

theorem clipped_isoline (isoline : Isoline Rat)
    (member : isoline ∈ (problem.plot solution .minimize samples).isolines) :
    isoline.line.points =
      ((problem.objective.isoline isoline.level).sample (grid problem.bounds.xMax samples)).points.filter fun p =>
        decide (problem.Feasible 0 p) := by
  rw [(isoline_member problem solution .minimize samples isoline member).2, if_pos rfl]
  exact clip_feasible problem _ _ (grid_within _ samples (exact_top_positive problem .x).le)

end Clipping

theorem clipped_isolines (problem : Problem Rat) (sloped : problem.objective.h ≠ 0) (solution : Solution Rat)
    (m : Extremum Rat) (carried : solution.minimum = some m) (samples : Nat) :
    (problem.plot solution .minimize samples).isolines.map (·.level) =
        isolineLevels .minimize problem.objective problem.bounds m.value ∧
      ∀ isoline ∈ (problem.plot solution .minimize samples).isolines,
        (isoline.line.points.map (·.x)).Sublist (grid problem.bounds.xMax samples) ∧
          isoline.line.points.Pairwise (·.x < ·.x) ∧
          ∀ p, p ∈ isoline.line.points ↔
            p.x ∈ grid problem.bounds.xMax samples ∧ problem.objective.value p = isoline.level ∧
              problem.Feasible 0 p := by
  have target : problem.targetLevels solution .minimize =
      isolineLevels .minimize problem.objective problem.bounds m.value := by
    rw [Problem.targetLevels, Solution.target, carried]
  refine ⟨?_, fun isoline member => ?_⟩
  · rw [← target]
    exact List.map_map.trans (List.map_id _)
  · have ordered := (plot_on_grid problem solution .minimize samples).clipped isoline member
    have rising := (grid_evenly_spaced _ samples (exact_top_positive problem .x)).rising.sublist ordered
    refine ⟨ordered, List.pairwise_map.mp rising, fun p => ?_⟩
    rw [clipped_isoline problem solution samples isoline member, List.mem_filter, decide_eq_true_iff,
      sample_mem_iff _ sloped, and_assoc]
    rfl

def aboveAndLeft : Problem Rat where
  first := ⟨⟨1, 1, 2⟩, .ge⟩
  second := ⟨⟨1, 0, 3⟩, .le⟩
  objective := ⟨1, 2⟩
  bounds := ⟨4, 4⟩
  valid := by decide +kernel

theorem clipped_isolines_above_and_left :
    aboveAndLeft.objective.h ≠ 0 ∧
      (aboveAndLeft.solve .minimize defaultTolerance).minimum = some ⟨0, ⟨2, 0⟩, 2⟩ ∧
      (⟨3, ⟨[⟨1, 1⟩, ⟨2, 1 / 2⟩, ⟨3, 0⟩]⟩⟩ : Isoline Rat) ∈
        (aboveAndLeft.plot (aboveAndLeft.solve .minimize defaultTolerance) .minimize 5).isolines ∧
      ∀ p : Point Rat, p ∈ [⟨1, 1⟩, ⟨2, 1 / 2⟩, ⟨3, 0⟩] ↔
        p.x ∈ grid 4 5 ∧ aboveAndLeft.objective.value p = 3 ∧ aboveAndLeft.Feasible 0 p := by
  have sloped : aboveAndLeft.objective.h ≠ 0 := by decide +kernel
  have carried : (aboveAndLeft.solve .minimize defaultTolerance).minimum = some ⟨0, ⟨2, 0⟩, 2⟩ := by
    decide +kernel
  have drawn : (⟨3, ⟨[⟨1, 1⟩, ⟨2, 1 / 2⟩, ⟨3, 0⟩]⟩⟩ : Isoline Rat) ∈
      (aboveAndLeft.plot (aboveAndLeft.solve .minimize defaultTolerance) .minimize 5).isolines := by decide +kernel
  exact ⟨sloped, carried, drawn, ((clipped_isolines aboveAndLeft sloped _ _ carried 5).2 _ drawn).2.2⟩

end PlanarLP
