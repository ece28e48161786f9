import PlanarLP.Proofs.ColumnExtent
import PlanarLP.Proofs.EvenSteps
import PlanarLP.Proofs.FinitePlot
import PlanarLP.Proofs.Merging

set_option autoImplicit false

namespace PlanarLP

theorem sample_mem_iff (l : Line Rat) (sloped : l.b ≠ 0) (xs : List Rat) (p : Point Rat) :
    p ∈ (l.sample xs).points ↔ p.x ∈ xs ∧ l.value p = l.c := by
  rw [on_line_iff l sloped]
  constructor
  · intro drawn
    obtain ⟨x, listed, rfl⟩ := List.mem_map.mp drawn
    exact ⟨listed, rfl⟩
  · rintro ⟨listed, height⟩
    obtain ⟨x, y⟩ := p
    exact List.mem_map.mpr ⟨x, listed, congrArg (Point.mk x) height.symm⟩

section Grid

variable {α : Type} [Scalar α]

theorem sample_abscissae (l : Line α) (xs : List α) : (l.sample xs).points.map (·.x) = xs :=
  List.map_map.trans (List.map_id xs)

theorem clip_sampled (l : Line α) (xs : List α) (extent : α → Option (α × α)) :
    ((l.sample xs).clip (xs.map extent)).points = (l.sample xs).points.filter fun p =>
      (extent p.x).any fun (lower, upper) => decide (lower ≤ p.y ∧ p.y ≤ upper) := by
  induction xs with
  | nil => rfl
  | cons x rest ih =>
      simp only [Line.sample, Polyline.clip, List.map_cons, List.zip_cons_cons, List.filterMap_cons,
        List.filter_cons] at ih ⊢
      rw [ih]
      cases extent x with
      | none => rfl
      | some limits =>
          by_cases inside : limits.1 ≤ l.yAt x ∧ l.yAt x ≤ limits.2
          · simp [inside]
          · simp [inside]

theorem band_sublist (constraints : List (Constraint α)) (bounds : Bounds α) (xs : List α) :
    ((feasibleBand constraints bounds xs).map (·.x)).Sublist xs := by
  unfold feasibleBand
  induction xs with
  | nil => exact .slnil
  | cons x rest ih =>
      rw [List.filterMap_cons]
      cases extent? constraints bounds x with
      | none => exact ih.cons x
      | some extent => exact ih.cons_cons x

variable (problem : Problem α) (solution : Solution α) (goal : Goal) (samples : Nat)

theorem isoline_part (isoline : Isoline α) (member : isoline ∈ (problem.plot solution goal samples).isolines) :
    isoline.line.points.Sublist
      ((problem.objective.isoline isoline.level).sample (grid problem.bounds.xMax samples)).points := by
  rw [(isoline_member problem solution goal samples isoline member).2]
  split
  · rw [clip_sampled]
    exact List.filter_sublist
  · exact .refl _

structure Plot.OnGrid (plot : Plot α) (goal : Goal) (xs : List α) : Prop where
  whole : ∀ line ∈ plot.wholeLines goal, line.points.map (·.x) = xs
  clipped : ∀ isoline ∈ plot.isolines, (isoline.line.points.map (·.x)).Sublist xs
  band : (plot.band.map (·.x)).Sublist xs

theorem plot_on_grid : (problem.plot solution goal samples).OnGrid goal (grid problem.bounds.xMax samples) where
  whole := by
    intro line member
    obtain ⟨l, rfl⟩ := whole_line_sampled problem solution goal samples line member
    exact sample_abscissae l _
  clipped := by
    intro isoline member
    have part := (isoline_part problem solution goal samples isoline member).map (·.x)
    rwa [sample_abscissae] at part
  band := band_sublist _ _ _

end Grid

structure Plot.Shows (plot : Plot Rat) (problem : Problem Rat) (solution : Solution Rat) (goal : Goal) (n : Nat) :
    Prop where
  sampled : ∃ xs, EvenlySpaced problem.bounds.xMax n xs ∧ plot.OnGrid goal xs
  boundaries : List.Forall₂
    (fun c line => c.boundary.b ≠ 0 → ∀ p ∈ line.points, c.boundary.value p = c.boundary.c)
    problem.constraints plot.boundaries
  levels : problem.objective.h ≠ 0 → ∀ isoline ∈ plot.isolines ++ plot.optimalLines, ∀ p ∈ isoline.line.points,
    problem.objective.value p = isoline.level
  extrema : List.Forall₂
    (fun m isoline => isoline.level = m.value ∧
      (problem.objective.h ≠ 0 → m.point.y = (problem.objective.isoline isoline.level).yAt m.point.x))
    (solution.maximum.toList ++ solution.minimum.toList) plot.optimalLines

section Drawing

variable (problem : Problem Rat) (solution : Solution Rat) (goal : Goal) (samples : Nat)

theorem boundaries_drawn : List.Forall₂
    (fun c line => c.boundary.b ≠ 0 → ∀ p ∈ line.points, c.boundary.value p = c.boundary.c)
    problem.constraints (problem.plot solution goal samples).boundaries := by
  refine List.forall₂_map_right_iff.mpr (List.forall₂_same.mpr fun c _ sloped p drawn => ?_)
  exact ((sample_mem_iff c.boundary sloped _ p).mp drawn).2

theorem level_lines_drawn (sloped : problem.objective.h ≠ 0) (isoline : Isoline Rat)
    (member : isoline ∈ (problem.plot solution goal samples).isolines ++
      (problem.plot solution goal samples).optimalLines)
    (p : Point Rat) (drawn : p ∈ isoline.line.points) : problem.objective.value p = isoline.level := by
  have sampled : p ∈
      ((problem.objective.isoline isoline.level).sample (grid problem.bounds.xMax samples)).points := by
    rcases List.mem_append.mp member with leading | optimal
    · exact (isoline_part problem solution goal samples isoline leading).mem drawn
    · obtain ⟨level, _, rfl⟩ := List.mem_map.mp optimal
      exact drawn
  exact ((sample_mem_iff (problem.objective.isoline isoline.level) sloped _ p).mp sampled).2

theorem optimal_lines_drawn (attained : ∀ m, solution.maximum = some m ∨ solution.minimum = some m →
      m.value = problem.objective.value m.point) :
    List.Forall₂
      (fun m isoline => isoline.level = m.value ∧
        (problem.objective.h ≠ 0 → m.point.y = (problem.objective.isoline isoline.level).yAt m.point.x))
      (solution.maximum.toList ++ solution.minimum.toList) (problem.plot solution goal samples).optimalLines := by
  refine List.forall₂_map_right_iff.mpr (List.forall₂_map_right_iff.mpr (List.forall₂_same.mpr fun m member => ?_))
  refine ⟨rfl, fun sloped => (on_line_iff (problem.objective.isoline m.value) sloped m.point).mp ?_⟩
  exact (attained m (by simpa using member)).symm

end Drawing

theorem plot_lines (problem : Problem Rat) (goal : Goal) (tolerance : Rat) (samples : Nat) :
    (problem.plot (problem.solve goal tolerance) goal samples).Shows problem (problem.solve goal tolerance) goal
      (max samples 2) where
  sampled := ⟨_, grid_evenly_spaced _ samples (exact_top_positive problem .x), plot_on_grid problem _ goal samples⟩
  boundaries := boundaries_drawn problem _ goal samples
  levels := level_lines_drawn problem _ goal samples
  extrema := by
    refine optimal_lines_drawn problem _ goal samples ?_
    rintro m (maximum | minimum)
    · exact (selected_attained problem tolerance _ m (solve_maximum problem goal tolerance m maximum)).2
    · exact (selected_attained problem tolerance _ m (solve_minimum problem goal tolerance m minimum)).2

end PlanarLP
