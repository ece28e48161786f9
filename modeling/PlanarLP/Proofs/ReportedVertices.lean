import PlanarLP.Proofs.Screening
import PlanarLP.Proofs.Validation

set_option autoImplicit false

namespace PlanarLP

theorem feasible_number (problem : Problem Float) (tolerance : Float) (p : Point Float)
    (feasible : problem.Feasible tolerance p) : p.x.isNaN = false ∧ p.y.isNaN = false :=
  ⟨(double_le_number _ _ feasible.1.1.1).2, (double_le_number _ _ feasible.1.2.1).2⟩

theorem clamp_in_box (problem : Problem Float) (p : Point Float) (numbers : p.x.isNaN = false ∧ p.y.isNaN = false) :
    (0 ≤ (problem.bounds.clamp p).x ∧ (problem.bounds.clamp p).x ≤ problem.bounds.xMax) ∧
      (0 ≤ (problem.bounds.clamp p).y ∧ (problem.bounds.clamp p).y ≤ problem.bounds.yMax) :=
  ⟨double_clamp_within _ _ (double_top_nonnegative problem .x) numbers.1,
    double_clamp_within _ _ (double_top_nonnegative problem .y) numbers.2⟩

theorem reported_vertices_sound (problem : Problem Float) (tolerance : Float) :
    (∀ v ∈ problem.feasibleVertices tolerance,
      (0 ≤ v.point.x ∧ v.point.x ≤ problem.bounds.xMax ∧ v.point.x.isNaN = false) ∧
      (0 ≤ v.point.y ∧ v.point.y ≤ problem.bounds.yMax ∧ v.point.y.isNaN = false) ∧
      (∀ c ∈ problem.constraints, -tolerance ≤ c.slack v.point) ∧
      v.value = problem.objective.value v.point) ∧
    (problem.feasibleVertices tolerance).Pairwise fun v w => v.point.coincides w.point = false := by
  refine ⟨fun v member => ?_, feasible_vertices_apart problem tolerance⟩
  obtain ⟨candidate, _, ⟨raw, snapped⟩, same⟩ := feasible_vertex_source problem tolerance v member
  subst same
  obtain ⟨xWithin, yWithin⟩ := clamp_in_box problem candidate.point (feasible_number problem tolerance _ raw)
  obtain ⟨xNumber, yNumber⟩ := feasible_number problem tolerance _ snapped
  exact ⟨⟨xWithin.1, xWithin.2, xNumber⟩, ⟨yWithin.1, yWithin.2, yNumber⟩, snapped.2, rfl⟩

def crossingOutside : Problem Float where
  first := ⟨⟨2, 1, 300⟩, .le⟩
  second := ⟨⟨1, 2, 300⟩, .le⟩
  objective := ⟨150, 100⟩
  bounds := ⟨60, 80⟩
  valid := by decide +kernel

theorem reported_vertices_sound_crossing_outside :
    (⟨⟨60, 80⟩, 17000, .intersection 0 1⟩ : Vertex Float) ∈ crossingOutside.feasibleVertices (1 / 0) ∧
      ((0 : Float) ≤ 60 ∧ (60 : Float) ≤ 60 ∧ (60 : Float).isNaN = false) ∧
      (crossingOutside.feasibleVertices (1 / 0)).Pairwise fun v w => v.point.coincides w.point = false := by
  have listed : (⟨⟨60, 80⟩, 17000, .intersection 0 1⟩ : Vertex Float) ∈ crossingOutside.feasibleVertices (1 / 0) := by
    decide +kernel
  obtain ⟨sound, apart⟩ := reported_vertices_sound crossingOutside (1 / 0)
  exact ⟨listed, (sound _ listed).1, apart⟩

end PlanarLP
