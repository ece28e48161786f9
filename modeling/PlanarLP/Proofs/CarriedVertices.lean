import PlanarLP.Proofs.PointEquality
import PlanarLP.Proofs.RelatedRuns

set_option autoImplicit false

namespace PlanarLP

def Problem.roundedPoints (problem : Problem Float) (tolerance : Float) : Set (Point Float) :=
  {q | ∃ v ∈ problem.feasibleVertices tolerance, v.point.rounded = q}

-- The order in which candidates come decides which of two coinciding points is kept. The
-- rounded points that are represented do not depend on it.
structure Problem.Carries (problem other : Problem Float) (image : Point Float → Point Float) : Prop where
  candidate : ∀ c ∈ candidates problem.constraints problem.bounds,
    ∃ d ∈ candidates other.constraints other.bounds, d.point.Alike (image c.point)
  feasible : ∀ tolerance p, other.Feasible tolerance (image p) ↔ problem.Feasible tolerance p
  clamp : ∀ p, other.bounds.clamp (image p) = image (problem.bounds.clamp p)
  rounded : ∀ p : Point Float, (image p).rounded = image p.rounded

theorem candidate_represented (problem : Problem Float) (tolerance : Float) (c : Candidate Float)
    (listed : c ∈ candidates problem.constraints problem.bounds) (accepted : problem.Accepts tolerance c) :
    ∃ d ∈ candidates problem.constraints problem.bounds, problem.Accepts tolerance d ∧
      problem.evaluate d ∈ problem.feasibleVertices tolerance ∧
      (problem.evaluate d).point.rounded = (problem.evaluate c).point.rounded := by
  obtain ⟨v, member, near⟩ := feasible_vertices_cover problem tolerance c listed accepted
  obtain ⟨d, present, accepts, rfl⟩ := feasible_vertex_source problem tolerance v member
  refine ⟨d, present, accepts, member, ?_⟩
  rcases near with same | coincides
  · rw [same]
  · exact coincident_rounded _ _ coincides

section Carrying

variable (problem other : Problem Float) (image : Point Float → Point Float) (carries : problem.Carries other image)
  (tolerance : Float)

include carries

theorem accepted_carried (c : Candidate Float) (listed : c ∈ candidates problem.constraints problem.bounds)
    (accepted : problem.Accepts tolerance c) :
    ∃ d ∈ candidates other.constraints other.bounds, other.Accepts tolerance d ∧
      (other.evaluate d).point.Alike (image (problem.evaluate c).point) := by
  obtain ⟨d, present, alike⟩ := carries.candidate c listed
  have snapped := box_alike d.point (image c.point) alike other.bounds
  rw [carries.clamp] at snapped
  refine ⟨d, present, ⟨?_, ?_⟩, snapped⟩
  · exact (feasible_alike _ _ alike other tolerance).mpr ((carries.feasible tolerance _).mpr accepted.1)
  · exact (feasible_alike _ _ snapped other tolerance).mpr ((carries.feasible tolerance _).mpr accepted.2)

theorem rounded_points_carried (q : Point Float) (represented : q ∈ problem.roundedPoints tolerance) :
    image q ∈ other.roundedPoints tolerance := by
  obtain ⟨v, member, rfl⟩ := represented
  obtain ⟨c, listed, accepted, rfl⟩ := feasible_vertex_source problem tolerance v member
  obtain ⟨d, present, accepts, alike⟩ := accepted_carried problem other image carries tolerance c listed accepted
  obtain ⟨e, _, _, kept, same⟩ := candidate_represented other tolerance d present accepts
  refine ⟨other.evaluate e, kept, same.trans ?_⟩
  rw [rounded_alike _ _ alike, carries.rounded]

theorem vertices_carried (empty : other.feasibleVertices tolerance = []) : problem.feasibleVertices tolerance = [] := by
  refine List.eq_nil_iff_forall_not_mem.mpr fun v member => ?_
  obtain ⟨w, kept, _⟩ := rounded_points_carried problem other image carries tolerance _ ⟨v, member, rfl⟩
  exact List.not_mem_nil (empty ▸ kept)

theorem verdict_carried (back : Point Float → Point Float) (returns : other.Carries problem back) (goal : Goal) :
    (problem.solve goal tolerance).status = (other.solve goal tolerance).status :=
  verdict_related problem other goal tolerance
    ⟨vertices_carried other problem back returns tolerance, vertices_carried problem other image carries tolerance⟩

end Carrying

end PlanarLP
