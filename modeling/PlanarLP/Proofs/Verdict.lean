import PlanarLP.Proofs.AxisLimits
import PlanarLP.Proofs.Merging

set_option autoImplicit false

namespace PlanarLP

theorem neutral_direction (c : Constraint Rat) : ∃ d : Point Rat, d ≠ .origin ∧ c.rate d = 0 := by
  by_cases flat : c.tangent = .origin
  · exact ⟨⟨1, 0⟩, by simp [Point.origin], tangent_zero_rate c flat _⟩
  · exact ⟨c.tangent, flat, rate_tangent_self c⟩

theorem common_ray (problem : Problem Rat) :
    ∃ d : Point Rat, d ≠ .origin ∧ ∀ c ∈ problem.constraints, 0 ≤ c.rate d := by
  obtain ⟨d, nonzero, neutral⟩ := neutral_direction problem.first
  by_cases gains : 0 ≤ problem.second.rate d
  · exact ⟨d, nonzero, by simp [Problem.constraints, neutral, gains]⟩
  · refine ⟨d.opposite, opposite_ne_origin d nonzero, ?_⟩
    simp only [Problem.constraints, List.mem_cons, List.not_mem_nil, or_false, forall_eq_or_imp, forall_eq,
      rate_opposite, neutral]
    constructor <;> linarith

-- Two half-planes share a whole ray from each common point, so no region stays clear of all four sides of the box.
theorem reaches_side (problem : Problem Rat) (p : Point Rat) (feasible : problem.Feasible 0 p) :
    ∃ q, problem.Feasible 0 q ∧ ((∃ axis v, q = .onAxis axis v) ∨ problem.bounds.OnFarEdge q) := by
  obtain ⟨d, nonzero, stays⟩ := common_ray problem
  obtain ⟨wall, member, against⟩ := box_blocks problem.bounds d nonzero
  rw [feasible_inside, List.append_assoc] at feasible
  obtain ⟨t, _, within, c, listed, moves, met⟩ :=
    ray_stops _ p d feasible ⟨wall, List.mem_append_right _ member, against⟩
  rw [← List.append_assoc, ← feasible_inside] at within
  refine ⟨p.along d t, within, ?_⟩
  rcases List.mem_append.mp listed with boundary | side
  · exact absurd moves (not_lt.mpr (stays c boundary))
  · rcases List.mem_append.mp side with near | far
    · obtain ⟨axis, v, place, _⟩ := quadrant_tight c near _ met
      exact .inl ⟨axis, v, place⟩
    · exact .inr (far_edge_tight _ c far _ met)

-- A far edge as the enumeration sees it: for upper bounds its ends on the axes are looked at.
def Problem.BeyondEdges (problem : Problem Rat) (q : Point Rat) : Prop :=
  problem.bounds.OnFarEdge q ∧ (sharedDirection? problem.constraints = some .le → 0 < q.x ∧ 0 < q.y)

theorem off_axes (q : Point Rat) (low : 0 ≤ q.x ∧ 0 ≤ q.y) :
    (0 < q.x ∧ 0 < q.y) ∨ ∃ axis v, q = .onAxis axis v := by
  rcases low.1.eq_or_lt with zero | right
  · exact .inr ⟨.y, q.y, (on_axis_of_zero q).2 zero.symm⟩
  · rcases low.2.eq_or_lt with zero | up
    · exact .inr ⟨.x, q.x, (on_axis_of_zero q).1 zero.symm⟩
    · exact .inl ⟨right, up⟩

theorem region_detected (problem : Problem Rat) (p : Point Rat) (feasible : problem.Feasible 0 p) :
    (∃ q, Listed problem.constraints problem.bounds q ∧ problem.Feasible 0 q) ∨
      (sharedDirection? problem.constraints ≠ some .le ∧ problem.Feasible 0 .origin) ∨
        ∃ q, problem.BeyondEdges q ∧ problem.Feasible 0 q := by
  obtain ⟨q, within, side⟩ := reaches_side problem p feasible
  have low := ((feasible_exactly problem q).mp within).1
  have onAxis (axis : Axis) (v : Rat) (place : q = .onAxis axis v) :
      (∃ q, Listed problem.constraints problem.bounds q ∧ problem.Feasible 0 q) ∨
        (sharedDirection? problem.constraints ≠ some .le ∧ problem.Feasible 0 .origin) :=
    (axis_point problem axis v (place ▸ within)).symm
  rcases side with ⟨axis, v, place⟩ | far
  · rcases onAxis axis v place with listed | origin
    · exact .inl listed
    · exact .inr (.inl origin)
  · rcases off_axes q ⟨low.1.1, low.2.1⟩ with interior | ⟨axis, v, place⟩
    · exact .inr (.inr ⟨q, ⟨far, fun _ => interior⟩, within⟩)
    · rcases onAxis axis v place with listed | origin
      · exact .inl listed
      · exact .inr (.inl origin)

theorem infeasible_verdict (problem : Problem Rat) (goal : Goal)
    (verdict : (problem.solve goal defaultTolerance).status = .infeasible) :
    (∀ p, ¬ problem.Feasible 0 p) ↔
      (sharedDirection? problem.constraints ≠ some .le → ¬ problem.Feasible 0 .origin) ∧
        ∀ q, problem.BeyondEdges q → ¬ problem.Feasible 0 q := by
  constructor
  · intro empty
    exact ⟨fun _ => empty .origin, fun q _ => empty q⟩
  · rintro ⟨originOut, edgesOut⟩ p feasible
    rcases region_detected problem p feasible with ⟨q, listed, found⟩ | ⟨mixed, found⟩ | ⟨q, beyond, found⟩
    · exact infeasible_unlisted problem goal _ q default_tolerance_positive.le verdict listed found
    · exact originOut mixed found
    · exact edgesOut q beyond found

def emptyStrip : Problem Rat where
  first := ⟨⟨1, 1, 1⟩, .le⟩
  second := ⟨⟨1, 1, 3⟩, .ge⟩
  objective := ⟨1, 1⟩
  bounds := ⟨10, 10⟩
  valid := by decide +kernel

theorem infeasible_verdict_empty_strip :
    (emptyStrip.solve .both defaultTolerance).status = .infeasible ∧ ∀ p, ¬ emptyStrip.Feasible 0 p := by
  have verdict : (emptyStrip.solve .both defaultTolerance).status = .infeasible := by decide +kernel
  refine ⟨verdict, (infeasible_verdict emptyStrip .both verdict).mpr ⟨fun _ => by decide +kernel, ?_⟩⟩
  intro q _ feasible
  have satisfied := ((feasible_exactly emptyStrip q).mp feasible).2
  have below := satisfied ⟨⟨1, 1, 1⟩, .le⟩ List.mem_cons_self
  have above := satisfied ⟨⟨1, 1, 3⟩, .ge⟩ (List.mem_cons_of_mem _ List.mem_cons_self)
  rw [slack_le] at below
  rw [slack_ge] at above
  linarith

def farCorner : Problem Float where
  first := ⟨⟨1, 1, 6⟩, .ge⟩
  second := ⟨⟨1, 1, 6⟩, .ge⟩
  objective := ⟨1, 1⟩
  bounds := ⟨3, 3⟩
  valid := by decide +kernel

-- A triangle well inside the box; at its corners the rounding error of the slack exceeds the tolerance.
def heavyTriangle : Problem Float where
  first := ⟨⟨7000000000000, 7000000000000, 29000000000000⟩, .le⟩
  second := ⟨⟨7000000000000, 7000000000000, 29000000000000⟩, .le⟩
  objective := ⟨1, 1⟩
  bounds := ⟨10, 10⟩
  valid := by decide +kernel

theorem infeasible_verdict_misses :
    ((farCorner.solve .minimize defaultTolerance).status = .infeasible ∧ farCorner.Feasible 0 ⟨3, 3⟩) ∧
      ((heavyTriangle.solve .maximize defaultTolerance).status = .infeasible ∧ heavyTriangle.Feasible 0 ⟨1, 1⟩) := by
  decide +kernel

end PlanarLP
