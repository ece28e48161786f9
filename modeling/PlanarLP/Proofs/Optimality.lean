import PlanarLP.Proofs.Verdict

set_option autoImplicit false

namespace PlanarLP

-- The places of a feasible region that no candidate stands for.
inductive Problem.Omitted (problem : Problem Rat) : Point Rat → Prop
  | origin : problem.Omitted .origin
  | edge (q : Point Rat) (beyond : problem.BeyondEdges q) : problem.Omitted q
  | opposed (axis : Axis) (c : Constraint Rat) (shared : (sharedDirection? problem.constraints).isSome = true)
      (member : c ∈ problem.constraints) (negative : c.boundary.coefficient axis < 0) :
      problem.Omitted (.onAxis axis (c.boundary.crossing axis))
  | nearlyParallel (q : Point Rat) (parallel : problem.first.boundary.isParallel problem.second.boundary = true)
      (corner : CornerOf problem.constraints q) : problem.Omitted q

theorem feasible_crossing_listed (problem : Problem Rat) (axis : Axis) (c : Constraint Rat) (direction : Direction)
    (shared : sharedDirection? problem.constraints = some direction) (member : c ∈ problem.constraints)
    (positive : 0 < c.boundary.coefficient axis)
    (feasible : problem.Feasible 0 (.onAxis axis (c.boundary.crossing axis))) :
    Listed problem.constraints problem.bounds (.onAxis axis (c.boundary.crossing axis)) := by
  obtain ⟨⟨_, high⟩, inside⟩ := (axis_feasible problem axis _).mp feasible
  exact positive_crossing_listed _ _ axis direction c shared member positive high inside

theorem crossing_accounted (problem : Problem Rat) (q : Point Rat) (crosses : CrossesAxis problem.constraints q)
    (feasible : problem.Feasible 0 q) : Listed problem.constraints problem.bounds q ∨ problem.Omitted q := by
  obtain ⟨axis, c, member, meets, rfl⟩ := crosses
  cases shared : sharedDirection? problem.constraints with
  | none => exact .inl (mixed_crossing_listed _ _ axis c shared member meets)
  | some direction =>
      rcases lt_or_gt_of_ne meets with negative | positive
      · exact .inr (.opposed axis c (by simp [shared]) member negative)
      · exact .inl (feasible_crossing_listed problem axis c direction shared member positive feasible)

theorem intersection_accounted (problem : Problem Rat) (q : Point Rat) (corner : CornerOf problem.constraints q) :
    Listed problem.constraints problem.bounds q ∨ problem.Omitted q := by
  cases parallel : problem.first.boundary.isParallel problem.second.boundary with
  | true => exact .inr (.nearlyParallel q parallel corner)
  | false => exact .inl (boundary_corner_listed problem q corner parallel)

theorem edge_accounted (problem : Problem Rat) (q : Point Rat) (far : problem.bounds.OnFarEdge q)
    (feasible : problem.Feasible 0 q) : Listed problem.constraints problem.bounds q ∨ problem.Omitted q := by
  have low := ((feasible_exactly problem q).mp feasible).1
  have width := exact_top_positive problem .x
  have height := exact_top_positive problem .y
  by_cases shared : sharedDirection? problem.constraints = some .le
  · rcases off_axes q ⟨low.1.1, low.2.1⟩ with interior | ⟨axis, v, place⟩
    · exact .inr (.edge q ⟨far, fun _ => interior⟩)
    · subst place
      -- the far edge parallel to an axis stays clear of it
      have stop : v = problem.bounds.top axis := by
        cases axis with
        | x => exact far.resolve_right height.ne
        | y => exact far.resolve_left width.ne
      subst stop
      exact .inl (far_end_listed _ _ axis shared ((axis_feasible problem axis _).mp feasible).2)
  · exact .inr (.edge q ⟨far, fun upper => absurd upper shared⟩)

theorem corner_accounted (problem : Problem Rat) (q : Point Rat)
    (corner : CornerOf (problem.constraints ++ quadrant ++ problem.bounds.farEdges) q)
    (feasible : problem.Feasible 0 q) : Listed problem.constraints problem.bounds q ∨ problem.Omitted q := by
  rcases corner_in_box _ _ q corner with far | near
  · exact edge_accounted problem q far feasible
  · rcases corner_in_quadrant _ q near with origin | crosses | crossing
    · exact .inr (origin ▸ .origin)
    · exact crossing_accounted problem q crosses feasible
    · exact intersection_accounted problem q crossing

theorem best_corner (problem : Problem Rat) (o : Objective Rat) (p : Point Rat) (feasible : problem.Feasible 0 p) :
    ∃ q, problem.Feasible 0 q ∧ o.value p ≤ o.value q ∧
      (Listed problem.constraints problem.bounds q ∨ problem.Omitted q) := by
  have confined : Confines (problem.constraints ++ quadrant ++ problem.bounds.farEdges) o := by
    refine bounded_confines _ o fun d nonzero => ?_
    obtain ⟨wall, member, against⟩ := box_blocks problem.bounds d nonzero
    exact ⟨wall, by rw [List.append_assoc]; exact List.mem_append_right _ member, against⟩
  obtain ⟨q, within, better, corner⟩ := corner_reached _ o confined p ((feasible_inside problem p).mp feasible)
  have found := (feasible_inside problem q).mpr within
  exact ⟨q, found, better, corner_accounted problem q corner found⟩

def Objective.negated (o : Objective Rat) : Objective Rat := ⟨-o.g, -o.h⟩

theorem negated_value (o : Objective Rat) (p : Point Rat) : o.negated.value p = -o.value p := by
  simp only [objective_value_exactly, Objective.negated]
  ring

theorem extrema_global (problem : Problem Rat) (goal : Goal) :
    (∀ m, (problem.solve goal defaultTolerance).maximum = some m → ∀ p, problem.Feasible 0 p →
      problem.objective.value p ≤ m.value + problem.objective.mergeLoss ∨
        ∃ q, problem.Omitted q ∧ problem.Feasible 0 q ∧ problem.objective.value p ≤ problem.objective.value q) ∧
    (∀ m, (problem.solve goal defaultTolerance).minimum = some m → ∀ p, problem.Feasible 0 p →
      m.value - problem.objective.mergeLoss ≤ problem.objective.value p ∨
        ∃ q, problem.Omitted q ∧ problem.Feasible 0 q ∧ problem.objective.value q ≤ problem.objective.value p) := by
  constructor
  · intro m found p feasible
    obtain ⟨q, within, better, listed | omitted⟩ := best_corner problem problem.objective p feasible
    · exact .inl (better.trans (maximum_reaches problem goal _ m q default_tolerance_positive.le found listed within))
    · exact .inr ⟨q, omitted, within, better⟩
  · intro m found p feasible
    obtain ⟨q, within, better, place⟩ := best_corner problem problem.objective.negated p feasible
    rw [negated_value, negated_value, neg_le_neg_iff] at better
    rcases place with listed | omitted
    · exact .inl ((minimum_reaches problem goal _ m q default_tolerance_positive.le found listed within).trans better)
    · exact .inr ⟨q, omitted, within, better⟩

def twoUpperBounds : Problem Rat where
  first := ⟨⟨2, 1, 300⟩, .le⟩
  second := ⟨⟨1, 2, 300⟩, .le⟩
  objective := ⟨150, 100⟩
  bounds := ⟨300, 300⟩
  valid := by decide +kernel

theorem extrema_global_two_upper_bounds :
    (twoUpperBounds.solve .both defaultTolerance).maximum = some ⟨2, ⟨100, 100⟩, 25000⟩ ∧
      twoUpperBounds.Feasible 0 ⟨100, 99⟩ ∧
      (twoUpperBounds.objective.value ⟨100, 99⟩ ≤ 25000 + twoUpperBounds.objective.mergeLoss ∨
        ∃ q, twoUpperBounds.Omitted q ∧ twoUpperBounds.Feasible 0 q ∧
          twoUpperBounds.objective.value ⟨100, 99⟩ ≤ twoUpperBounds.objective.value q) := by
  have found : (twoUpperBounds.solve .both defaultTolerance).maximum = some ⟨2, ⟨100, 100⟩, 25000⟩ := by
    decide +kernel
  have feasible : twoUpperBounds.Feasible 0 ⟨100, 99⟩ := by decide +kernel
  exact ⟨found, feasible, (extrema_global twoUpperBounds .both).1 _ found _ feasible⟩

def cutByEdge : Problem Rat where
  first := ⟨⟨1, 1, 10⟩, .le⟩
  second := ⟨⟨1, 1, 10⟩, .le⟩
  objective := ⟨1, 1⟩
  bounds := ⟨6, 6⟩
  valid := by decide +kernel

def bestAtOrigin : Problem Rat where
  first := ⟨⟨1, 1, 4⟩, .le⟩
  second := ⟨⟨1, 2, 6⟩, .le⟩
  objective := ⟨-1, -1⟩
  bounds := ⟨10, 10⟩
  valid := by decide +kernel

def boundedFromBelow : Problem Rat where
  first := ⟨⟨-1, 0, -1⟩, .le⟩
  second := ⟨⟨1, 1, 5⟩, .le⟩
  objective := ⟨1, 1⟩
  bounds := ⟨10, 10⟩
  valid := by decide +kernel

-- The boundaries cross at (5 * 10 ^ 15, 1000) but count as parallel.
def nearlyParallelRoof : Problem Rat where
  first := ⟨⟨0, 1, 1000⟩, .le⟩
  second := ⟨⟨1 / 10000000000000, 1, 1500⟩, .le⟩
  objective := ⟨1 / 20000000000000, 1⟩
  bounds := ⟨20000000000000000, 2000⟩
  valid := by decide +kernel

theorem extrema_not_global :
    ((cutByEdge.solve .maximize defaultTolerance).maximum = some ⟨0, ⟨6, 0⟩, 6⟩ ∧ cutByEdge.Feasible 0 ⟨6, 4⟩ ∧
        6 + cutByEdge.objective.mergeLoss < cutByEdge.objective.value ⟨6, 4⟩) ∧
      ((bestAtOrigin.solve .maximize defaultTolerance).maximum = some ⟨1, ⟨0, 3⟩, -3⟩ ∧
        bestAtOrigin.Feasible 0 .origin ∧
        -3 + bestAtOrigin.objective.mergeLoss < bestAtOrigin.objective.value .origin) ∧
      ((boundedFromBelow.solve .minimize defaultTolerance).minimum = some ⟨0, ⟨5, 0⟩, 5⟩ ∧
        boundedFromBelow.Feasible 0 ⟨1, 0⟩ ∧
        boundedFromBelow.objective.value ⟨1, 0⟩ < 5 - boundedFromBelow.objective.mergeLoss) ∧
      ((nearlyParallelRoof.solve .maximize defaultTolerance).maximum = some ⟨1, ⟨0, 1000⟩, 1000⟩ ∧
        nearlyParallelRoof.Feasible 0 ⟨5000000000000000, 1000⟩ ∧
        1000 + nearlyParallelRoof.objective.mergeLoss <
          nearlyParallelRoof.objective.value ⟨5000000000000000, 1000⟩) := by
  decide +kernel

end PlanarLP
