import PlanarLP.Proofs.CommonPoint
import PlanarLP.Proofs.RelatedRuns

set_option autoImplicit false

namespace PlanarLP

def Constraint.scaled (c : Constraint Rat) (k : Rat) : Constraint Rat := ⟨c.boundary.scaled k, c.direction⟩

-- A factor of one is allowed, so that a list may have some of its constraints rewritten.
def Constraint.InUnits (c d : Constraint Rat) : Prop := ∃ k, 0 < k ∧ d = c.scaled k

theorem in_units_scaled (c : Constraint Rat) (k : Rat) (positive : 0 < k) : c.InUnits (c.scaled k) :=
  ⟨k, positive, rfl⟩

theorem in_units_refl (c : Constraint Rat) : c.InUnits c := by
  refine ⟨1, one_pos, ?_⟩
  unfold Constraint.scaled
  rw [scaled_one]

section Lines

variable (l : Line Rat) (k : Rat)

theorem coefficient_scaled (axis : Axis) : (l.scaled k).coefficient axis = k * l.coefficient axis := by
  cases axis <;> rfl

theorem value_scaled (p : Point Rat) : (l.scaled k).value p = k * l.value p := by
  simp only [value_exactly, Line.scaled]
  ring

theorem intercept_scaled (positive : 0 < k) (axis : Axis) : (l.scaled k).intercept? axis = l.intercept? axis := by
  have crossing : (l.scaled k).crossing axis = l.crossing axis := by
    unfold Line.crossing
    rw [coefficient_scaled]
    exact mul_div_mul_left _ _ positive.ne'
  rw [intercept_exactly, intercept_exactly, crossing, coefficient_scaled]
  simp only [mul_eq_zero, positive.ne', false_or]

end Lines

section Halfplanes

variable (c d : Constraint Rat) (same : c.InUnits d)

include same

theorem direction_in_units : d.direction = c.direction := by
  obtain ⟨k, _, rfl⟩ := same
  rfl

theorem limits_in_units (axis : Axis) : d.boundary.coefficient axis ≤ 0 ↔ c.boundary.coefficient axis ≤ 0 := by
  obtain ⟨k, positive, rfl⟩ := same
  change (c.boundary.scaled k).coefficient axis ≤ 0 ↔ _
  rw [coefficient_scaled, ← not_lt, ← not_lt, mul_pos_iff_of_pos_left positive]

theorem intercept_in_units (axis : Axis) : d.boundary.intercept? axis = c.boundary.intercept? axis := by
  obtain ⟨k, positive, rfl⟩ := same
  exact intercept_scaled c.boundary k positive axis

theorem slack_in_units (p : Point Rat) : 0 ≤ d.slack p ↔ 0 ≤ c.slack p := by
  obtain ⟨k, positive, rfl⟩ := same
  have grown : (c.scaled k).slack p = k * c.slack p := by
    obtain ⟨l, direction⟩ := c
    cases direction with
    | le => exact (congrArg (k * l.c - ·) (value_scaled l k p)).trans (mul_sub k _ _).symm
    | ge => exact (congrArg (· - k * l.c) (value_scaled l k p)).trans (mul_sub k _ _).symm
  rw [grown]
  exact mul_nonneg_iff_of_pos_left positive

omit same in
theorem intersection_in_units (c' d' : Constraint Rat) (first : c.InUnits c') (second : d.InUnits d') :
    c'.boundary.intersection? d'.boundary = c.boundary.intersection? d.boundary := by
  obtain ⟨j, left, rfl⟩ := first
  obtain ⟨k, right, rfl⟩ := second
  exact intersection_scaled c.boundary d.boundary j k left.ne' right.ne'

end Halfplanes

section Listing

theorem pairs_related {β : Type} (related : β → β → Prop) (as bs : List β) (paired : List.Forall₂ related as bs) :
    List.Forall₂ (fun p q => related p.1 q.1 ∧ related p.2 q.2) (pairs as) (pairs bs) := by
  induction paired with
  | nil => exact .nil
  | cons head tail ih =>
      refine List.rel_append ?_ ih
      exact List.forall₂_map_left_iff.mpr (List.forall₂_map_right_iff.mpr (tail.imp fun _ _ pair => ⟨head, pair⟩))

theorem map_respects {β γ : Type} (related : β → β → Prop) (f : β → γ) (respects : ∀ a b, related a b → f b = f a)
    (as bs : List β) (paired : List.Forall₂ related as bs) : bs.map f = as.map f := by
  induction paired with
  | nil => rfl
  | cons head _ ih => rw [List.map_cons, List.map_cons, respects _ _ head, ih]

theorem filter_map_respects {β γ : Type} (related : β → β → Prop) (f : β → Option γ)
    (respects : ∀ a b, related a b → f b = f a) (as bs : List β) (paired : List.Forall₂ related as bs) :
    bs.filterMap f = as.filterMap f := by
  rw [← Function.id_comp f, ← List.filterMap_map, ← List.filterMap_map, map_respects related f respects as bs paired]

variable (cs ds : List (Constraint Rat)) (same : List.Forall₂ Constraint.InUnits cs ds) (bounds : Bounds Rat)

include same

theorem numbered_in_units (start : Nat) :
    List.Forall₂ (fun p q => p.1.InUnits q.1 ∧ p.2 = q.2) (cs.zipIdx start) (ds.zipIdx start) := by
  induction same generalizing start with
  | nil => exact .nil
  | cons head _ ih => exact .cons ⟨head, rfl⟩ (ih (start + 1))

theorem crossings_in_units (axis : Axis) : axisCrossings ds axis = axisCrossings cs axis := by
  refine filter_map_respects _ _ ?_ _ _ (numbered_in_units cs ds same 0)
  rintro ⟨c, i⟩ ⟨d, _⟩ ⟨units, rfl⟩
  simp only [limits_in_units c d units axis, intercept_in_units c d units axis]

theorem tightest_in_units (direction : Direction) (axis : Axis) :
    tightest? ds bounds direction axis = tightest? cs bounds direction axis := by
  unfold tightest?
  rw [crossings_in_units cs ds same axis]

theorem shared_in_units : sharedDirection? ds = sharedDirection? cs := by
  have directions := map_respects _ (·.direction) direction_in_units cs ds same
  have reading (l : List (Constraint Rat)) (direction : Direction) :
      l.all (·.direction == direction) = (l.map (·.direction)).all (· == direction) := by
    rw [List.all_map]
    rfl
  cases same with
  | nil => rfl
  | cons head tail =>
      obtain ⟨first, rest⟩ := List.cons_eq_cons.mp directions
      simp only [sharedDirection?, reading, first, rest]

theorem axis_candidates_in_units : axisCandidates ds bounds = axisCandidates cs bounds := by
  unfold axisCandidates
  rw [shared_in_units cs ds same]
  cases sharedDirection? cs with
  | some direction => simp only [tightest_in_units cs ds same bounds]
  | none =>
      refine congrArg List.flatten (map_respects _ _ ?_ _ _ (numbered_in_units cs ds same 0))
      rintro ⟨c, i⟩ ⟨d, _⟩ ⟨units, rfl⟩
      simp only [intercept_in_units c d units]

theorem intersections_in_units : intersections ds = intersections cs := by
  refine filter_map_respects _ _ ?_ _ _ (pairs_related _ _ _ (numbered_in_units cs ds same 0))
  rintro ⟨⟨c, i⟩, d, j⟩ ⟨⟨c', _⟩, d', _⟩ ⟨⟨first, rfl⟩, second, rfl⟩
  simp only [intersection_in_units c d c' d' first second]

theorem candidates_in_units : candidates ds bounds = candidates cs bounds := by
  unfold candidates
  rw [axis_candidates_in_units cs ds same bounds, intersections_in_units cs ds same]

end Listing

section Solving

variable (problem : Problem Rat)

theorem exact_accepted (first second : Constraint Rat) :
    Problem.fault? first second problem.objective problem.bounds = none :=
  (problem_fault_none _ _ _ _).mpr ⟨fun _ _ => rfl, ((problem_fault_none _ _ _ _).mp problem.valid).2⟩

def Problem.withConstraints (first second : Constraint Rat) : Problem Rat where
  first := first
  second := second
  objective := problem.objective
  bounds := problem.bounds
  valid := exact_accepted problem first second

variable (first second : Constraint Rat) (left : problem.first.InUnits first) (right : problem.second.InUnits second)

include left right

theorem constraints_in_units :
    List.Forall₂ Constraint.InUnits problem.constraints (problem.withConstraints first second).constraints :=
  .cons left (.cons right .nil)

theorem feasible_in_units (p : Point Rat) :
    (problem.withConstraints first second).Feasible 0 p ↔ problem.Feasible 0 p := by
  rw [feasible_exactly, feasible_exactly]
  refine and_congr_right' ?_
  simp only [Problem.constraints, Problem.withConstraints, List.forall_mem_cons, slack_in_units _ _ left,
    slack_in_units _ _ right]

theorem vertices_in_units :
    (problem.withConstraints first second).feasibleVertices 0 = problem.feasibleVertices 0 := by
  have listed := candidates_in_units _ _ (constraints_in_units problem first second left right) problem.bounds
  have matched (c : Candidate Rat) : problem.Matches (problem.withConstraints first second) 0 Eq c c := by
    have feasible := feasible_in_units problem first second left right
    exact ⟨(and_congr (feasible _) (feasible _)).symm, rfl⟩
  have related := feasible_vertices_related problem (problem.withConstraints first second) 0 Eq
    (fun _ _ _ _ v w => v ▸ w ▸ Iff.rfl) (listed ▸ List.forall₂_same.mpr fun c _ => matched c)
  exact (List.forall₂_eq_eq_eq ▸ related).symm

theorem solve_in_units (goal : Goal) :
    (problem.withConstraints first second).solve goal 0 = problem.solve goal 0 := by
  unfold Problem.solve
  rw [vertices_in_units problem first second left right]

end Solving

theorem units_irrelevant (problem : Problem Rat) (goal : Goal) (k : Rat) (positive : 0 < k) :
    (problem.withConstraints (problem.first.scaled k) problem.second).solve goal 0 = problem.solve goal 0 ∧
      (problem.withConstraints problem.first (problem.second.scaled k)).solve goal 0 = problem.solve goal 0 :=
  ⟨solve_in_units problem _ _ (in_units_scaled _ k positive) (in_units_refl _) goal,
    solve_in_units problem _ _ (in_units_refl _) (in_units_scaled _ k positive) goal⟩

def wedgeAtAxis : Problem Rat where
  first := ⟨⟨2, 1, 10⟩, .le⟩
  second := ⟨⟨1, 3, 15⟩, .ge⟩
  objective := ⟨2, 1⟩
  bounds := ⟨20, 20⟩
  valid := by decide +kernel

theorem units_irrelevant_wedge_at_axis :
    (0 : Rat) < 1 / 20 ∧ ((wedgeAtAxis.solve .both 0).vertices.map (·.point) = [⟨0, 10⟩, ⟨0, 5⟩, ⟨3, 4⟩]) ∧
      (wedgeAtAxis.withConstraints (wedgeAtAxis.first.scaled (1 / 20)) wedgeAtAxis.second).solve .both 0 =
        wedgeAtAxis.solve .both 0 ∧
      (wedgeAtAxis.withConstraints wedgeAtAxis.first (wedgeAtAxis.second.scaled (1 / 20))).solve .both 0 =
        wedgeAtAxis.solve .both 0 := by
  have positive : (0 : Rat) < 1 / 20 := by decide +kernel
  exact ⟨positive, by decide +kernel, units_irrelevant wedgeAtAxis .both (1 / 20) positive⟩

-- A tolerance above zero is compared with the slack in the units of the constraint.
example :
    (wedgeAtAxis.solve .both 1).vertices.length = 3 ∧
      ((wedgeAtAxis.withConstraints wedgeAtAxis.first (wedgeAtAxis.second.scaled (1 / 20))).solve .both 1).vertices =
        ⟨⟨5, 0⟩, 10, .intercept .x (.constraint 0)⟩ :: (wedgeAtAxis.solve .both 1).vertices := by
  decide +kernel

end PlanarLP
