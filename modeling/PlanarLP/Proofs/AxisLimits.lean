import PlanarLP.Proofs.Region

set_option autoImplicit false

namespace PlanarLP

theorem slack_on_axis_le (l : Line Rat) (axis : Axis) (x : Rat) :
    Constraint.slack ⟨l, .le⟩ (.onAxis axis x) = l.c - l.coefficient axis * x := by
  rw [← value_on_axis]
  rfl

theorem slack_on_axis_ge (l : Line Rat) (axis : Axis) (x : Rat) :
    Constraint.slack ⟨l, .ge⟩ (.onAxis axis x) = l.coefficient axis * x - l.c := by
  rw [← value_on_axis]
  rfl

theorem below_crossing (l : Line Rat) (axis : Axis) (x : Rat) (positive : 0 < l.coefficient axis) :
    0 ≤ Constraint.slack ⟨l, .le⟩ (.onAxis axis x) ↔ x ≤ l.crossing axis := by
  rw [slack_on_axis_le, sub_nonneg, Line.crossing, le_div_iff₀ positive, mul_comm]

theorem above_crossing (l : Line Rat) (axis : Axis) (x : Rat) (positive : 0 < l.coefficient axis) :
    0 ≤ Constraint.slack ⟨l, .ge⟩ (.onAxis axis x) ↔ l.crossing axis ≤ x := by
  rw [slack_on_axis_ge, sub_nonneg, Line.crossing, div_le_iff₀ positive, mul_comm]

theorem slack_rises (l : Line Rat) (axis : Axis) (x y : Rat) (order : x ≤ y) (flat : l.coefficient axis ≤ 0) :
    Constraint.slack ⟨l, .le⟩ (.onAxis axis x) ≤ Constraint.slack ⟨l, .le⟩ (.onAxis axis y) := by
  rw [slack_on_axis_le, slack_on_axis_le]
  linarith [mul_le_mul_of_nonpos_left order flat]

theorem slack_falls (l : Line Rat) (axis : Axis) (x y : Rat) (order : x ≤ y) (flat : l.coefficient axis ≤ 0) :
    Constraint.slack ⟨l, .ge⟩ (.onAxis axis y) ≤ Constraint.slack ⟨l, .ge⟩ (.onAxis axis x) := by
  rw [slack_on_axis_ge, slack_on_axis_ge]
  linarith [mul_le_mul_of_nonpos_left order flat]

theorem contains_on_axis (bounds : Bounds Rat) (box : 0 < bounds.xMax ∧ 0 < bounds.yMax) (axis : Axis) (v : Rat) :
    bounds.Contains 0 (.onAxis axis v) ↔ 0 ≤ v ∧ v ≤ bounds.top axis := by
  rw [contains_exactly]
  cases axis with
  | x => exact and_iff_left ⟨le_rfl, box.2.le⟩
  | y => exact and_iff_right ⟨le_rfl, box.1.le⟩

theorem axis_feasible (problem : Problem Rat) (axis : Axis) (x : Rat) :
    problem.Feasible 0 (.onAxis axis x) ↔
      (0 ≤ x ∧ x ≤ problem.bounds.top axis) ∧ Inside problem.constraints (.onAxis axis x) := by
  have box : 0 < problem.bounds.xMax ∧ 0 < problem.bounds.yMax :=
    ⟨exact_top_positive problem .x, exact_top_positive problem .y⟩
  unfold Problem.Feasible
  rw [contains_on_axis _ box]
  exact and_congr_right' (forall₂_congr fun c _ => holds_exactly c _)

section Order

variable (cs : List (Constraint Rat)) (axis : Axis) (x v : Rat) (inside : Inside cs (.onAxis axis x))

include inside

theorem upper_limit_order (bounds : Bounds Rat) (shared : sharedDirection? cs = some .le) (high : x ≤ bounds.top axis)
    (limit : IsUpperLimit cs bounds axis v) : x ≤ v := by
  rcases limit.2 with edge | ⟨⟨l, _⟩, member, positive, same⟩
  · rw [edge]
    exact high
  · cases shared_direction cs .le shared _ member
    rw [same]
    exact (below_crossing l axis x positive).mp (inside _ member)

theorem lower_limit_order (shared : sharedDirection? cs = some .ge) (limit : IsLowerLimit cs axis v) : v ≤ x := by
  obtain ⟨⟨l, _⟩, member, positive, same⟩ := limit.2
  cases shared_direction cs .ge shared _ member
  rw [same]
  exact (above_crossing l axis x positive).mp (inside _ member)

end Order

section Listing

variable (cs : List (Constraint Rat)) (bounds : Bounds Rat) (axis : Axis)

theorem positive_crossing_listed (direction : Direction) (c : Constraint Rat)
    (shared : sharedDirection? cs = some direction) (member : c ∈ cs) (positive : 0 < c.boundary.coefficient axis)
    (high : c.boundary.crossing axis ≤ bounds.top axis)
    (inside : Inside cs (.onAxis axis (c.boundary.crossing axis))) :
    Listed cs bounds (.onAxis axis (c.boundary.crossing axis)) := by
  cases direction with
  | le =>
      obtain ⟨v, listed, limit⟩ := upper_limit_listed cs bounds axis shared
      have order := upper_limit_order cs axis _ v inside bounds shared high limit
      rwa [le_antisymm (limit.1.2 c member positive) order] at listed
  | ge =>
      obtain ⟨v, listed, limit⟩ := lower_limit_listed cs bounds axis shared ⟨c, member, positive⟩
      have order := lower_limit_order cs axis _ v inside shared limit
      rwa [le_antisymm order (limit.1 c member positive)] at listed

theorem far_end_listed (shared : sharedDirection? cs = some .le) (inside : Inside cs (.onAxis axis (bounds.top axis))) :
    Listed cs bounds (.onAxis axis (bounds.top axis)) := by
  obtain ⟨v, listed, limit⟩ := upper_limit_listed cs bounds axis shared
  have order := upper_limit_order cs axis _ v inside bounds shared le_rfl limit
  rwa [le_antisymm limit.1.1 order] at listed

end Listing

-- Beyond a feasible point of the axis only positive coefficients cut an upper bound off.
theorem upper_limit_feasible (problem : Problem Rat) (axis : Axis) (x v : Rat)
    (shared : sharedDirection? problem.constraints = some .le)
    (feasible : problem.Feasible 0 (.onAxis axis x)) (limit : IsUpperLimit problem.constraints problem.bounds axis v) :
    x ≤ v ∧ problem.Feasible 0 (.onAxis axis v) := by
  obtain ⟨⟨low, high⟩, satisfied⟩ := (axis_feasible problem axis x).mp feasible
  have order := upper_limit_order problem.constraints axis x v satisfied problem.bounds shared high limit
  obtain ⟨⟨within, below⟩, _⟩ := limit
  refine ⟨order, (axis_feasible problem axis v).mpr ⟨⟨low.trans order, within⟩, ?_⟩⟩
  rintro ⟨l, direction⟩ member
  cases shared_direction problem.constraints .le shared _ member
  by_cases positive : 0 < l.coefficient axis
  · exact (below_crossing l axis v positive).mpr (below _ member positive)
  · exact (satisfied _ member).trans (slack_rises l axis x v order (not_lt.mp positive))

theorem lower_limit_feasible (problem : Problem Rat) (axis : Axis) (x v : Rat) (nonnegative : 0 ≤ v)
    (shared : sharedDirection? problem.constraints = some .ge) (order : v ≤ x)
    (feasible : problem.Feasible 0 (.onAxis axis x))
    (above : ∀ c ∈ problem.constraints, 0 < c.boundary.coefficient axis → c.boundary.crossing axis ≤ v) :
    problem.Feasible 0 (.onAxis axis v) := by
  obtain ⟨⟨_, high⟩, satisfied⟩ := (axis_feasible problem axis x).mp feasible
  refine (axis_feasible problem axis v).mpr ⟨⟨nonnegative, order.trans high⟩, ?_⟩
  rintro ⟨l, direction⟩ member
  cases shared_direction problem.constraints .ge shared _ member
  by_cases positive : 0 < l.coefficient axis
  · exact (above_crossing l axis v positive).mpr (above _ member positive)
  · exact (satisfied _ member).trans (slack_falls l axis v x order (not_lt.mp positive))

theorem upper_axis_point (problem : Problem Rat) (axis : Axis) (x : Rat)
    (shared : sharedDirection? problem.constraints = some .le) (feasible : problem.Feasible 0 (.onAxis axis x)) :
    ∃ q, Listed problem.constraints problem.bounds q ∧ problem.Feasible 0 q := by
  obtain ⟨v, listed, limit⟩ := upper_limit_listed problem.constraints problem.bounds axis shared
  exact ⟨_, listed, (upper_limit_feasible problem axis x v shared feasible limit).2⟩

theorem lower_axis_point (problem : Problem Rat) (axis : Axis) (x : Rat)
    (shared : sharedDirection? problem.constraints = some .ge) (feasible : problem.Feasible 0 (.onAxis axis x)) :
    problem.Feasible 0 .origin ∨ ∃ q, Listed problem.constraints problem.bounds q ∧ problem.Feasible 0 q := by
  obtain ⟨⟨low, _⟩, satisfied⟩ := (axis_feasible problem axis x).mp feasible
  rw [← origin_on_axis axis]
  by_cases limited : ∃ c ∈ problem.constraints, 0 < c.boundary.coefficient axis
  · obtain ⟨v, listed, limit⟩ := lower_limit_listed problem.constraints problem.bounds axis shared limited
    by_cases nonnegative : 0 ≤ v
    · have order := lower_limit_order problem.constraints axis x v satisfied shared limit
      exact .inr ⟨_, listed, lower_limit_feasible problem axis x v nonnegative shared order feasible limit.1⟩
    · left
      apply lower_limit_feasible problem axis x 0 le_rfl shared low feasible
      exact fun c member positive => (limit.1 c member positive).trans (not_le.mp nonnegative).le
  · left
    apply lower_limit_feasible problem axis x 0 le_rfl shared low feasible
    exact fun c member positive => absurd ⟨c, member, positive⟩ limited

theorem axis_in_quadrant (axis : Axis) (x : Rat) : Inside quadrant (.onAxis axis x) ↔ 0 ≤ x := by
  rw [inside_quadrant]
  cases axis <;> simp [Point.onAxis]

theorem back_along_axis (axis : Axis) (x t : Rat) :
    (Point.onAxis axis x).along (.onAxis axis (-1)) t = .onAxis axis (x - t) := by
  cases axis <;> simp [Point.onAxis, Point.along, sub_eq_add_neg]

theorem blocks_axis (c : Constraint Rat) (axis : Axis) (v : Rat) (moves : c.rate (.onAxis axis v) < 0) :
    c.boundary.coefficient axis ≠ 0 := by
  intro zero
  have still : c.boundary.value (.onAxis axis v) = 0 := by rw [value_on_axis, zero, zero_mul]
  exact moves.ne ((rate_zero_iff c _).mpr still)

-- Walking back along the axis ends at a crossing, which mixed directions list, or at the origin.
theorem mixed_axis_point (problem : Problem Rat) (axis : Axis) (x : Rat)
    (mixed : sharedDirection? problem.constraints = none) (feasible : problem.Feasible 0 (.onAxis axis x)) :
    problem.Feasible 0 .origin ∨ ∃ q, Listed problem.constraints problem.bounds q ∧ problem.Feasible 0 q := by
  obtain ⟨⟨low, high⟩, satisfied⟩ := (axis_feasible problem axis x).mp feasible
  have inside : Inside (problem.constraints ++ quadrant) (.onAxis axis x) :=
    (inside_append _ _ _).mpr ⟨satisfied, (axis_in_quadrant axis x).mpr low⟩
  obtain ⟨wall, member, against⟩ := quadrant_blocks (.onAxis axis (-1)) (by cases axis <;> simp [Point.onAxis])
  obtain ⟨t, later, within, c, listed, moves, met⟩ := ray_stops _ _ (.onAxis axis (-1)) inside
    ⟨wall, List.mem_append_right _ member, against⟩
  rw [back_along_axis] at within met
  rw [inside_append, axis_in_quadrant] at within
  have stays : problem.Feasible 0 (.onAxis axis (x - t)) :=
    (axis_feasible problem axis _).mpr ⟨⟨within.2, (sub_le_self x later).trans high⟩, within.1⟩
  have meets := blocks_axis c axis _ moves
  rw [tight_on_axis c axis (x - t) met meets] at stays
  rcases List.mem_append.mp listed with boundary | edge
  · exact .inr ⟨_, mixed_crossing_listed _ problem.bounds axis c mixed boundary meets, stays⟩
  · rw [quadrant_crossing c edge axis, origin_on_axis] at stays
    exact .inl stays

theorem axis_point (problem : Problem Rat) (axis : Axis) (x : Rat) (feasible : problem.Feasible 0 (.onAxis axis x)) :
    (sharedDirection? problem.constraints ≠ some .le ∧ problem.Feasible 0 .origin) ∨
      ∃ q, Listed problem.constraints problem.bounds q ∧ problem.Feasible 0 q := by
  cases shared : sharedDirection? problem.constraints with
  | none => simpa using mixed_axis_point problem axis x shared feasible
  | some direction =>
      cases direction with
      | le => exact .inr (upper_axis_point problem axis x shared feasible)
      | ge => simpa using lower_axis_point problem axis x shared feasible

end PlanarLP
