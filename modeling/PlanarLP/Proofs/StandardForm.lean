import PlanarLP.Proofs.MixedDirections

set_option autoImplicit false

namespace PlanarLP

structure Standard (first second : Line Rat) (objective : Objective Rat) : Prop where
  firstPositive : 0 < first.a ∧ 0 < first.b
  secondPositive : 0 < second.a ∧ 0 < second.b
  nonnegative : 0 ≤ first.c ∧ 0 ≤ second.c
  rising : 0 ≤ objective.g ∧ 0 ≤ objective.h
  resolved : first.determinant second = 0 ∨ first.intersection? second ≠ none

def Problem.Covers (problem : Problem Rat) (o : Objective Rat) : Prop :=
  ∀ p, problem.Satisfies p →
    ∃ q, Listed problem.constraints problem.bounds q ∧ problem.Feasible 0 q ∧ o.value p ≤ o.value q

section Covered

variable {problem : Problem Rat} {o : Objective Rat} (goal : Goal) (tolerance : Rat) (loose : 0 ≤ tolerance)
  (p : Point Rat) (satisfied : problem.Satisfies p)

include loose satisfied

theorem covered_optimal (covers : problem.Covers o) : (problem.solve goal tolerance).status = .optimal := by
  obtain ⟨q, listed, feasible, _⟩ := covers p satisfied
  cases verdict : (problem.solve goal tolerance).status with
  | optimal => rfl
  | infeasible => exact absurd feasible (infeasible_unlisted problem goal tolerance q loose verdict listed)

theorem covered_maximum (covers : problem.Covers problem.objective) (m : Extremum Rat)
    (found : (problem.solve goal tolerance).maximum = some m) :
    problem.objective.value p ≤ m.value + problem.objective.mergeLoss := by
  obtain ⟨q, listed, feasible, better⟩ := covers p satisfied
  exact better.trans (maximum_reaches problem goal tolerance m q loose found listed feasible)

theorem covered_minimum (covers : problem.Covers problem.objective.negated) (m : Extremum Rat)
    (found : (problem.solve goal tolerance).minimum = some m) :
    m.value - problem.objective.mergeLoss ≤ problem.objective.value p := by
  obtain ⟨q, listed, feasible, better⟩ := covers p satisfied
  rw [negated_value, negated_value, neg_le_neg_iff] at better
  exact (minimum_reaches problem goal tolerance m q loose found listed feasible).trans better

end Covered

theorem make_parts (first second : Constraint Rat) (objective : Objective Rat) (bounds : Bounds Rat)
    (problem : Problem Rat) (made : Problem.make first second objective bounds = .ok problem) :
    (problem.first = first ∧ problem.second = second) ∧ problem.objective = objective ∧ problem.bounds = bounds := by
  unfold Problem.make at made
  split at made
  · cases made
    exact ⟨⟨rfl, rfl⟩, rfl, rfl⟩
  · cases made

section Standard

variable {problem : Problem Rat} {first second : Line Rat} {direction : Direction}
  (standard : Standard first second problem.objective)
  (shape : problem.first = ⟨first, direction⟩ ∧ problem.second = ⟨second, direction⟩)

include shape

theorem standard_member (c : Constraint Rat) :
    c ∈ problem.constraints ↔ c = ⟨first, direction⟩ ∨ c = ⟨second, direction⟩ := by
  rw [Problem.constraints, List.mem_pair, shape.1, shape.2]

theorem standard_direction : sharedDirection? problem.constraints = some direction := by
  simp [Problem.constraints, sharedDirection?, shape.1, shape.2]

include standard

theorem standard_coefficient (c : Constraint Rat) (member : c ∈ problem.constraints) :
    (0 < c.boundary.a ∧ 0 < c.boundary.b) ∧ 0 ≤ c.boundary.c := by
  rcases (standard_member shape c).mp member with same | same <;> rw [same]
  · exact ⟨standard.firstPositive, standard.nonnegative.1⟩
  · exact ⟨standard.secondPositive, standard.nonnegative.2⟩

theorem standard_crossing (c : Constraint Rat) (member : c ∈ problem.constraints) (axis : Axis) :
    0 < c.boundary.coefficient axis ∧ 0 ≤ c.boundary.crossing axis := by
  obtain ⟨⟨right, up⟩, low⟩ := standard_coefficient standard shape c member
  cases axis with
  | x => exact ⟨right, div_nonneg low right.le⟩
  | y => exact ⟨up, div_nonneg low up.le⟩

theorem standard_resolved : problem.first.boundary.determinant problem.second.boundary = 0 ∨
    problem.first.boundary.intersection? problem.second.boundary ≠ none := by
  rw [shape.1, shape.2]
  exact standard.resolved

end Standard

section Upper

variable {problem : Problem Rat} {first second : Line Rat} (standard : Standard first second problem.objective)
  (shape : problem.first = ⟨first, .le⟩ ∧ problem.second = ⟨second, .le⟩)

include standard shape

theorem upper_within (c : Constraint Rat) (member : c ∈ problem.constraints) (p : Point Rat)
    (satisfied : problem.Satisfies p) : p.x ≤ c.boundary.crossing .x ∧ p.y ≤ c.boundary.crossing .y := by
  have below := (holds_exactly c p).mp (satisfied.2 c member)
  have direction : c.direction = .le := by
    rcases (standard_member shape c).mp member with same | same <;> rw [same]
  obtain ⟨l, side⟩ := c
  cases direction
  exact within_crossings l (standard_coefficient standard shape _ member).1 p satisfied.1 (sub_nonneg.mp below)

theorem upper_feasible (fits : ∀ axis, min (first.crossing axis) (second.crossing axis) ≤ problem.bounds.top axis)
    (p : Point Rat) (satisfied : problem.Satisfies p) : problem.Feasible 0 p := by
  have left := upper_within standard shape _ ((standard_member shape _).mpr (.inl rfl)) p satisfied
  have right := upper_within standard shape _ ((standard_member shape _).mpr (.inr rfl)) p satisfied
  have width := (le_min left.1 right.1).trans (fits .x)
  have height := (le_min left.2 right.2).trans (fits .y)
  exact (feasible_exactly problem p).mpr ⟨⟨⟨satisfied.1.1, width⟩, satisfied.1.2, height⟩,
    fun c member => (holds_exactly c p).mp (satisfied.2 c member)⟩

theorem upper_origin : problem.Satisfies .origin := by
  refine ⟨⟨le_rfl, le_rfl⟩, fun c member => (holds_exactly c _).mpr ?_⟩
  have low := (standard_coefficient standard shape c member).2
  rcases (standard_member shape c).mp member with same | same <;> rw [same] at low ⊢ <;>
    simpa [slack_le, Point.origin] using low

theorem upper_covers (fits : ∀ axis, min (first.crossing axis) (second.crossing axis) ≤ problem.bounds.top axis) :
    problem.Covers problem.objective := by
  intro p satisfied
  have shared := standard_direction shape
  have confined := upper_bound_confines problem.constraints first standard.firstPositive
    ((standard_member shape _).mpr (.inl rfl)) problem.objective
  obtain ⟨q, inside, better, corner⟩ := corner_reached _ _ confined p ((satisfies_inside problem p).mp satisfied)
  have feasible := upper_feasible standard shape fits q ((satisfies_inside problem q).mpr inside)
  rcases corner_in_quadrant _ q corner with origin | ⟨axis, c, member, _, rfl⟩ | crossing
  · -- the origin is no candidate; the limit of the x-axis is at least as good
    obtain ⟨v, listed, limit⟩ := upper_limit_listed problem.constraints problem.bounds .x shared
    have start : problem.Feasible 0 (.onAxis .x 0) := by
      rwa [origin_on_axis, ← origin]
    obtain ⟨later, reached⟩ := upper_limit_feasible problem .x 0 v shared start limit
    refine ⟨_, listed, reached, better.trans ?_⟩
    have gain := mul_nonneg standard.rising.1 later
    simpa [origin, objective_value_exactly, Point.origin, Point.onAxis] using gain
  · have rises := (standard_crossing standard shape c member axis).1
    exact ⟨_, feasible_crossing_listed problem axis c .le shared member rises feasible, feasible, better⟩
  · exact ⟨q, resolved_corner_listed problem q crossing (standard_resolved standard shape), feasible, better⟩

end Upper

theorem rising_value (o : Objective Rat) (rising : 0 ≤ o.g ∧ 0 ≤ o.h) (d : Point Rat) (forward : 0 ≤ d.x ∧ 0 ≤ d.y) :
    0 ≤ o.value d :=
  add_nonneg (mul_nonneg rising.1 forward.1) (mul_nonneg rising.2 forward.2)

-- Against a rising objective every line leads back to a wall of the quadrant, bounded region or not.
theorem rising_confines (cs : List (Constraint Rat)) (o : Objective Rat) (rising : 0 ≤ o.g ∧ 0 ≤ o.h) :
    Confines (cs ++ quadrant) o.negated := by
  intro d nonzero
  have walled (e : Point Rat) (backwards : e.x < 0 ∨ e.y < 0) : ∃ c ∈ cs ++ quadrant, c.rate e < 0 := by
    obtain ⟨wall, listed, against⟩ := quadrant_blocks e backwards
    exact ⟨wall, List.mem_append_right _ listed, against⟩
  by_cases falls : o.value d ≤ 0 ∧ (d.x < 0 ∨ d.y < 0)
  · refine ⟨d, .inl rfl, ?_, walled d falls.2⟩
    rw [negated_value]
    exact neg_nonneg.mpr falls.1
  · have ahead : 0 ≤ o.value d ∧ (0 < d.x ∨ 0 < d.y) := by
      by_cases backwards : d.x < 0 ∨ d.y < 0
      · have gain : 0 < o.value d := not_le.mp fun low => falls ⟨low, backwards⟩
        refine ⟨gain.le, ?_⟩
        by_contra still
        rw [not_or, not_lt, not_lt] at still
        have loss := rising_value o rising d.opposite ⟨neg_nonneg.mpr still.1, neg_nonneg.mpr still.2⟩
        rw [objective_opposite] at loss
        linarith
      · obtain ⟨forward, moves⟩ := forward_direction d nonzero backwards
        exact ⟨rising_value o rising d forward, moves⟩
    refine ⟨d.opposite, .inr rfl, ?_, walled _ (ahead.2.imp neg_neg_of_pos neg_neg_of_pos)⟩
    rw [negated_value, objective_opposite, neg_neg]
    exact ahead.1

section Lower

variable {problem : Problem Rat} {first second : Line Rat} (standard : Standard first second problem.objective)
  (shape : problem.first = ⟨first, .ge⟩ ∧ problem.second = ⟨second, .ge⟩)
  (fits : ∀ axis, max (first.crossing axis) (second.crossing axis) ≤ problem.bounds.top axis)

include shape fits

theorem lower_fits (c : Constraint Rat) (member : c ∈ problem.constraints) (axis : Axis) :
    c.boundary.crossing axis ≤ problem.bounds.top axis := by
  rcases (standard_member shape c).mp member with same | same <;> rw [same]
  · exact (le_max_left _ _).trans (fits axis)
  · exact (le_max_right _ _).trans (fits axis)

include standard

theorem lower_satisfiable : problem.Satisfies ⟨problem.bounds.xMax, problem.bounds.yMax⟩ := by
  have width := exact_top_positive problem .x
  have height := exact_top_positive problem .y
  refine ⟨⟨width.le, height.le⟩, fun c member => (holds_exactly c _).mpr ?_⟩
  have positive := (standard_coefficient standard shape c member).1
  have reached := lower_fits shape fits c member .x
  have direction : c.direction = .ge := by
    rcases (standard_member shape c).mp member with same | same <;> rw [same]
  obtain ⟨l, side⟩ := c
  cases direction
  change l.c / l.a ≤ problem.bounds.xMax at reached
  rw [div_le_iff₀ positive.1] at reached
  have above : 0 ≤ l.b * problem.bounds.yMax := mul_nonneg positive.2.le height.le
  rw [slack_ge]
  linarith

-- The region may leave the box, but its corners do not.
theorem lower_corner_feasible (q : Point Rat) (satisfied : problem.Satisfies q)
    (corner : CornerOf (problem.constraints ++ quadrant) q) : problem.Feasible 0 q := by
  have inside : Inside problem.constraints q := fun c member => (holds_exactly c q).mp (satisfied.2 c member)
  have width := exact_top_positive problem .x
  have height := exact_top_positive problem .y
  have box : q.x ≤ problem.bounds.xMax ∧ q.y ≤ problem.bounds.yMax := by
    rcases corner_in_quadrant _ q corner with origin | ⟨axis, c, member, _, place⟩ | crossing
    · rw [origin]
      exact ⟨width.le, height.le⟩
    · have reached := lower_fits shape fits c member axis
      rw [place]
      cases axis with
      | x => exact ⟨reached, height.le⟩
      | y => exact ⟨width.le, reached⟩
    · have met := (boundaries_cross problem q crossing).2.1
      rw [shape.1] at met
      have within := within_crossings first standard.firstPositive q satisfied.1 met.le
      have present : (⟨first, .ge⟩ : Constraint Rat) ∈ problem.constraints := (standard_member shape _).mpr (.inl rfl)
      exact ⟨within.1.trans (lower_fits shape fits _ present .x), within.2.trans (lower_fits shape fits _ present .y)⟩
  exact (feasible_exactly problem q).mpr ⟨⟨⟨satisfied.1.1, box.1⟩, satisfied.1.2, box.2⟩, inside⟩

theorem lower_covers : problem.Covers problem.objective.negated := by
  intro p satisfied
  have shared := standard_direction shape
  have confined := rising_confines problem.constraints problem.objective standard.rising
  obtain ⟨q, inside, better, corner⟩ := corner_reached _ _ confined p ((satisfies_inside problem p).mp satisfied)
  have reached := (satisfies_inside problem q).mpr inside
  have feasible := lower_corner_feasible standard shape fits q reached corner
  refine ⟨q, ?_, feasible, better⟩
  have crossing (axis : Axis) (c : Constraint Rat) (member : c ∈ problem.constraints)
      (place : q = .onAxis axis (c.boundary.crossing axis)) : Listed problem.constraints problem.bounds q := by
    have rises := (standard_crossing standard shape c member axis).1
    rw [place] at feasible ⊢
    exact feasible_crossing_listed problem axis c .ge shared member rises feasible
  rcases corner_in_quadrant _ q corner with origin | ⟨axis, c, member, _, place⟩ | crossed
  · -- a lower bound admits the origin only if its boundary runs through it
    have present : (⟨first, .ge⟩ : Constraint Rat) ∈ problem.constraints := (standard_member shape _).mpr (.inl rfl)
    have above := (holds_exactly _ q).mp (reached.2 _ present)
    rw [origin, slack_ge] at above
    have through : first.c = 0 := le_antisymm (by simpa [Point.origin] using above) standard.nonnegative.1
    refine crossing .x _ present ?_
    rw [Line.crossing, through, zero_div, origin_on_axis, origin]
  · exact crossing axis c member place
  · exact resolved_corner_listed problem q crossed (standard_resolved standard shape)

end Lower

theorem rising_merge_loss (o : Objective Rat) (rising : 0 ≤ o.g ∧ 0 ≤ o.h) : o.mergeLoss = (o.g + o.h) / 100 := by
  rw [Objective.mergeLoss, abs_of_nonneg rising.1, abs_of_nonneg rising.2]

theorem upper_maximum (first second : Line Rat) (objective : Objective Rat) (bounds : Bounds Rat)
    (problem : Problem Rat) (made : Mode.maximize.problem first second objective bounds = .ok problem)
    (standard : Standard first second objective)
    (fits : min (first.c / first.a) (second.c / second.a) ≤ bounds.xMax ∧
      min (first.c / first.b) (second.c / second.b) ≤ bounds.yMax)
    (tolerance : Rat) (loose : 0 ≤ tolerance) :
    (problem.solve .maximize tolerance).status = .optimal ∧
      ∃ m, (problem.solve .maximize tolerance).maximum = some m ∧
        (∀ p, problem.Satisfies p → objective.value p ≤ m.value + (objective.g + objective.h) / 100) ∧
        (tolerance = 0 → problem.Feasible 0 m.point ∧ m.value = objective.value m.point) := by
  obtain ⟨shape, rfl, rfl⟩ := make_parts _ _ objective bounds problem made
  have covers := upper_covers standard shape fun axis => by
    cases axis with
    | x => exact fits.1
    | y => exact fits.2
  have verdict := covered_optimal .maximize tolerance loose .origin (upper_origin standard shape) covers
  obtain ⟨m, found⟩ := solve_maximum_exists problem .maximize tolerance rfl (by simp [verdict])
  refine ⟨verdict, m, found, fun p satisfied => ?_, ?_⟩
  · rw [← rising_merge_loss _ standard.rising]
    exact covered_maximum .maximize tolerance loose p satisfied covers m found
  · rintro rfl
    exact selected_attained problem 0 _ m (solve_maximum problem .maximize 0 m found)

theorem upper_maximum_two_upper_bounds :
    Mode.maximize.problem ⟨2, 1, 300⟩ ⟨1, 2, 300⟩ ⟨150, 100⟩ ⟨300, 300⟩ = .ok twoUpperBounds ∧
      (twoUpperBounds.solve .maximize 0).maximum = some ⟨2, ⟨100, 100⟩, 25000⟩ ∧
      twoUpperBounds.Satisfies ⟨101, 98⟩ ∧
      twoUpperBounds.objective.value ⟨101, 98⟩ ≤ 25000 + (150 + 100) / 100 ∧ twoUpperBounds.Feasible 0 ⟨100, 100⟩ := by
  have made : Mode.maximize.problem ⟨2, 1, 300⟩ ⟨1, 2, 300⟩ ⟨150, 100⟩ ⟨300, 300⟩ = .ok twoUpperBounds := rfl
  have standard : Standard ⟨2, 1, 300⟩ ⟨1, 2, 300⟩ ⟨150, 100⟩ := by constructor <;> decide +kernel
  have largest : (twoUpperBounds.solve .maximize 0).maximum = some ⟨2, ⟨100, 100⟩, 25000⟩ := by decide +kernel
  have satisfied : twoUpperBounds.Satisfies ⟨101, 98⟩ := by
    unfold Problem.Satisfies
    decide +kernel
  obtain ⟨_, m, found, bound, attained⟩ :=
    upper_maximum _ _ _ _ twoUpperBounds made standard (by decide +kernel) 0 le_rfl
  cases largest.symm.trans found
  exact ⟨made, largest, satisfied, bound _ satisfied, (attained rfl).1⟩

theorem lower_minimum (first second : Line Rat) (objective : Objective Rat) (bounds : Bounds Rat)
    (problem : Problem Rat) (made : Mode.minimize.problem first second objective bounds = .ok problem)
    (standard : Standard first second objective)
    (fits : max (first.c / first.a) (second.c / second.a) ≤ bounds.xMax ∧
      max (first.c / first.b) (second.c / second.b) ≤ bounds.yMax)
    (tolerance : Rat) (loose : 0 ≤ tolerance) :
    (problem.solve .minimize tolerance).status = .optimal ∧
      ∃ m, (problem.solve .minimize tolerance).minimum = some m ∧
        (∀ p, problem.Satisfies p → m.value - (objective.g + objective.h) / 100 ≤ objective.value p) ∧
        (tolerance = 0 → problem.Feasible 0 m.point ∧ m.value = objective.value m.point) := by
  obtain ⟨shape, rfl, rfl⟩ := make_parts _ _ objective bounds problem made
  have room : ∀ axis, max (first.crossing axis) (second.crossing axis) ≤ problem.bounds.top axis := fun axis => by
    cases axis with
    | x => exact fits.1
    | y => exact fits.2
  have covers := lower_covers standard shape room
  have verdict := covered_optimal .minimize tolerance loose _ (lower_satisfiable standard shape room) covers
  obtain ⟨m, found⟩ := solve_minimum_exists problem .minimize tolerance rfl (by simp [verdict])
  refine ⟨verdict, m, found, fun p satisfied => ?_, ?_⟩
  · rw [← rising_merge_loss _ standard.rising]
    exact covered_minimum .minimize tolerance loose p satisfied covers m found
  · rintro rfl
    exact selected_attained problem 0 _ m (solve_minimum problem .minimize 0 m found)

def twoLowerBounds : Problem Rat where
  first := ⟨⟨1, 2, 8⟩, .ge⟩
  second := ⟨⟨3, 1, 9⟩, .ge⟩
  objective := ⟨2, 3⟩
  bounds := ⟨10, 10⟩
  valid := by decide +kernel

theorem lower_minimum_two_lower_bounds :
    Mode.minimize.problem ⟨1, 2, 8⟩ ⟨3, 1, 9⟩ ⟨2, 3⟩ ⟨10, 10⟩ = .ok twoLowerBounds ∧
      (twoLowerBounds.solve .minimize 0).minimum = some ⟨2, ⟨2, 3⟩, 13⟩ ∧ twoLowerBounds.Satisfies ⟨20, 1⟩ ∧
      13 - (2 + 3) / 100 ≤ twoLowerBounds.objective.value ⟨20, 1⟩ ∧ twoLowerBounds.Feasible 0 ⟨2, 3⟩ := by
  have made : Mode.minimize.problem ⟨1, 2, 8⟩ ⟨3, 1, 9⟩ ⟨2, 3⟩ ⟨10, 10⟩ = .ok twoLowerBounds := rfl
  have standard : Standard ⟨1, 2, 8⟩ ⟨3, 1, 9⟩ ⟨2, 3⟩ := by constructor <;> decide +kernel
  have smallest : (twoLowerBounds.solve .minimize 0).minimum = some ⟨2, ⟨2, 3⟩, 13⟩ := by decide +kernel
  have satisfied : twoLowerBounds.Satisfies ⟨20, 1⟩ := by
    unfold Problem.Satisfies
    decide +kernel
  obtain ⟨_, m, found, bound, attained⟩ :=
    lower_minimum _ _ _ _ twoLowerBounds made standard (by decide +kernel) 0 le_rfl
  cases smallest.symm.trans found
  exact ⟨made, smallest, satisfied, bound _ satisfied, (attained rfl).1⟩

end PlanarLP
