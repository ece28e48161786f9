import Mathlib.Order.Bounds.Defs
import PlanarLP.Proofs.Optimality

set_option autoImplicit false

namespace PlanarLP

-- The region in the quadrant; the box plays no part.
def Problem.Satisfies (problem : Problem Rat) (p : Point Rat) : Prop :=
  (0 ≤ p.x ∧ 0 ≤ p.y) ∧ ∀ c ∈ problem.constraints, c.Holds 0 p

def Problem.attainable (problem : Problem Rat) : Set Rat :=
  {z | ∃ p, problem.Satisfies p ∧ problem.objective.value p = z}

structure Problem.PositiveMixed (problem : Problem Rat) (upper lower : Line Rat) : Prop where
  directions : (problem.first = ⟨upper, .le⟩ ∧ problem.second = ⟨lower, .ge⟩) ∨
    (problem.first = ⟨lower, .ge⟩ ∧ problem.second = ⟨upper, .le⟩)
  upperPositive : 0 < upper.a ∧ 0 < upper.b
  lowerPositive : 0 < lower.a ∧ 0 < lower.b
  nonnegative : 0 ≤ upper.c ∧ 0 ≤ lower.c
  fits : upper.c / upper.a ≤ problem.bounds.xMax ∧ upper.c / upper.b ≤ problem.bounds.yMax
  resolved : problem.first.boundary.determinant problem.second.boundary = 0 ∨
    problem.first.boundary.intersection? problem.second.boundary ≠ none

theorem satisfies_inside (problem : Problem Rat) (p : Point Rat) :
    problem.Satisfies p ↔ Inside (problem.constraints ++ quadrant) p := by
  unfold Problem.Satisfies
  simp only [inside_append, inside_quadrant, holds_exactly]
  exact and_comm

theorem feasible_satisfies (problem : Problem Rat) (p : Point Rat) (feasible : problem.Feasible 0 p) :
    problem.Satisfies p := by
  rw [feasible_inside, inside_append] at feasible
  exact (satisfies_inside problem p).mpr feasible.1

theorem best_listed (problem : Problem Rat) (o : Objective Rat) (p : Point Rat)
    (listed : Listed problem.constraints problem.bounds p) (feasible : problem.Feasible 0 p) :
    ∃ q, Listed problem.constraints problem.bounds q ∧ problem.Feasible 0 q ∧
      ∀ r, Listed problem.constraints problem.bounds r → problem.Feasible 0 r → o.value r ≤ o.value q := by
  let corners := ((candidates problem.constraints problem.bounds).map Candidate.point).toFinset.filter fun q =>
    problem.Feasible 0 q
  have corner (q : Point Rat) : q ∈ corners ↔ Listed problem.constraints problem.bounds q ∧ problem.Feasible 0 q := by
    simp [corners, Listed]
  obtain ⟨q, found, greatest⟩ := Finset.exists_max_image corners o.value ⟨p, (corner p).mpr ⟨listed, feasible⟩⟩
  obtain ⟨present, within⟩ := (corner q).mp found
  exact ⟨q, present, within, fun r other inside => greatest r ((corner r).mpr ⟨other, inside⟩)⟩

section PositiveMixed

variable {problem : Problem Rat} {upper lower : Line Rat} (mixed : problem.PositiveMixed upper lower)

include mixed

theorem mixed_member (c : Constraint Rat) : c ∈ problem.constraints ↔ c = ⟨upper, .le⟩ ∨ c = ⟨lower, .ge⟩ := by
  rw [Problem.constraints, List.mem_pair]
  rcases mixed.directions with ⟨first, second⟩ | ⟨first, second⟩
  · rw [first, second]
  · rw [first, second]
    exact or_comm

theorem mixed_direction : sharedDirection? problem.constraints = none := by
  rcases mixed.directions with ⟨first, second⟩ | ⟨first, second⟩ <;>
    simp [Problem.constraints, sharedDirection?, first, second]

theorem mixed_feasible (p : Point Rat) (satisfied : problem.Satisfies p) : problem.Feasible 0 p := by
  obtain ⟨low, holds⟩ := satisfied
  have below := (holds_exactly _ p).mp (holds _ ((mixed_member mixed _).mpr (.inl rfl)))
  obtain ⟨width, height⟩ := within_crossings upper mixed.upperPositive p low (sub_nonneg.mp below)
  have box := And.intro (And.intro low.1 (width.trans mixed.fits.1)) (And.intro low.2 (height.trans mixed.fits.2))
  exact (feasible_exactly problem p).mpr ⟨box, fun c member => (holds_exactly c p).mp (holds c member)⟩

theorem mixed_confines (o : Objective Rat) : Confines (problem.constraints ++ quadrant) o :=
  upper_bound_confines _ upper mixed.upperPositive ((mixed_member mixed _).mpr (.inl rfl)) o

theorem mixed_corner_listed (q : Point Rat) (satisfied : problem.Satisfies q)
    (corner : CornerOf (problem.constraints ++ quadrant) q) : Listed problem.constraints problem.bounds q := by
  rcases corner_in_quadrant _ q corner with origin | ⟨axis, c, member, meets, place⟩ | crossing
  · -- the lower bound admits the origin only if its boundary runs through it
    have present : (⟨lower, .ge⟩ : Constraint Rat) ∈ problem.constraints := (mixed_member mixed _).mpr (.inr rfl)
    have above := (holds_exactly _ q).mp (satisfied.2 _ present)
    rw [origin, slack_ge] at above
    have through : lower.c = 0 := by
      refine le_antisymm ?_ mixed.nonnegative.2
      simpa [Point.origin] using above
    have listed := mixed_crossing_listed _ problem.bounds .x _ (mixed_direction mixed) present
      mixed.lowerPositive.1.ne'
    rwa [Line.crossing, through, zero_div, origin_on_axis, ← origin] at listed
  · rw [place]
    exact mixed_crossing_listed _ _ axis c (mixed_direction mixed) member meets
  · exact resolved_corner_listed problem q crossing mixed.resolved

theorem mixed_corner (o : Objective Rat) (p : Point Rat) (satisfied : problem.Satisfies p) :
    ∃ q, Listed problem.constraints problem.bounds q ∧ problem.Feasible 0 q ∧ o.value p ≤ o.value q := by
  obtain ⟨q, inside, better, corner⟩ :=
    corner_reached _ o (mixed_confines mixed o) p ((satisfies_inside problem p).mp satisfied)
  have within := (satisfies_inside problem q).mpr inside
  exact ⟨q, mixed_corner_listed mixed q within corner, mixed_feasible mixed q within, better⟩

theorem mixed_best (o : Objective Rat) (p : Point Rat) (satisfied : problem.Satisfies p) :
    ∃ q, Listed problem.constraints problem.bounds q ∧ problem.Feasible 0 q ∧
      ∀ r, problem.Satisfies r → o.value r ≤ o.value q := by
  obtain ⟨start, present, within, _⟩ := mixed_corner mixed o p satisfied
  obtain ⟨q, listed, feasible, greatest⟩ := best_listed problem o start present within
  refine ⟨q, listed, feasible, fun r inside => ?_⟩
  obtain ⟨corner, found, reached, better⟩ := mixed_corner mixed o r inside
  exact better.trans (greatest corner found reached)

theorem mixed_infeasible_iff (goal : Goal) :
    (problem.solve goal 0).status = .infeasible ↔ ∀ p, ¬ problem.Satisfies p := by
  constructor
  · intro verdict p satisfied
    obtain ⟨q, listed, feasible, _⟩ := mixed_corner mixed problem.objective p satisfied
    exact infeasible_unlisted problem goal 0 q le_rfl verdict listed feasible
  · intro empty
    rw [solve_infeasible_iff, List.eq_nil_iff_forall_not_mem]
    exact fun v member => empty v.point (feasible_satisfies problem _ (vertex_feasible problem 0 v member))

theorem mixed_maximum (goal : Goal) (m : Extremum Rat) (found : (problem.solve goal 0).maximum = some m) :
    ∃ top, IsGreatest problem.attainable top ∧ top - problem.objective.mergeLoss ≤ m.value ∧ m.value ≤ top := by
  obtain ⟨attained, value⟩ := selected_attained problem 0 _ m (solve_maximum problem goal 0 m found)
  have inside := feasible_satisfies problem m.point attained
  obtain ⟨q, listed, feasible, greatest⟩ := mixed_best mixed problem.objective m.point inside
  have reaches := maximum_reaches problem goal 0 m q le_rfl found listed feasible
  refine ⟨problem.objective.value q, ⟨⟨q, feasible_satisfies problem q feasible, rfl⟩, ?_⟩, ?_, ?_⟩
  · rintro _ ⟨r, satisfied, rfl⟩
    exact greatest r satisfied
  · linarith
  · rw [value]
    exact greatest m.point inside

theorem mixed_minimum (goal : Goal) (m : Extremum Rat) (found : (problem.solve goal 0).minimum = some m) :
    ∃ bottom, IsLeast problem.attainable bottom ∧
      bottom ≤ m.value ∧ m.value ≤ bottom + problem.objective.mergeLoss := by
  obtain ⟨attained, value⟩ := selected_attained problem 0 _ m (solve_minimum problem goal 0 m found)
  have inside := feasible_satisfies problem m.point attained
  obtain ⟨q, listed, feasible, greatest⟩ := mixed_best mixed problem.objective.negated m.point inside
  simp only [negated_value, neg_le_neg_iff] at greatest
  have reaches := minimum_reaches problem goal 0 m q le_rfl found listed feasible
  refine ⟨problem.objective.value q, ⟨⟨q, feasible_satisfies problem q feasible, rfl⟩, ?_⟩, ?_, ?_⟩
  · rintro _ ⟨r, satisfied, rfl⟩
    exact greatest r satisfied
  · rw [value]
    exact greatest m.point inside
  · linarith

end PositiveMixed

theorem mixed_extrema (problem : Problem Rat) (upper lower : Line Rat) (mixed : problem.PositiveMixed upper lower) :
    ((problem.solve .both 0).status = .infeasible ↔ ∀ p, ¬ problem.Satisfies p) ∧
      ((∃ p, problem.Satisfies p) → ∃ maximum minimum top bottom,
        (problem.solve .both 0).maximum = some maximum ∧ (problem.solve .both 0).minimum = some minimum ∧
          IsGreatest problem.attainable top ∧ IsLeast problem.attainable bottom ∧
          (top - problem.objective.mergeLoss ≤ maximum.value ∧ maximum.value ≤ top) ∧
          bottom ≤ minimum.value ∧ minimum.value ≤ bottom + problem.objective.mergeLoss) := by
  refine ⟨mixed_infeasible_iff mixed .both, fun ⟨p, satisfied⟩ => ?_⟩
  have verdict : (problem.solve .both 0).status ≠ .infeasible :=
    fun empty => (mixed_infeasible_iff mixed .both).mp empty p satisfied
  obtain ⟨maximum, highest⟩ := solve_maximum_exists problem .both 0 rfl verdict
  obtain ⟨minimum, lowest⟩ := solve_minimum_exists problem .both 0 rfl verdict
  obtain ⟨top, greatest, above⟩ := mixed_maximum mixed .both maximum highest
  obtain ⟨bottom, least, below⟩ := mixed_minimum mixed .both minimum lowest
  exact ⟨maximum, minimum, top, bottom, highest, lowest, greatest, least, above, below⟩

def upperAndLowerBound : Problem Rat where
  first := ⟨⟨4, 3, 24⟩, .le⟩
  second := ⟨⟨2, 5, 20⟩, .ge⟩
  objective := ⟨7, 5⟩
  bounds := ⟨10, 8⟩
  valid := by decide +kernel

theorem mixed_extrema_upper_and_lower :
    upperAndLowerBound.PositiveMixed ⟨4, 3, 24⟩ ⟨2, 5, 20⟩ ∧ upperAndLowerBound.Satisfies ⟨1, 5⟩ ∧
      ∃ top bottom, IsGreatest upperAndLowerBound.attainable top ∧ IsLeast upperAndLowerBound.attainable bottom ∧
        (top - 12 / 100 ≤ 290 / 7 ∧ 290 / 7 ≤ top) ∧ bottom ≤ 20 ∧ 20 ≤ bottom + 12 / 100 := by
  have mixed : upperAndLowerBound.PositiveMixed ⟨4, 3, 24⟩ ⟨2, 5, 20⟩ := by constructor <;> decide +kernel
  have satisfied : upperAndLowerBound.Satisfies ⟨1, 5⟩ := by
    unfold Problem.Satisfies
    decide +kernel
  obtain ⟨maximum, minimum, top, bottom, highest, lowest, greatest, least, above, below⟩ :=
    (mixed_extrema upperAndLowerBound _ _ mixed).2 ⟨_, satisfied⟩
  have largest : (upperAndLowerBound.solve .both 0).maximum = some ⟨2, ⟨30 / 7, 16 / 7⟩, 290 / 7⟩ := by decide +kernel
  have smallest : (upperAndLowerBound.solve .both 0).minimum = some ⟨1, ⟨0, 4⟩, 20⟩ := by decide +kernel
  have loss : upperAndLowerBound.objective.mergeLoss = 12 / 100 := by decide +kernel
  cases largest.symm.trans highest
  cases smallest.symm.trans lowest
  rw [loss] at above below
  exact ⟨mixed, satisfied, top, bottom, greatest, least, above, below⟩

end PlanarLP
