import PlanarLP.Proofs.CarriedVertices
import PlanarLP.Proofs.Candidate
import PlanarLP.Proofs.FiniteSolution
import PlanarLP.Proofs.LineSymmetry

set_option autoImplicit false

namespace PlanarLP

theorem swapped_accepted (problem : Problem Float) :
    Problem.fault? problem.second problem.first problem.objective problem.bounds = none := by
  obtain ⟨finite, bounded⟩ := (problem_fault_none _ _ _ _).mp problem.valid
  refine (problem_fault_none _ _ _ _).mpr ⟨?_, bounded⟩
  simp only [Problem.coefficients, List.forall_mem_cons] at finite ⊢
  obtain ⟨a1, b1, c1, a2, b2, c2, rest⟩ := finite
  exact ⟨a2, b2, c2, a1, b1, c1, rest⟩

def Problem.swapped (problem : Problem Float) : Problem Float where
  first := problem.second
  second := problem.first
  objective := problem.objective
  bounds := problem.bounds
  valid := swapped_accepted problem

theorem crossing_number (l : Line Float) (finite : l.Finite) (axis : Axis) (limits : ¬ l.coefficient axis ≤ 0)
    (v : Float) (crosses : l.intercept? axis = some v) : v.isNaN = false := by
  have divisor : (l.coefficient axis).isFinite = true := by
    cases axis with
    | x => exact finite.1
    | y => exact finite.2.1
  have number := finite_number _ divisor
  have positive := (double_lt_value _ _ rfl number).mp (double_lt_of_not_le _ 0 number rfl limits)
  unfold Line.intercept? at crosses
  split at crosses
  · obtain rfl := Option.some.inj crosses
    exact (div_value l.c _ finite.2.2 divisor positive.ne').1
  · cases crosses

theorem first_best_alike (keeps : Float → Float → Bool) (key : Float → Rat) (entries others : List (Float × Limit))
    (numbers : ∀ v ∈ entries.map Prod.fst, v.isNaN = false)
    (values : ∀ v, v ∈ entries.map Prod.fst ↔ v ∈ others.map Prod.fst)
    (follows : ∀ a b, a.isNaN = false → b.isNaN = false → (keeps a b = true ↔ key a ≤ key b))
    (faithful : ∀ a b, key a = key b → doubleValue a = doubleValue b) :
    Option.Rel (fun a b => Alike a.1 b.1) (firstBest keeps entries) (firstBest keeps others) := by
  have same := first_best_same keeps key entries others values fun a left b right =>
    follows a b (numbers a left) (numbers b right)
  generalize firstBest keeps entries = first at same ⊢
  generalize firstBest keeps others = second at same ⊢
  cases same with
  | none => exact .none
  | some pair =>
      obtain ⟨⟨present, found⟩, equal⟩ := pair
      have left := numbers _ (List.mem_map_of_mem present)
      have right := numbers _ ((values _).mpr (List.mem_map_of_mem found))
      exact .some (.inl (double_equal_value _ _ left right (faithful _ _ equal)))

section Swapping

variable (problem : Problem Float) (tolerance : Float)

theorem swapped_constraints (c : Constraint Float) : c ∈ problem.swapped.constraints ↔ c ∈ problem.constraints := by
  change c ∈ [problem.second, problem.first] ↔ c ∈ [problem.first, problem.second]
  rw [List.mem_pair, List.mem_pair, or_comm]

theorem swapped_feasible (p : Point Float) : problem.swapped.Feasible tolerance p ↔ problem.Feasible tolerance p :=
  and_congr_right fun _ => forall_congr' fun c => imp_congr_left (swapped_constraints problem c)

theorem swapped_crossings (axis : Axis) (v : Float) :
    v ∈ (axisCrossings problem.constraints axis).map Prod.fst ↔
      v ∈ (axisCrossings problem.swapped.constraints axis).map Prod.fst := by
  rw [axis_crossing_value, axis_crossing_value]
  exact exists_congr fun c => and_congr_left' (swapped_constraints problem c).symm

theorem crossings_numbers (axis : Axis) : ∀ v ∈ (axisCrossings problem.constraints axis).map Prod.fst,
    v.isNaN = false := by
  intro v member
  obtain ⟨c, present, limits, crosses⟩ := (axis_crossing_value _ axis v).mp member
  have finite : c.boundary.Finite := by
    rcases List.mem_pair.mp present with rfl | rfl
    · exact (boundaries_finite problem).1
    · exact (boundaries_finite problem).2
  exact crossing_number c.boundary finite axis limits v crosses

theorem tightest_swapped (direction : Direction) (axis : Axis) :
    Option.Rel (fun a b => Alike a.1 b.1) (tightest? problem.constraints problem.bounds direction axis)
      (tightest? problem.swapped.constraints problem.bounds direction axis) := by
  have numbers := crossings_numbers problem axis
  have values := swapped_crossings problem axis
  unfold tightest?
  cases direction with
  | le =>
      have edge := finite_number _ (problem_top problem axis).1
      refine first_best_alike _ doubleValue _ _ ?_ ?_ (fun a b left right => ?_) fun _ _ same => same
      · rw [List.map_append, List.forall_mem_append]
        exact ⟨numbers, List.forall_mem_singleton.mpr edge⟩
      · intro v
        rw [List.map_append, List.map_append, List.mem_append, List.mem_append, values v]
      · rw [decide_eq_true_iff]
        exact double_le_value a b left right
  | ge =>
      refine first_best_alike _ (fun v => -doubleValue v) _ _ numbers values (fun a b left right => ?_)
        fun _ _ same => neg_inj.mp same
      rw [decide_eq_true_iff, neg_le_neg_iff]
      exact double_le_value b a right left

theorem axis_points_swapped (shared : problem.first.direction = problem.second.direction) :
    List.Forall₂ (fun c d : Candidate Float => c.point.Alike d.point)
      (axisCandidates problem.constraints problem.bounds)
      (axisCandidates problem.swapped.constraints problem.bounds) := by
  have before : sharedDirection? problem.constraints = some problem.first.direction := by
    simp [sharedDirection?, Problem.constraints, shared]
  have after : sharedDirection? problem.swapped.constraints = some problem.first.direction := by
    simp [sharedDirection?, Problem.constraints, Problem.swapped, shared]
  unfold axisCandidates
  rw [before, after]
  refine List.rel_filterMap ?_ (List.forall₂_same.mpr fun axis _ => rfl)
  rintro axis _ rfl
  refine mapped_related _ _ _ _ (fun a b alike => ?_) _ _ (tightest_swapped problem problem.first.direction axis)
  cases axis with
  | x => exact ⟨alike, alike_refl 0⟩
  | y => exact ⟨alike_refl 0, alike⟩

theorem intersections_swapped : List.Forall₂ (fun c d : Candidate Float => c.point.Alike d.point)
    (intersections problem.constraints) (intersections problem.swapped.constraints) := by
  obtain ⟨first, second⟩ := boundaries_finite problem
  have crossings := intersection_exchanged problem.second.boundary problem.first.boundary second first
  simp only [Problem.constraints, intersections_pair]
  refine listed_related _ _ _ (mapped_related Point.Alike _ _ _ ?_ _ _ crossings)
  exact fun _ _ alike => alike

theorem candidates_swapped (shared : problem.first.direction = problem.second.direction) :
    List.Forall₂ (fun c d : Candidate Float => c.point.Alike d.point) (candidates problem.constraints problem.bounds)
      (candidates problem.swapped.constraints problem.swapped.bounds) :=
  List.rel_append (axis_points_swapped problem shared) (intersections_swapped problem)

theorem mixed_axis_swapped (mixed : problem.first.direction ≠ problem.second.direction) (c : Candidate Float)
    (listed : c ∈ axisCandidates problem.constraints problem.bounds) :
    ∃ d ∈ axisCandidates problem.swapped.constraints problem.bounds, c.point = d.point := by
  have before : sharedDirection? problem.constraints = none := by
    simp [sharedDirection?, Problem.constraints, mixed.symm]
  have after : sharedDirection? problem.swapped.constraints = none := by
    simp [sharedDirection?, Problem.constraints, Problem.swapped, mixed]
  obtain ⟨axis, entry, source, rfl⟩ := (axis_candidate_iff _ _ c).mp listed
  simp only [AxisEntry, before] at source
  obtain ⟨i, k, found, crosses, _⟩ := source
  have member := (swapped_constraints problem k).mpr (List.mem_of_getElem? found)
  obtain ⟨j, present⟩ := List.mem_iff_getElem?.mp member
  have also : AxisEntry problem.swapped.constraints problem.bounds axis (entry.1, .constraint j) := by
    simp only [AxisEntry, after]
    exact ⟨j, k, present, crosses, rfl⟩
  exact ⟨_, (axis_candidate_iff _ _ _).mpr ⟨axis, _, also, rfl⟩, rfl⟩

theorem candidate_swapped (c : Candidate Float) (listed : c ∈ candidates problem.constraints problem.bounds) :
    ∃ d ∈ candidates problem.swapped.constraints problem.swapped.bounds, c.point.Alike d.point := by
  by_cases shared : problem.first.direction = problem.second.direction
  · exact paired_partner _ _ _ (candidates_swapped problem shared) c listed
  · rcases List.mem_append.mp listed with onAxis | crossing
    · obtain ⟨d, member, same⟩ := mixed_axis_swapped problem shared c onAxis
      exact ⟨d, List.mem_append_left _ member, same ▸ point_alike_refl _⟩
    · obtain ⟨d, member, alike⟩ := paired_partner _ _ _ (intersections_swapped problem) c crossing
      exact ⟨d, List.mem_append_right _ member, alike⟩

theorem swapped_carries : problem.Carries problem.swapped id where
  candidate := fun c listed => by
    obtain ⟨d, member, alike⟩ := candidate_swapped problem c listed
    exact ⟨d, member, alike_symm _ _ alike.1, alike_symm _ _ alike.2⟩
  feasible := swapped_feasible problem
  clamp := fun _ => rfl
  rounded := fun _ => rfl

structure Vertex.Agrees (v w : Vertex Float) : Prop where
  point : v.point.Alike w.point
  value : Alike v.value w.value

theorem agrees_apart (v v' w w' : Vertex Float) (first : v.Agrees v') (second : w.Agrees w') :
    v.Apart w ↔ v'.Apart w' := by
  unfold Vertex.Apart
  rw [coincides_alike _ _ first.point _ _ second.point]

theorem swapped_matches (c d : Candidate Float) (alike : c.point.Alike d.point) :
    problem.Matches problem.swapped tolerance Vertex.Agrees c d := by
  have snapped := box_alike c.point d.point alike problem.bounds
  refine ⟨and_congr ?_ ?_, snapped, objective_alike _ _ snapped problem.objective⟩
  · exact (feasible_alike _ _ alike problem tolerance).trans (swapped_feasible problem tolerance _).symm
  · exact (feasible_alike _ _ snapped problem tolerance).trans (swapped_feasible problem tolerance _).symm

theorem vertices_swapped (shared : problem.first.direction = problem.second.direction) :
    List.Forall₂ Vertex.Agrees (problem.feasibleVertices tolerance) (problem.swapped.feasibleVertices tolerance) :=
  feasible_vertices_related problem problem.swapped tolerance Vertex.Agrees agrees_apart
    ((candidates_swapped problem shared).imp fun c d alike => swapped_matches problem tolerance c d alike)

end Swapping

theorem extrema_alike (vertices others : List (Vertex Float)) (paired : List.Forall₂ Vertex.Agrees vertices others) :
    (Extremum.maximum? vertices).map (·.index) = (Extremum.maximum? others).map (·.index) ∧
      (Extremum.minimum? vertices).map (·.index) = (Extremum.minimum? others).map (·.index) := by
  have values := paired.imp fun _ _ pair => pair.value
  constructor
  · refine select_related _ _ Alike (fun _ _ _ _ first second => ?_) vertices others values
    rw [decide_eq_decide, lt_alike second first]
  · refine select_related _ _ Alike (fun _ _ _ _ first second => ?_) vertices others values
    rw [decide_eq_decide, lt_alike first second]

theorem constraint_order (problem : Problem Float) (goal : Goal) (tolerance : Float) :
    (problem.first.direction = problem.second.direction →
      List.Forall₂ (fun v w => ((v.point.x == w.point.x) = true ∧ (v.point.y == w.point.y) = true) ∧
          Alike v.value w.value)
        (problem.solve goal tolerance).vertices (problem.swapped.solve goal tolerance).vertices ∧
      (problem.solve goal tolerance).maximum.map (·.index) =
        (problem.swapped.solve goal tolerance).maximum.map (·.index) ∧
      (problem.solve goal tolerance).minimum.map (·.index) =
        (problem.swapped.solve goal tolerance).minimum.map (·.index)) ∧
    (problem.first.direction ≠ problem.second.direction →
      problem.roundedPoints tolerance = problem.swapped.roundedPoints tolerance) ∧
    (problem.solve goal tolerance).status = (problem.swapped.solve goal tolerance).status := by
  have there := swapped_carries problem
  have back := swapped_carries problem.swapped
  refine ⟨fun shared => ?_, fun _ => ?_, verdict_carried problem problem.swapped id there tolerance id back goal⟩
  · have paired := vertices_swapped problem tolerance shared
    obtain ⟨maxima, minima⟩ := extrema_alike _ _ paired
    refine ⟨?_, solved_related problem problem.swapped goal tolerance
      (fun m n => m.map (·.index) = n.map (·.index)) rfl maxima minima⟩
    refine ((List.forall₂_and_left _ _).mpr ⟨vertex_finite problem tolerance, paired⟩).imp ?_
    rintro v w ⟨finite, point, value⟩
    exact ⟨⟨number_alike point.1 (finite_number _ finite.1), number_alike point.2 (finite_number _ finite.2)⟩, value⟩
  · exact Set.Subset.antisymm (rounded_points_carried problem problem.swapped id there tolerance)
      (rounded_points_carried problem.swapped problem id back tolerance)

-- Both boundaries meet the first axis at zero, one of them at the negative zero, which is then the one reported.
def crossingAtZero : Problem Float where
  first := ⟨⟨1, -1, 0⟩, .le⟩
  second := ⟨⟨1, -2, -0⟩, .le⟩
  objective := ⟨-1, 0⟩
  bounds := ⟨10, 10⟩
  valid := by decide +kernel

def crossingOnAxis : Problem Float where
  first := ⟨⟨1, 2, 12⟩, .le⟩
  second := ⟨⟨2, 1, 6⟩, .ge⟩
  objective := ⟨3, 5⟩
  bounds := ⟨20, 20⟩
  valid := by decide +kernel

theorem constraint_order_zero_and_on_axis :
    (crossingAtZero.first.direction = crossingAtZero.second.direction ∧
      (crossingAtZero.solve .both 0).vertices.length = 2 ∧
      List.Forall₂ (fun v w => ((v.point.x == w.point.x) = true ∧ (v.point.y == w.point.y) = true) ∧
          Alike v.value w.value)
        (crossingAtZero.solve .both 0).vertices (crossingAtZero.swapped.solve .both 0).vertices) ∧
    (crossingOnAxis.first.direction ≠ crossingOnAxis.second.direction ∧
      (crossingOnAxis.solve .both 0).vertices.length = 3 ∧
      crossingOnAxis.roundedPoints 0 = crossingOnAxis.swapped.roundedPoints 0) :=
  ⟨⟨rfl, by decide +kernel, ((constraint_order crossingAtZero .both 0).1 rfl).1⟩,
    by decide, by decide +kernel, (constraint_order crossingOnAxis .both 0).2.1 (by decide)⟩

end PlanarLP
