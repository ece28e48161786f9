import PlanarLP.Proofs.Candidate
import PlanarLP.Proofs.Corner

set_option autoImplicit false

namespace PlanarLP

def Listed (cs : List (Constraint Rat)) (bounds : Bounds Rat) (q : Point Rat) : Prop :=
  ∃ candidate ∈ candidates cs bounds, candidate.point = q

theorem listed_iff (cs : List (Constraint Rat)) (bounds : Bounds Rat) (q : Point Rat) :
    Listed cs bounds q ↔ (∃ axis entry, AxisEntry cs bounds axis entry ∧ q = .onAxis axis entry.1) ∨
      ∃ c d, [c, d].Sublist cs ∧ c.boundary.intersection? d.boundary = some q := by
  rw [← intersection_point_iff]
  constructor
  · rintro ⟨candidate, member, rfl⟩
    refine (List.mem_append.mp member).imp (fun axial => ?_) fun crossing => ⟨candidate, crossing, rfl⟩
    obtain ⟨axis, entry, source, rfl⟩ := (axis_candidate_iff cs bounds candidate).mp axial
    exact ⟨axis, entry, source, rfl⟩
  · rintro (⟨axis, entry, source, rfl⟩ | ⟨candidate, crossing, rfl⟩)
    · have axial := (axis_candidate_iff cs bounds _).mpr ⟨axis, entry, source, rfl⟩
      exact ⟨_, List.mem_append_left _ axial, rfl⟩
    · exact ⟨candidate, List.mem_append_right _ crossing, rfl⟩

def Line.crossing (l : Line Rat) (axis : Axis) : Rat := l.c / l.coefficient axis

theorem intercept_exactly (l : Line Rat) (axis : Axis) :
    l.intercept? axis = if l.coefficient axis = 0 then none else some (l.crossing axis) := by
  change (if l.coefficient axis != (0 : Rat) then some (l.c / l.coefficient axis) else none) = _
  by_cases zero : l.coefficient axis = 0 <;> simp [zero, Line.crossing]

theorem value_on_axis (l : Line Rat) (axis : Axis) (v : Rat) : l.value (.onAxis axis v) = l.coefficient axis * v := by
  cases axis with
  | x =>
      change l.a * v + l.b * 0 = l.a * v
      ring
  | y =>
      change l.a * 0 + l.b * v = l.b * v
      ring

theorem axis_crossing_mem (cs : List (Constraint Rat)) (axis : Axis) (v : Rat) (limit : Limit) :
    (v, limit) ∈ axisCrossings cs axis ↔
      ∃ i c, cs[i]? = some c ∧ 0 < c.boundary.coefficient axis ∧ v = c.boundary.crossing axis ∧
        limit = .constraint i := by
  rw [axis_crossing_iff]
  refine exists₂_congr fun i c => and_congr_right fun _ => ?_
  rw [not_le]
  refine and_congr_right fun positive => and_congr_left' ?_
  rw [intercept_exactly, if_neg positive.ne', Option.some.injEq]
  exact eq_comm

theorem axis_crossing_of_mem (cs : List (Constraint Rat)) (axis : Axis) (c : Constraint Rat) (member : c ∈ cs)
    (positive : 0 < c.boundary.coefficient axis) :
    ∃ limit, (c.boundary.crossing axis, limit) ∈ axisCrossings cs axis := by
  obtain ⟨i, found⟩ := List.mem_iff_getElem?.mp member
  exact ⟨.constraint i, (axis_crossing_mem cs axis _ _).mpr ⟨i, c, found, positive, rfl, rfl⟩⟩

theorem axis_crossing_source (cs : List (Constraint Rat)) (axis : Axis) (entry : Rat × Limit)
    (member : entry ∈ axisCrossings cs axis) :
    ∃ c ∈ cs, 0 < c.boundary.coefficient axis ∧ entry.1 = c.boundary.crossing axis := by
  obtain ⟨i, c, found, positive, same, _⟩ := (axis_crossing_mem cs axis entry.1 entry.2).mp member
  exact ⟨c, List.mem_of_getElem? found, positive, same⟩

def IsUpperLimit (cs : List (Constraint Rat)) (bounds : Bounds Rat) (axis : Axis) (v : Rat) : Prop :=
  (v ≤ bounds.top axis ∧ ∀ c ∈ cs, 0 < c.boundary.coefficient axis → v ≤ c.boundary.crossing axis) ∧
    (v = bounds.top axis ∨ ∃ c ∈ cs, 0 < c.boundary.coefficient axis ∧ v = c.boundary.crossing axis)

def IsLowerLimit (cs : List (Constraint Rat)) (axis : Axis) (v : Rat) : Prop :=
  (∀ c ∈ cs, 0 < c.boundary.coefficient axis → c.boundary.crossing axis ≤ v) ∧
    ∃ c ∈ cs, 0 < c.boundary.coefficient axis ∧ v = c.boundary.crossing axis

theorem tightest_upper (cs : List (Constraint Rat)) (bounds : Bounds Rat) (axis : Axis) :
    ∃ v limit, tightest? cs bounds .le axis = some (v, limit) ∧ IsUpperLimit cs bounds axis v := by
  obtain ⟨⟨v, limit⟩, result, found, stands⟩ := first_best_exists (fun a b : Rat => decide (a ≤ b)) id
    (axisCrossings cs axis ++ [(bounds.top axis, .bound)]) (by simp) fun _ _ _ _ => decide_eq_true_iff
  refine ⟨v, limit, result, ⟨stands (bounds.top axis, .bound) (by simp), fun c member positive => ?_⟩, ?_⟩
  · obtain ⟨_, listed⟩ := axis_crossing_of_mem cs axis c member positive
    exact stands _ (List.mem_append_left _ listed)
  · rcases List.mem_append.mp found with crossing | edge
    · exact .inr (axis_crossing_source cs axis _ crossing)
    · exact .inl (congrArg Prod.fst (List.mem_singleton.mp edge))

theorem tightest_lower (cs : List (Constraint Rat)) (bounds : Bounds Rat) (axis : Axis)
    (limited : ∃ c ∈ cs, 0 < c.boundary.coefficient axis) :
    ∃ v limit, tightest? cs bounds .ge axis = some (v, limit) ∧ IsLowerLimit cs axis v := by
  obtain ⟨c, member, positive⟩ := limited
  obtain ⟨_, listed⟩ := axis_crossing_of_mem cs axis c member positive
  obtain ⟨⟨v, limit⟩, result, found, stands⟩ := first_best_exists (fun a b : Rat => decide (b ≤ a)) OrderDual.toDual
    (axisCrossings cs axis) (List.ne_nil_of_mem listed) fun _ _ _ _ => decide_eq_true_iff
  refine ⟨v, limit, result, fun d present rises => ?_, axis_crossing_source cs axis _ found⟩
  obtain ⟨_, other⟩ := axis_crossing_of_mem cs axis d present rises
  exact stands _ other

theorem tightest_listed (cs : List (Constraint Rat)) (bounds : Bounds Rat) (direction : Direction) (axis : Axis)
    (v : Rat) (limit : Limit) (shared : sharedDirection? cs = some direction)
    (tightest : tightest? cs bounds direction axis = some (v, limit)) : Listed cs bounds (.onAxis axis v) := by
  have entry : AxisEntry cs bounds axis (v, limit) := by
    simpa only [AxisEntry, shared] using tightest
  exact (listed_iff cs bounds _).mpr (.inl ⟨axis, (v, limit), entry, rfl⟩)

theorem upper_limit_listed (cs : List (Constraint Rat)) (bounds : Bounds Rat) (axis : Axis)
    (shared : sharedDirection? cs = some .le) :
    ∃ v, Listed cs bounds (.onAxis axis v) ∧ IsUpperLimit cs bounds axis v := by
  obtain ⟨v, limit, result, least⟩ := tightest_upper cs bounds axis
  exact ⟨v, tightest_listed cs bounds .le axis v limit shared result, least⟩

theorem lower_limit_listed (cs : List (Constraint Rat)) (bounds : Bounds Rat) (axis : Axis)
    (shared : sharedDirection? cs = some .ge) (limited : ∃ c ∈ cs, 0 < c.boundary.coefficient axis) :
    ∃ v, Listed cs bounds (.onAxis axis v) ∧ IsLowerLimit cs axis v := by
  obtain ⟨v, limit, result, greatest⟩ := tightest_lower cs bounds axis limited
  exact ⟨v, tightest_listed cs bounds .ge axis v limit shared result, greatest⟩

theorem mixed_crossing_listed (cs : List (Constraint Rat)) (bounds : Bounds Rat) (axis : Axis) (c : Constraint Rat)
    (mixed : sharedDirection? cs = none) (member : c ∈ cs) (meets : c.boundary.coefficient axis ≠ 0) :
    Listed cs bounds (.onAxis axis (c.boundary.crossing axis)) := by
  obtain ⟨i, found⟩ := List.mem_iff_getElem?.mp member
  have entry : AxisEntry cs bounds axis (c.boundary.crossing axis, .constraint i) := by
    simp only [AxisEntry, mixed]
    exact ⟨i, c, found, by rw [intercept_exactly, if_neg meets], rfl⟩
  exact (listed_iff cs bounds _).mpr (.inl ⟨axis, _, entry, rfl⟩)

theorem common_point (l m : Line Rat) (q : Point Rat) (first : l.value q = l.c) (second : m.value q = m.c)
    (regular : l.determinant m ≠ 0) :
    q = ⟨(l.c * m.b - m.c * l.b) / l.determinant m, (l.a * m.c - m.a * l.c) / l.determinant m⟩ := by
  have determinant : l.determinant m = l.a * m.b - m.a * l.b := rfl
  rw [determinant] at regular ⊢
  rw [value_exactly] at first second
  have x : q.x = (l.c * m.b - m.c * l.b) / (l.a * m.b - m.a * l.b) := by
    rw [eq_div_iff regular, ← first, ← second]
    ring
  have y : q.y = (l.a * m.c - m.a * l.c) / (l.a * m.b - m.a * l.b) := by
    rw [eq_div_iff regular, ← first, ← second]
    ring
  exact congrArg₂ Point.mk x y

theorem intersection_exactly (l m : Line Rat) (q : Point Rat) (first : l.value q = l.c) (second : m.value q = m.c)
    (regular : l.determinant m ≠ 0) (separate : l.isParallel m = false) : l.intersection? m = some q := by
  unfold Line.intersection?
  rw [if_neg (by simp [separate])]
  exact congrArg some (common_point l m q first second regular).symm

theorem intersection_listed (problem : Problem Rat) (q : Point Rat)
    (crosses : problem.first.boundary.intersection? problem.second.boundary = some q) :
    Listed problem.constraints problem.bounds q :=
  (listed_iff _ _ q).mpr (.inr ⟨_, _, .refl _, crosses⟩)

end PlanarLP
