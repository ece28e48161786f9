import PlanarLP.Proofs.Enumeration

set_option autoImplicit false

namespace PlanarLP

def quadrant : List (Constraint Rat) := [⟨⟨1, 0, 0⟩, .ge⟩, ⟨⟨0, 1, 0⟩, .ge⟩]

def Bounds.farEdges (b : Bounds Rat) : List (Constraint Rat) := [⟨⟨1, 0, b.xMax⟩, .le⟩, ⟨⟨0, 1, b.yMax⟩, .le⟩]

def Bounds.OnFarEdge (b : Bounds Rat) (q : Point Rat) : Prop := q.x = b.xMax ∨ q.y = b.yMax

theorem inside_quadrant (p : Point Rat) : Inside quadrant p ↔ 0 ≤ p.x ∧ 0 ≤ p.y := by
  simp [Inside, quadrant, slack_ge]

theorem inside_far_edges (b : Bounds Rat) (p : Point Rat) : Inside b.farEdges p ↔ p.x ≤ b.xMax ∧ p.y ≤ b.yMax := by
  simp [Inside, Bounds.farEdges, slack_le]

theorem feasible_inside (problem : Problem Rat) (p : Point Rat) :
    problem.Feasible 0 p ↔ Inside (problem.constraints ++ quadrant ++ problem.bounds.farEdges) p := by
  rw [feasible_exactly, inside_append, inside_append, inside_quadrant, inside_far_edges]
  unfold Inside
  tauto

theorem quadrant_blocks (d : Point Rat) (backwards : d.x < 0 ∨ d.y < 0) : ∃ c ∈ quadrant, c.rate d < 0 := by
  rcases backwards with left | down
  · exact ⟨⟨⟨1, 0, 0⟩, .ge⟩, by simp [quadrant], by simpa [Constraint.rate, value_exactly] using left⟩
  · exact ⟨⟨⟨0, 1, 0⟩, .ge⟩, by simp [quadrant], by simpa [Constraint.rate, value_exactly] using down⟩

theorem far_edges_block (b : Bounds Rat) (d : Point Rat) (onwards : 0 < d.x ∨ 0 < d.y) :
    ∃ c ∈ b.farEdges, c.rate d < 0 := by
  rcases onwards with right | up
  · exact ⟨⟨⟨1, 0, b.xMax⟩, .le⟩, by simp [Bounds.farEdges], by simpa [Constraint.rate, value_exactly] using right⟩
  · exact ⟨⟨⟨0, 1, b.yMax⟩, .le⟩, by simp [Bounds.farEdges], by simpa [Constraint.rate, value_exactly] using up⟩

theorem forward_direction (d : Point Rat) (nonzero : d ≠ .origin) (forward : ¬ (d.x < 0 ∨ d.y < 0)) :
    (0 ≤ d.x ∧ 0 ≤ d.y) ∧ (0 < d.x ∨ 0 < d.y) := by
  rw [not_or, not_lt, not_lt] at forward
  refine ⟨forward, ?_⟩
  by_contra still
  rw [not_or, not_lt, not_lt] at still
  apply nonzero
  obtain ⟨x, y⟩ := d
  exact congrArg₂ Point.mk (le_antisymm still.1 forward.1) (le_antisymm still.2 forward.2)

theorem box_blocks (b : Bounds Rat) (d : Point Rat) (nonzero : d ≠ .origin) :
    ∃ c ∈ quadrant ++ b.farEdges, c.rate d < 0 := by
  by_cases backwards : d.x < 0 ∨ d.y < 0
  · obtain ⟨c, member, against⟩ := quadrant_blocks d backwards
    exact ⟨c, List.mem_append_left _ member, against⟩
  · obtain ⟨c, member, against⟩ := far_edges_block b d (forward_direction d nonzero backwards).2
    exact ⟨c, List.mem_append_right _ member, against⟩

theorem far_edge_tight (b : Bounds Rat) (c : Constraint Rat) (member : c ∈ b.farEdges) (q : Point Rat)
    (tight : c.slack q = 0) : b.OnFarEdge q := by
  rw [slack_zero_iff] at tight
  simp only [Bounds.farEdges, List.mem_cons, List.not_mem_nil, or_false] at member
  rcases member with same | same
  · subst same
    exact .inl (by simpa [value_exactly] using tight)
  · subst same
    exact .inr (by simpa [value_exactly] using tight)

def CrossesAxis (cs : List (Constraint Rat)) (q : Point Rat) : Prop :=
  ∃ axis, ∃ c ∈ cs, c.boundary.coefficient axis ≠ 0 ∧ q = .onAxis axis (c.boundary.crossing axis)

theorem determinant_antisymmetric (l m : Line Rat) : m.determinant l = -l.determinant m := by
  change m.a * l.b - l.a * m.b = -(l.a * m.b - m.a * l.b)
  ring

theorem tight_on_axis (c : Constraint Rat) (axis : Axis) (v : Rat) (tight : c.slack (.onAxis axis v) = 0)
    (meets : c.boundary.coefficient axis ≠ 0) : v = c.boundary.crossing axis := by
  rw [slack_zero_iff, value_on_axis] at tight
  unfold Line.crossing
  rw [eq_div_iff meets, mul_comm]
  exact tight

theorem on_axis_of_zero (q : Point Rat) : (q.y = 0 → q = .onAxis .x q.x) ∧ (q.x = 0 → q = .onAxis .y q.y) := by
  obtain ⟨x, y⟩ := q
  constructor <;> intro zero <;> subst zero <;> rfl

theorem quadrant_tight (w : Constraint Rat) (member : w ∈ quadrant) (q : Point Rat) (tight : w.slack q = 0) :
    ∃ axis v, q = .onAxis axis v ∧ ∀ l : Line Rat, w.boundary.determinant l ≠ 0 → l.coefficient axis ≠ 0 := by
  rw [slack_zero_iff] at tight
  simp only [quadrant, List.mem_cons, List.not_mem_nil, or_false] at member
  rcases member with same | same
  · subst same
    have onY : q.x = 0 := by simpa [value_exactly] using tight
    refine ⟨.y, q.y, (on_axis_of_zero q).2 onY, fun l regular => ?_⟩
    change 1 * l.b - l.a * 0 ≠ 0 at regular
    simpa [Line.coefficient] using regular
  · subst same
    have onX : q.y = 0 := by simpa [value_exactly] using tight
    refine ⟨.x, q.x, (on_axis_of_zero q).1 onX, fun l regular => ?_⟩
    change 0 * l.b - l.a * 1 ≠ 0 at regular
    simpa [Line.coefficient] using regular

theorem wall_crossing (cs : List (Constraint Rat)) (w c : Constraint Rat) (wall : w ∈ quadrant) (member : c ∈ cs)
    (q : Point Rat) (onWall : w.slack q = 0) (onBoundary : c.slack q = 0)
    (regular : w.boundary.determinant c.boundary ≠ 0) : CrossesAxis cs q := by
  obtain ⟨axis, v, rfl, transverse⟩ := quadrant_tight w wall q onWall
  have meets := transverse c.boundary regular
  exact ⟨axis, c, member, meets, by rw [← tight_on_axis c axis v onBoundary meets]⟩

theorem quadrant_crossing (c : Constraint Rat) (member : c ∈ quadrant) (axis : Axis) :
    c.boundary.crossing axis = 0 := by
  simp only [quadrant, List.mem_cons, List.not_mem_nil, or_false] at member
  rcases member with same | same <;> rw [same] <;> exact zero_div _

theorem origin_on_axis (axis : Axis) : Point.onAxis axis (0 : Rat) = .origin := by
  cases axis <;> rfl

theorem quadrant_corner (w x : Constraint Rat) (first : w ∈ quadrant) (second : x ∈ quadrant) (q : Point Rat)
    (onFirst : w.slack q = 0) (onSecond : x.slack q = 0) (regular : w.boundary.determinant x.boundary ≠ 0) :
    q = .origin := by
  have axes : CrossesAxis quadrant q := wall_crossing quadrant w x first second q onFirst onSecond regular
  obtain ⟨axis, c, member, _, rfl⟩ := axes
  rw [quadrant_crossing c member axis, origin_on_axis]

theorem corner_in_quadrant (cs : List (Constraint Rat)) (q : Point Rat) (corner : CornerOf (cs ++ quadrant) q) :
    q = .origin ∨ CrossesAxis cs q ∨ CornerOf cs q := by
  obtain ⟨c, left, d, right, onC, onD, regular⟩ := corner
  have reversed : d.boundary.determinant c.boundary ≠ 0 := by
    rw [determinant_antisymmetric]
    exact neg_ne_zero.mpr regular
  rcases List.mem_append.mp left with first | first <;> rcases List.mem_append.mp right with second | second
  · exact .inr (.inr ⟨c, first, d, second, onC, onD, regular⟩)
  · exact .inr (.inl (wall_crossing cs d c second first q onD onC reversed))
  · exact .inr (.inl (wall_crossing cs c d first second q onC onD regular))
  · exact .inl (quadrant_corner c d first second q onC onD regular)

theorem corner_in_box (cs : List (Constraint Rat)) (b : Bounds Rat) (q : Point Rat)
    (corner : CornerOf (cs ++ quadrant ++ b.farEdges) q) : b.OnFarEdge q ∨ CornerOf (cs ++ quadrant) q := by
  obtain ⟨c, left, d, right, onC, onD, regular⟩ := corner
  rcases List.mem_append.mp left with first | first
  · rcases List.mem_append.mp right with second | second
    · exact .inr ⟨c, first, d, second, onC, onD, regular⟩
    · exact .inl (far_edge_tight b d second q onD)
  · exact .inl (far_edge_tight b c first q onC)

theorem boundaries_cross (problem : Problem Rat) (q : Point Rat) (corner : CornerOf problem.constraints q) :
    problem.first.boundary.determinant problem.second.boundary ≠ 0 ∧
      problem.first.boundary.value q = problem.first.boundary.c ∧
      problem.second.boundary.value q = problem.second.boundary.c := by
  obtain ⟨c, left, d, right, onC, onD, regular⟩ := corner
  rw [slack_zero_iff] at onC onD
  have self (l : Line Rat) : l.determinant l = 0 := sub_self _
  simp only [Problem.constraints, List.mem_cons, List.not_mem_nil, or_false] at left right
  rcases left with rfl | rfl <;> rcases right with rfl | rfl
  · exact absurd (self _) regular
  · exact ⟨regular, onC, onD⟩
  · rw [determinant_antisymmetric] at regular
    exact ⟨neg_ne_zero.mp regular, onD, onC⟩
  · exact absurd (self _) regular

theorem value_forward_positive (l : Line Rat) (positive : 0 < l.a ∧ 0 < l.b) (d : Point Rat)
    (forward : 0 ≤ d.x ∧ 0 ≤ d.y) (moves : 0 < d.x ∨ 0 < d.y) : 0 < l.value d := by
  have ahead := mul_nonneg positive.1.le forward.1
  have above := mul_nonneg positive.2.le forward.2
  rw [value_exactly]
  rcases moves with right | up
  · linarith [mul_pos positive.1 right]
  · linarith [mul_pos positive.2 up]

theorem upper_bound_confines (cs : List (Constraint Rat)) (l : Line Rat) (positive : 0 < l.a ∧ 0 < l.b)
    (member : ⟨l, .le⟩ ∈ cs) (o : Objective Rat) : Confines (cs ++ quadrant) o := by
  refine bounded_confines _ o fun d nonzero => ?_
  by_cases backwards : d.x < 0 ∨ d.y < 0
  · obtain ⟨wall, listed, against⟩ := quadrant_blocks d backwards
    exact ⟨wall, List.mem_append_right _ listed, against⟩
  · obtain ⟨forward, moves⟩ := forward_direction d nonzero backwards
    have rises := value_forward_positive l positive d forward moves
    exact ⟨⟨l, .le⟩, List.mem_append_left _ member, neg_neg_of_pos rises⟩

theorem within_crossings (l : Line Rat) (positive : 0 < l.a ∧ 0 < l.b) (p : Point Rat) (low : 0 ≤ p.x ∧ 0 ≤ p.y)
    (below : l.value p ≤ l.c) : p.x ≤ l.crossing .x ∧ p.y ≤ l.crossing .y := by
  rw [value_exactly] at below
  constructor
  · change p.x ≤ l.c / l.a
    rw [le_div_iff₀ positive.1]
    linarith [mul_nonneg positive.2.le low.2]
  · change p.y ≤ l.c / l.b
    rw [le_div_iff₀ positive.2]
    linarith [mul_nonneg positive.1.le low.1]

theorem boundary_corner_listed (problem : Problem Rat) (q : Point Rat) (corner : CornerOf problem.constraints q)
    (separate : problem.first.boundary.isParallel problem.second.boundary = false) :
    Listed problem.constraints problem.bounds q := by
  obtain ⟨regular, onFirst, onSecond⟩ := boundaries_cross problem q corner
  exact intersection_listed problem q (intersection_exactly _ _ q onFirst onSecond regular separate)

theorem resolved_corner_listed (problem : Problem Rat) (q : Point Rat) (corner : CornerOf problem.constraints q)
    (resolved : problem.first.boundary.determinant problem.second.boundary = 0 ∨
      problem.first.boundary.intersection? problem.second.boundary ≠ none) :
    Listed problem.constraints problem.bounds q := by
  refine boundary_corner_listed problem q corner ?_
  have separate := resolved.resolve_left (boundaries_cross problem q corner).1
  cases parallel : problem.first.boundary.isParallel problem.second.boundary with
  | true => exact absurd (if_pos parallel) separate
  | false => rfl

end PlanarLP
