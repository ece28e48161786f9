import PlanarLP.Proofs.Enumeration

set_option autoImplicit false

namespace PlanarLP

def Line.MeetsAt (l m : Line Rat) (q : Point Rat) : Prop := ∀ p, l.value p = l.c ∧ m.value p = m.c ↔ p = q

theorem regular_meets (l m : Line Rat) (q : Point Rat) (first : l.value q = l.c) (second : m.value q = m.c)
    (regular : l.determinant m ≠ 0) : l.MeetsAt m q := by
  intro p
  constructor
  · rintro ⟨left, right⟩
    exact (common_point l m p left right regular).trans (common_point l m q first second regular).symm
  · rintro rfl
    exact ⟨first, second⟩

theorem magnitude_exactly (l : Line Rat) : l.magnitude = max |l.a| |l.b| := by
  unfold Line.magnitude
  rw [max_exactly, abs_exactly, abs_exactly]

theorem parallel_exactly (l m : Line Rat) :
    l.isParallel m = true ↔
      l.magnitude * m.magnitude = 0 ∨ |l.determinant m| ≤ 1 / 10 ^ 12 * (l.magnitude * m.magnitude) := by
  have share : (Scalar.ofDecimal 1 12 : Rat) = 1 / 10 ^ 12 := by decide +kernel
  have zero (scale : Rat) : (scale == 0) = true ↔ scale = 0 := beq_iff_eq
  unfold Line.isParallel
  rw [Bool.or_eq_true_iff, decide_eq_true_iff, share, abs_exactly]
  exact or_congr_left (zero _)

theorem separate_regular (l m : Line Rat) (separate : l.isParallel m = false) : l.determinant m ≠ 0 := by
  intro zero
  have nonnegative (k : Line Rat) : 0 ≤ k.magnitude := magnitude_exactly k ▸ le_max_of_le_left (abs_nonneg k.a)
  have scale := mul_nonneg (nonnegative l) (nonnegative m)
  have small : |l.determinant m| ≤ 1 / 10 ^ 12 * (l.magnitude * m.magnitude) := by
    rw [zero, abs_zero]
    exact mul_nonneg (by norm_num) scale
  exact Bool.false_ne_true (separate.symm.trans ((parallel_exactly l m).mpr (.inr small)))

theorem intersection_meets (l m : Line Rat) (q : Point Rat) (crosses : l.intersection? m = some q) : l.MeetsAt m q := by
  unfold Line.intersection? at crosses
  cases separate : l.isParallel m with
  | true => simp [separate] at crosses
  | false =>
      have regular := separate_regular l m separate
      simp only [separate, Bool.false_eq_true, if_false, Option.some.injEq] at crosses
      subst crosses
      refine regular_meets l m _ ?_ ?_ regular
      · rw [value_exactly]
        field_simp
        change _ = l.c * (l.a * m.b - m.a * l.b)
        ring
      · rw [value_exactly]
        field_simp
        change _ = m.c * (l.a * m.b - m.a * l.b)
        ring

def Axis.line : Axis → Line Rat
  | .x => ⟨0, 1, 0⟩
  | .y => ⟨1, 0, 0⟩

def Bounds.edge (b : Bounds Rat) : Axis → Line Rat
  | .x => ⟨1, 0, b.xMax⟩
  | .y => ⟨0, 1, b.yMax⟩

theorem axis_meets (axis : Axis) (l : Line Rat) (meets : l.coefficient axis ≠ 0) :
    axis.line.MeetsAt l (.onAxis axis (l.crossing axis)) := by
  have onAxis : axis.line.value (.onAxis axis (l.crossing axis)) = axis.line.c := by
    rw [value_on_axis]
    cases axis <;> exact zero_mul _
  have onLine : l.value (.onAxis axis (l.crossing axis)) = l.c := by
    rw [value_on_axis]
    exact mul_div_cancel₀ l.c meets
  refine regular_meets _ _ _ onAxis onLine ?_
  cases axis with
  | x =>
      change l.a ≠ 0 at meets
      change 0 * l.b - l.a * 1 ≠ 0
      simpa using meets
  | y =>
      change l.b ≠ 0 at meets
      change 1 * l.b - l.a * 0 ≠ 0
      simpa using meets

theorem edge_meets (b : Bounds Rat) (axis : Axis) : axis.line.MeetsAt (b.edge axis) (.onAxis axis (b.top axis)) := by
  have unit : (b.edge axis).coefficient axis = 1 := by cases axis <;> rfl
  have top : (b.edge axis).crossing axis = b.top axis := by cases axis <;> exact div_one _
  have meets := axis_meets axis (b.edge axis) (by rw [unit]; exact one_ne_zero)
  rwa [top] at meets

namespace Problem

def boundary? (problem : Problem Rat) (i : Nat) : Option (Line Rat) :=
  problem.constraints[i]?.map Constraint.boundary

def Names (problem : Problem Rat) : Origin → Line Rat → Line Rat → Prop
  | .intercept axis (.constraint i), l, m => l = axis.line ∧ problem.boundary? i = some m
  | .intercept axis .bound, l, m => l = axis.line ∧ m = problem.bounds.edge axis
  | .intersection i j, l, m => i < j ∧ problem.boundary? i = some l ∧ problem.boundary? j = some m

end Problem

section Sources

variable (problem : Problem Rat)

theorem intercept_named (axis : Axis) (i : Nat) (c : Constraint Rat) (found : problem.constraints[i]? = some c)
    (meets : c.boundary.coefficient axis ≠ 0) :
    ∃ l m, problem.Names (.intercept axis (.constraint i)) l m ∧
      l.MeetsAt m (.onAxis axis (c.boundary.crossing axis)) :=
  ⟨axis.line, c.boundary, ⟨rfl, congrArg (Option.map Constraint.boundary) found⟩, axis_meets axis c.boundary meets⟩

theorem entry_named (axis : Axis) (entry : Rat × Limit)
    (listed : AxisEntry problem.constraints problem.bounds axis entry) :
    ∃ l m, problem.Names (.intercept axis entry.2) l m ∧ l.MeetsAt m (.onAxis axis entry.1) := by
  obtain ⟨v, limit⟩ := entry
  cases shared : sharedDirection? problem.constraints with
  | some direction =>
      simp only [AxisEntry, shared] at listed
      rcases tightest_source _ _ direction axis _ listed with crossing | ⟨_, edge⟩
      · obtain ⟨i, c, found, positive, rfl, rfl⟩ := (axis_crossing_mem _ axis v limit).mp crossing
        exact intercept_named problem axis i c found positive.ne'
      · cases edge
        exact ⟨axis.line, problem.bounds.edge axis, ⟨rfl, rfl⟩, edge_meets problem.bounds axis⟩
  | none =>
      simp only [AxisEntry, shared] at listed
      obtain ⟨i, c, found, crosses, rfl⟩ := listed
      rw [intercept_exactly] at crosses
      by_cases meets : c.boundary.coefficient axis = 0
      · rw [if_pos meets] at crosses
        cases crosses
      · rw [if_neg meets, Option.some.injEq] at crosses
        subst crosses
        exact intercept_named problem axis i c found meets

theorem candidate_named (c : Candidate Rat) (listed : c ∈ candidates problem.constraints problem.bounds) :
    ∃ l m, problem.Names c.origin l m ∧ l.MeetsAt m c.point := by
  rcases (candidate_iff problem c).mp listed with ⟨axis, entry, source, rfl⟩ | ⟨p, crosses, rfl⟩
  · exact entry_named problem axis entry source
  · exact ⟨_, _, ⟨Nat.zero_lt_one, rfl, rfl⟩, intersection_meets _ _ p crosses⟩

end Sources

theorem clamp_near (top v tolerance : Rat) (loose : 0 ≤ tolerance) (low : -tolerance ≤ v)
    (high : v ≤ top + tolerance) : |Scalar.clamp top v - v| ≤ tolerance := by
  unfold Scalar.clamp
  rw [abs_le]
  split_ifs with below above
  · change v < 0 at below
    constructor <;> linarith
  · change top < v at above
    constructor <;> linarith
  · constructor <;> linarith

theorem vertex_provenance (problem : Problem Rat) (tolerance : Rat) (loose : 0 ≤ tolerance) (v : Vertex Rat)
    (member : v ∈ problem.feasibleVertices tolerance) :
    ∃ l m, problem.Names v.origin l m ∧ ∃ q, l.MeetsAt m q ∧
      |v.point.x - q.x| ≤ tolerance ∧ |v.point.y - q.y| ≤ tolerance := by
  obtain ⟨c, listed, ⟨⟨⟨⟨xLow, xHigh⟩, ⟨yLow, yHigh⟩⟩, _⟩, _⟩, rfl⟩ :=
    feasible_vertex_source problem tolerance v member
  obtain ⟨l, m, named, meets⟩ := candidate_named problem c listed
  refine ⟨l, m, named, c.point, meets, ?_, ?_⟩
  · exact clamp_near _ _ tolerance loose xLow xHigh
  · exact clamp_near _ _ tolerance loose yLow yHigh

def snappedCrossing : Problem Rat where
  first := ⟨⟨1, 1, 7⟩, .le⟩
  second := ⟨⟨1, -1, 4⟩, .le⟩
  objective := ⟨2, 1⟩
  bounds := ⟨5, 5⟩
  valid := by decide +kernel

theorem vertex_provenance_snapped_crossing :
    (0 : Rat) ≤ 1 ∧
      (⟨⟨5, 3 / 2⟩, 23 / 2, .intersection 0 1⟩ : Vertex Rat) ∈ snappedCrossing.feasibleVertices 1 ∧
      ∃ l m, snappedCrossing.Names (.intersection 0 1) l m ∧ ∃ q, l.MeetsAt m q ∧
        |5 - q.x| ≤ 1 ∧ |3 / 2 - q.y| ≤ 1 := by
  have listed : (⟨⟨5, 3 / 2⟩, 23 / 2, .intersection 0 1⟩ : Vertex Rat) ∈ snappedCrossing.feasibleVertices 1 := by
    decide +kernel
  exact ⟨zero_le_one, listed, vertex_provenance snappedCrossing 1 zero_le_one _ listed⟩

end PlanarLP
