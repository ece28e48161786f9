import PlanarLP.Proofs.Consistency
import PlanarLP.Proofs.DoubleArithmetic
import PlanarLP.Proofs.ReportedVertices

set_option autoImplicit false

namespace PlanarLP

def Point.Finite (p : Point Float) : Prop := p.x.isFinite = true ∧ p.y.isFinite = true

def Objective.reach (o : Objective Float) (b : Bounds Float) : Float :=
  Scalar.abs o.g * b.xMax + Scalar.abs o.h * b.yMax

theorem term_within (a x top : Float) (coefficient : a.isFinite = true) (low : 0 ≤ x) (high : x ≤ top)
    (bounded : (Scalar.abs a * top).isFinite = true) :
    (a * x).isFinite = true ∧ |doubleValue (a * x)| ≤ doubleValue (Scalar.abs a * top) := by
  obtain ⟨magnitude, topFinite⟩ := mul_operands a.abs top bounded
  have finite := double_between_finite 0 x top low high rfl topFinite
  obtain ⟨zeroNumber, number⟩ := double_le_number _ _ low
  have below := (double_le_value _ _ zeroNumber number).mp low
  have above := (double_le_value _ _ number (finite_number top topFinite)).mp high
  obtain ⟨productNumber, product⟩ := mul_value a x coefficient finite
  have corner := (mul_value a.abs top magnitude topFinite).2
  have within : |doubleValue (a * x)| ≤ doubleValue (a.abs * top) := by
    rw [product, corner, rounded_abs, abs_mul, abs_of_nonneg below, abs_double_value]
    exact rounded_mono _ _ (mul_le_mul_of_nonneg_left above (abs_nonneg _))
  have limit := (le_abs_self _).trans_lt (finite_value _ bounded)
  exact ⟨(finite_iff _).mpr ⟨productNumber, within.trans_lt limit⟩, within⟩

theorem objective_value_finite (o : Objective Float) (b : Bounds Float) (p : Point Float)
    (coefficients : o.g.isFinite = true ∧ o.h.isFinite = true) (bounded : (o.reach b).isFinite = true)
    (xWithin : 0 ≤ p.x ∧ p.x ≤ b.xMax) (yWithin : 0 ≤ p.y ∧ p.y ≤ b.yMax) : (o.value p).isFinite = true := by
  obtain ⟨xBounded, yBounded⟩ := add_operands _ _ bounded
  obtain ⟨xFinite, xTerm⟩ := term_within o.g p.x b.xMax coefficients.1 xWithin.1 xWithin.2 xBounded
  obtain ⟨yFinite, yTerm⟩ := term_within o.h p.y b.yMax coefficients.2 yWithin.1 yWithin.2 yBounded
  have reached := (add_value _ _ xBounded yBounded).2
  have limit := (le_abs_self _).trans_lt (finite_value _ bounded)
  refine read_finite _ _ (add_value (o.g * p.x) (o.h * p.y) xFinite yFinite) ?_
  calc |rounded (doubleValue (o.g * p.x) + doubleValue (o.h * p.y))|
      = rounded |doubleValue (o.g * p.x) + doubleValue (o.h * p.y)| := rounded_abs _
    _ ≤ rounded (doubleValue (o.g.abs * b.xMax) + doubleValue (o.h.abs * b.yMax)) :=
        rounded_mono _ _ ((abs_add_le _ _).trans (add_le_add xTerm yTerm))
    _ = doubleValue (o.reach b) := reached.symm
    _ < beyond := limit

theorem vertex_in_box (problem : Problem Float) (tolerance : Float) (v : Vertex Float)
    (member : v ∈ problem.feasibleVertices tolerance) :
    (0 ≤ v.point.x ∧ v.point.x ≤ problem.bounds.xMax) ∧ (0 ≤ v.point.y ∧ v.point.y ≤ problem.bounds.yMax) ∧
      v.value = problem.objective.value v.point := by
  obtain ⟨candidate, _, ⟨raw, _⟩, same⟩ := feasible_vertex_source problem tolerance v member
  subst same
  obtain ⟨xWithin, yWithin⟩ := clamp_in_box problem candidate.point (feasible_number problem tolerance _ raw)
  exact ⟨xWithin, yWithin, rfl⟩

theorem vertex_finite (problem : Problem Float) (tolerance : Float) (v : Vertex Float)
    (member : v ∈ problem.feasibleVertices tolerance) : v.point.Finite := by
  obtain ⟨xWithin, yWithin, _⟩ := vertex_in_box problem tolerance v member
  exact ⟨double_between_finite 0 _ _ xWithin.1 xWithin.2 rfl (problem_top problem .x).1,
    double_between_finite 0 _ _ yWithin.1 yWithin.2 rfl (problem_top problem .y).1⟩

theorem objective_finite (problem : Problem Float) :
    problem.objective.g.isFinite = true ∧ problem.objective.h.isFinite = true := by
  have finite := ((problem_fault_none _ _ _ _).mp problem.valid).1
  exact ⟨finite (.g, problem.objective.g) (by simp [Problem.coefficients]),
    finite (.h, problem.objective.h) (by simp [Problem.coefficients])⟩

theorem vertex_value_finite (problem : Problem Float) (tolerance : Float) (v : Vertex Float)
    (bounded : (problem.objective.reach problem.bounds).isFinite = true)
    (member : v ∈ problem.feasibleVertices tolerance) : v.value.isFinite = true := by
  obtain ⟨xWithin, yWithin, value⟩ := vertex_in_box problem tolerance v member
  rw [value]
  exact objective_value_finite _ _ _ (objective_finite problem) bounded xWithin yWithin

structure Solution.Finite (s : Solution Float) : Prop where
  vertices : ∀ v ∈ s.vertices, v.point.Finite
  extrema : ∀ m, s.maximum = some m ∨ s.minimum = some m → m.point.Finite

structure Solution.Valued (s : Solution Float) : Prop where
  vertices : ∀ v ∈ s.vertices, v.value.isFinite = true
  extrema : ∀ m, s.maximum = some m ∨ s.minimum = some m → m.value.isFinite = true
  greatest : ∀ m, s.maximum = some m → ∀ v ∈ s.vertices, v.value ≤ m.value
  least : ∀ m, s.minimum = some m → ∀ v ∈ s.vertices, m.value ≤ v.value

theorem extremum_listed (problem : Problem Float) (goal : Goal) (tolerance : Float) (m : Extremum Float)
    (found : (problem.solve goal tolerance).maximum = some m ∨ (problem.solve goal tolerance).minimum = some m) :
    ∃ v ∈ problem.feasibleVertices tolerance, m.point = v.point ∧ m.value = v.value := by
  have referred :
      ∃ v, (problem.feasibleVertices tolerance)[m.index]? = some v ∧ m.point = v.point ∧ m.value = v.value := by
    rcases found with maximum | minimum
    · exact selected_refers _ _ m (solve_maximum problem goal tolerance m maximum)
    · exact selected_refers _ _ m (solve_minimum problem goal tolerance m minimum)
  obtain ⟨v, present, same⟩ := referred
  exact ⟨v, List.mem_of_getElem? present, same⟩

theorem solution_finite (problem : Problem Float) (goal : Goal) (tolerance : Float) :
    (problem.solve goal tolerance).Finite where
  vertices := vertex_finite problem tolerance
  extrema := by
    intro m found
    obtain ⟨v, member, point, _⟩ := extremum_listed problem goal tolerance m found
    rw [point]
    exact vertex_finite problem tolerance v member

theorem solution_valued (problem : Problem Float) (goal : Goal) (tolerance : Float)
    (bounded : (problem.objective.reach problem.bounds).isFinite = true) :
    (problem.solve goal tolerance).Valued := by
  have values : ∀ v ∈ problem.feasibleVertices tolerance, v.value.isFinite = true :=
    fun v member => vertex_value_finite problem tolerance v bounded member
  have numbers : ∀ v ∈ problem.feasibleVertices tolerance, v.value.isNaN = false :=
    fun v member => finite_number v.value (values v member)
  have listed := extremum_listed problem goal tolerance
  refine ⟨values, ?_, ?_, ?_⟩
  · intro m found
    obtain ⟨v, member, _, value⟩ := listed m found
    rw [value]
    exact values v member
  · intro m found w second
    obtain ⟨v, first, _, value⟩ := listed m (.inl found)
    have leads := double_maximum_leads _ m numbers (solve_maximum problem goal tolerance m found)
    exact (double_le_value _ _ (numbers w second) (value ▸ numbers v first)).mpr (leads.greatest w second)
  · intro m found w second
    obtain ⟨v, first, _, value⟩ := listed m (.inr found)
    have leads := double_minimum_leads _ m numbers (solve_minimum problem goal tolerance m found)
    exact (double_le_value _ _ (value ▸ numbers v first) (numbers w second)).mpr
      (neg_le_neg_iff.mp (leads.greatest w second))

end PlanarLP
