import PlanarLP.Proofs.CarriedVertices
import PlanarLP.Proofs.FiniteSolution
import PlanarLP.Proofs.Hundredths

set_option autoImplicit false

namespace PlanarLP

open Float.Model (UnpackedFloat Format)

theorem add_infinite (a x : Float) (finite : a.isFinite = true) (number : x.isNaN = false)
    (unbounded : ¬ x.isFinite = true) : a + x = x := by
  have infinity : ∃ s, x.toModel.unpack = .infinity s := by
    rcases infinite_cases x number unbounded with rfl | rfl
    · exact ⟨.positive, rfl⟩
    · exact ⟨.negative, rfl⟩
  obtain ⟨s, unpacked⟩ := infinity
  change a.toModel.unpack.isFinite = true at finite
  refine double_eq_of_unpacked _ _ ?_
  change (Float.Model.pack (UnpackedFloat.add _ a.toModel.unpack x.toModel.unpack)).unpack = x.toModel.unpack
  rw [unpacked]
  generalize a.toModel.unpack = u at finite
  cases u with
  | notANumber | infinity => cases finite
  | zero | finite => exact packed_fits (.infinity s) trivial trivial

theorem sum_number (a x : Float) (finite : a.isFinite = true) (number : x.isNaN = false) : (a + x).isNaN = false := by
  by_cases bounded : x.isFinite = true
  · exact (add_value a x finite bounded).1
  · rw [add_infinite a x finite number bounded]
    exact number

-- An infinite summand absorbs the other one, and only its own sign compares with finite ones.
theorem double_add_mono (a x y : Float) (finite : a.isFinite = true) (order : x ≤ y) : a + x ≤ a + y := by
  obtain ⟨left, right⟩ := double_le_number x y order
  have values := (double_le_value x y left right).mp order
  refine (double_le_value _ _ (sum_number a x finite left) (sum_number a y finite right)).mpr ?_
  by_cases first : x.isFinite = true
  · by_cases second : y.isFinite = true
    · rw [(add_value a x finite first).2, (add_value a y finite second).2]
      exact rounded_mono _ _ ((add_le_add_iff_left _).mpr values)
    · have inside := abs_lt.mp (finite_value x first)
      rw [add_infinite a y finite right second]
      rcases infinite_value y right second with top | bottom
      · exact (le_of_abs_le (double_value_within _)).trans_eq top.symm
      · linarith
  · rw [add_infinite a x finite left first]
    by_cases second : y.isFinite = true
    · have inside := abs_lt.mp (finite_value y second)
      rcases infinite_value x left first with top | bottom
      · linarith
      · exact bottom.trans_le (neg_le_of_abs_le (double_value_within _))
    · rw [add_infinite a y finite right second]
      exact values

theorem double_neg_le (x y : Float) (order : x ≤ y) : -y ≤ -x := by
  obtain ⟨left, right⟩ := double_le_number x y order
  rw [double_le_value _ _ ((double_neg_number y).trans right) ((double_neg_number x).trans left), double_neg_value,
    double_neg_value, neg_le_neg_iff]
  exact (double_le_value x y left right).mp order

section Loosening

variable (problem : Problem Float) (tight loose : Float) (order : tight ≤ loose)

include order

theorem feasible_loosened (p : Point Float) (feasible : problem.Feasible tight p) : problem.Feasible loose p := by
  obtain ⟨⟨⟨xLow, xHigh⟩, yLow, yHigh⟩, satisfied⟩ := feasible
  have lower := double_neg_le tight loose order
  have xTop := double_add_mono _ _ _ (problem_top problem .x).1 order
  have yTop := double_add_mono _ _ _ (problem_top problem .y).1 order
  refine ⟨⟨⟨?_, ?_⟩, ?_, ?_⟩, fun c member => double_le_trans _ _ _ lower (satisfied c member)⟩
  · exact double_le_trans _ _ _ lower xLow
  · exact double_le_trans _ _ _ xHigh xTop
  · exact double_le_trans _ _ _ lower yLow
  · exact double_le_trans _ _ _ yHigh yTop

theorem accepted_loosened (c : Candidate Float) (accepted : problem.Accepts tight c) : problem.Accepts loose c :=
  ⟨feasible_loosened problem tight loose order _ accepted.1, feasible_loosened problem tight loose order _ accepted.2⟩

-- Another candidate may come to stand for the same rounded point, so vertices are compared by
-- their rounded points.
theorem represented_loosened (v : Vertex Float) (member : v ∈ problem.feasibleVertices tight) :
    ∃ w ∈ problem.feasibleVertices loose, w.point.rounded = v.point.rounded := by
  obtain ⟨c, listed, accepted, rfl⟩ := feasible_vertex_source problem tight v member
  obtain ⟨d, _, _, kept, same⟩ :=
    candidate_represented problem loose c listed (accepted_loosened problem tight loose order c accepted)
  exact ⟨problem.evaluate d, kept, same⟩

end Loosening

theorem vertex_number (problem : Problem Float) (tolerance : Float) (v : Vertex Float)
    (member : v ∈ problem.feasibleVertices tolerance) : v.point.x.isNaN = false ∧ v.point.y.isNaN = false :=
  (vertex_finite problem tolerance v member).imp (finite_number _) (finite_number _)

theorem rounded_points_distinct (problem : Problem Float) (tolerance : Float) :
    ((problem.feasibleVertices tolerance).map (·.point.rounded)).Nodup := by
  refine List.pairwise_map.mpr ((feasible_vertices_apart problem tolerance).imp_of_mem ?_)
  intro v w first _ apart same
  have coincide := coincides_rounded _ _ (vertex_number problem tolerance v first) same
  exact Bool.false_ne_true (apart.symm.trans coincide)

theorem larger_tolerance (problem : Problem Float) (goal : Goal) (tight loose : Float) (order : tight ≤ loose) :
    (∀ c ∈ candidates problem.constraints problem.bounds, problem.Accepts tight c → problem.Accepts loose c) ∧
      (∀ v ∈ (problem.solve goal tight).vertices,
        ∃ w ∈ (problem.solve goal loose).vertices, v.point.coincides w.point = true) ∧
      (problem.solve goal tight).vertices.length ≤ (problem.solve goal loose).vertices.length ∧
      ((problem.solve goal loose).status = .infeasible → (problem.solve goal tight).status = .infeasible) := by
  change (∀ c ∈ candidates problem.constraints problem.bounds, problem.Accepts tight c → problem.Accepts loose c) ∧
    (∀ v ∈ problem.feasibleVertices tight,
      ∃ w ∈ problem.feasibleVertices loose, v.point.coincides w.point = true) ∧
    (problem.feasibleVertices tight).length ≤ (problem.feasibleVertices loose).length ∧ _
  have represented := represented_loosened problem tight loose order
  refine ⟨fun c _ => accepted_loosened problem tight loose order c, fun v member => ?_, ?_, fun empty => ?_⟩
  · obtain ⟨w, kept, same⟩ := represented v member
    exact ⟨w, kept, coincides_rounded _ _ (vertex_number problem tight v member) same.symm⟩
  · have included : (problem.feasibleVertices tight).map (·.point.rounded) ⊆
        (problem.feasibleVertices loose).map (·.point.rounded) := by
      intro q listed
      obtain ⟨v, member, rfl⟩ := List.mem_map.mp listed
      obtain ⟨w, kept, same⟩ := represented v member
      exact List.mem_map.mpr ⟨w, kept, same⟩
    simpa using (rounded_points_distinct problem tight).length_le_of_subset included
  · rw [solve_infeasible_iff] at empty ⊢
    refine List.eq_nil_iff_forall_not_mem.mpr fun v member => ?_
    obtain ⟨w, kept, _⟩ := represented v member
    exact List.not_mem_nil (empty ▸ kept)

def nearlyEqualLimits : Problem Float where
  first := ⟨⟨-1, 0, -3.004⟩, .ge⟩
  second := ⟨⟨1, 0, 3⟩, .le⟩
  objective := ⟨1, 1⟩
  bounds := ⟨10, 10⟩
  valid := by decide +kernel

theorem larger_tolerance_other_representative :
    (0 : Float) ≤ 0.01 ∧
      (nearlyEqualLimits.solve .both 0).vertices.map (·.origin) = [.intercept .x (.constraint 1)] ∧
      (nearlyEqualLimits.solve .both 0.01).vertices.map (·.origin) = [.intercept .x (.constraint 0)] ∧
      (∀ v ∈ (nearlyEqualLimits.solve .both 0).vertices,
        ∃ w ∈ (nearlyEqualLimits.solve .both 0.01).vertices, v.point.coincides w.point = true) := by
  have order : (0 : Float) ≤ 0.01 := by decide +kernel
  exact ⟨order, by decide +kernel, by decide +kernel, (larger_tolerance nearlyEqualLimits .both 0 0.01 order).2.1⟩

end PlanarLP
