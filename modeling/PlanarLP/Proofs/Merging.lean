import PlanarLP.Proofs.Enumeration
import PlanarLP.Proofs.Selection

set_option autoImplicit false

namespace PlanarLP

def Objective.mergeLoss (o : Objective Rat) : Rat := (|o.g| + |o.h|) / 100

theorem value_near (o : Objective Rat) (p q : Point Rat) (near : |p.x - q.x| ≤ 1 / 100 ∧ |p.y - q.y| ≤ 1 / 100) :
    |o.value p - o.value q| ≤ o.mergeLoss := by
  have split : o.value p - o.value q = o.g * (p.x - q.x) + o.h * (p.y - q.y) := by
    simp only [objective_value_exactly]
    ring
  calc |o.value p - o.value q|
      ≤ |o.g * (p.x - q.x)| + |o.h * (p.y - q.y)| := split ▸ abs_add_le _ _
    _ = |o.g| * |p.x - q.x| + |o.h| * |p.y - q.y| := by rw [abs_mul, abs_mul]
    _ ≤ |o.g| * (1 / 100) + |o.h| * (1 / 100) :=
        add_le_add (mul_le_mul_of_nonneg_left near.1 (abs_nonneg _)) (mul_le_mul_of_nonneg_left near.2 (abs_nonneg _))
    _ = o.mergeLoss := by
        unfold Objective.mergeLoss
        ring

theorem vertex_value (problem : Problem Rat) (tolerance : Rat) (v : Vertex Rat)
    (member : v ∈ problem.feasibleVertices tolerance) : v.value = problem.objective.value v.point := by
  obtain ⟨_, _, _, same⟩ := feasible_vertex_source problem tolerance v member
  rw [same]
  rfl

theorem vertex_feasible (problem : Problem Rat) (tolerance : Rat) (v : Vertex Rat)
    (member : v ∈ problem.feasibleVertices tolerance) : problem.Feasible tolerance v.point := by
  obtain ⟨_, _, accepted, same⟩ := feasible_vertex_source problem tolerance v member
  rw [same]
  exact accepted.2

theorem exact_vertex_in_box (problem : Problem Rat) (tolerance : Rat) (v : Vertex Rat)
    (member : v ∈ problem.feasibleVertices tolerance) :
    (0 ≤ v.point.x ∧ v.point.x ≤ problem.bounds.xMax) ∧ (0 ≤ v.point.y ∧ v.point.y ≤ problem.bounds.yMax) := by
  obtain ⟨_, _, _, same⟩ := feasible_vertex_source problem tolerance v member
  rw [same]
  exact ⟨exact_clamp_within _ _ (exact_top_positive problem .x).le,
    exact_clamp_within _ _ (exact_top_positive problem .y).le⟩

theorem accepted_represented (problem : Problem Rat) (tolerance : Rat) (candidate : Candidate Rat)
    (listed : candidate ∈ candidates problem.constraints problem.bounds)
    (accepted : problem.Accepts tolerance candidate) :
    ∃ v ∈ problem.feasibleVertices tolerance,
      |v.point.x - (problem.evaluate candidate).point.x| ≤ 1 / 100 ∧
        |v.point.y - (problem.evaluate candidate).point.y| ≤ 1 / 100 := by
  obtain ⟨v, member, represents⟩ := feasible_vertices_cover problem tolerance candidate listed accepted
  refine ⟨v, member, ?_⟩
  rcases represents with same | near
  · rw [same, sub_self, sub_self, abs_zero]
    constructor <;> norm_num
  · exact coincident_near _ _ near

theorem accepted_value (problem : Problem Rat) (tolerance : Rat) (candidate : Candidate Rat)
    (listed : candidate ∈ candidates problem.constraints problem.bounds)
    (accepted : problem.Accepts tolerance candidate) :
    ∃ v ∈ problem.feasibleVertices tolerance,
      |v.value - problem.objective.value (problem.evaluate candidate).point| ≤ problem.objective.mergeLoss := by
  obtain ⟨v, present, near⟩ := accepted_represented problem tolerance candidate listed accepted
  exact ⟨v, present, vertex_value problem tolerance v present ▸ value_near _ _ _ near⟩

theorem listed_represented (problem : Problem Rat) (tolerance : Rat) (loose : 0 ≤ tolerance) (q : Point Rat)
    (listed : Listed problem.constraints problem.bounds q) (feasible : problem.Feasible 0 q) :
    ∃ v ∈ problem.feasibleVertices tolerance, |v.value - problem.objective.value q| ≤ problem.objective.mergeLoss := by
  obtain ⟨candidate, member, rfl⟩ := listed
  have snapped := clamp_feasible problem _ feasible
  have accepted : problem.Accepts tolerance candidate := by
    have within := feasible_loosen problem 0 tolerance loose _ feasible
    exact ⟨within, snapped.symm ▸ within⟩
  have represented := accepted_value problem tolerance candidate member accepted
  have point : (problem.evaluate candidate).point = candidate.point := snapped
  rwa [point] at represented

section Solving

variable (problem : Problem Rat) (goal : Goal) (tolerance : Rat)

theorem selected_attained (better : Rat → Rat → Bool) (m : Extremum Rat)
    (selected : Extremum.select? better (problem.feasibleVertices tolerance) = some m) :
    problem.Feasible tolerance m.point ∧ m.value = problem.objective.value m.point := by
  obtain ⟨v, found, same⟩ := select_within better _ m selected
  have member := List.mem_of_getElem? found
  rw [same]
  exact ⟨vertex_feasible problem tolerance v member, vertex_value problem tolerance v member⟩

theorem selected_in_box (better : Rat → Rat → Bool) (m : Extremum Rat)
    (selected : Extremum.select? better (problem.feasibleVertices tolerance) = some m) :
    (0 ≤ m.point.x ∧ m.point.x ≤ problem.bounds.xMax) ∧ (0 ≤ m.point.y ∧ m.point.y ≤ problem.bounds.yMax) := by
  obtain ⟨v, found, same⟩ := select_within better _ m selected
  rw [same]
  exact exact_vertex_in_box problem tolerance v (List.mem_of_getElem? found)

theorem selected_exists (better : Rat → Rat → Bool) (verdict : (problem.solve goal tolerance).status ≠ .infeasible) :
    ∃ m, Extremum.select? better (problem.feasibleVertices tolerance) = some m := by
  rw [Ne, solve_infeasible_iff, ← select_none_iff better] at verdict
  exact Option.ne_none_iff_exists'.mp verdict

theorem solve_maximum_exists (seeks : goal.seeksMaximum = true)
    (verdict : (problem.solve goal tolerance).status ≠ .infeasible) :
    ∃ m, (problem.solve goal tolerance).maximum = some m := by
  have selected : (problem.solve goal tolerance).maximum = Extremum.maximum? (problem.feasibleVertices tolerance) :=
    if_pos seeks
  rw [selected]
  exact selected_exists problem goal tolerance _ verdict

theorem solve_minimum_exists (seeks : goal.seeksMinimum = true)
    (verdict : (problem.solve goal tolerance).status ≠ .infeasible) :
    ∃ m, (problem.solve goal tolerance).minimum = some m := by
  have selected : (problem.solve goal tolerance).minimum = Extremum.minimum? (problem.feasibleVertices tolerance) :=
    if_pos seeks
  rw [selected]
  exact selected_exists problem goal tolerance _ verdict

theorem infeasible_unlisted (q : Point Rat) (loose : 0 ≤ tolerance)
    (verdict : (problem.solve goal tolerance).status = .infeasible)
    (listed : Listed problem.constraints problem.bounds q) : ¬ problem.Feasible 0 q := by
  intro feasible
  obtain ⟨v, member, _⟩ := listed_represented problem tolerance loose q listed feasible
  rw [(solve_infeasible_iff problem goal tolerance).mp verdict] at member
  cases member

section Represented

variable (m : Extremum Rat) (q : Point Rat)
  (represented : ∃ v ∈ problem.feasibleVertices tolerance,
    |v.value - problem.objective.value q| ≤ problem.objective.mergeLoss)

include represented

theorem represented_maximum (found : (problem.solve goal tolerance).maximum = some m) :
    problem.objective.value q ≤ m.value + problem.objective.mergeLoss := by
  obtain ⟨v, member, near⟩ := represented
  have greatest := maximum_greatest _ m (solve_maximum problem goal tolerance m found) v member
  linarith [(abs_le.mp near).1]

theorem represented_minimum (found : (problem.solve goal tolerance).minimum = some m) :
    m.value - problem.objective.mergeLoss ≤ problem.objective.value q := by
  obtain ⟨v, member, near⟩ := represented
  have least := minimum_least _ m (solve_minimum problem goal tolerance m found) v member
  linarith [(abs_le.mp near).2]

end Represented

theorem maximum_reaches (m : Extremum Rat) (q : Point Rat) (loose : 0 ≤ tolerance)
    (found : (problem.solve goal tolerance).maximum = some m) (listed : Listed problem.constraints problem.bounds q)
    (feasible : problem.Feasible 0 q) : problem.objective.value q ≤ m.value + problem.objective.mergeLoss :=
  represented_maximum problem goal tolerance m q (listed_represented problem tolerance loose q listed feasible) found

theorem minimum_reaches (m : Extremum Rat) (q : Point Rat) (loose : 0 ≤ tolerance)
    (found : (problem.solve goal tolerance).minimum = some m) (listed : Listed problem.constraints problem.bounds q)
    (feasible : problem.Feasible 0 q) : m.value - problem.objective.mergeLoss ≤ problem.objective.value q :=
  represented_minimum problem goal tolerance m q (listed_represented problem tolerance loose q listed feasible) found

end Solving

theorem merging_costs_hundredth (problem : Problem Rat) (tolerance : Rat) (candidate : Candidate Rat)
    (listed : candidate ∈ candidates problem.constraints problem.bounds)
    (raw : problem.Feasible tolerance candidate.point)
    (snapped : problem.Feasible tolerance (problem.bounds.clamp candidate.point)) :
    (∃ v ∈ problem.feasibleVertices tolerance,
        |v.point.x - (problem.bounds.clamp candidate.point).x| ≤ 1 / 100 ∧
          |v.point.y - (problem.bounds.clamp candidate.point).y| ≤ 1 / 100) ∧
      (∃ m, (problem.solve .both tolerance).maximum = some m ∧
        problem.objective.value (problem.bounds.clamp candidate.point) -
          (|problem.objective.g| + |problem.objective.h|) / 100 ≤ m.value) ∧
      ∃ m, (problem.solve .both tolerance).minimum = some m ∧
        m.value ≤ problem.objective.value (problem.bounds.clamp candidate.point) +
          (|problem.objective.g| + |problem.objective.h|) / 100 := by
  have represented := accepted_value problem tolerance candidate listed ⟨raw, snapped⟩
  have verdict : (problem.solve .both tolerance).status ≠ .infeasible := by
    obtain ⟨v, member, _⟩ := represented
    exact fun empty => List.ne_nil_of_mem member ((solve_infeasible_iff problem .both tolerance).mp empty)
  obtain ⟨top, highest⟩ := solve_maximum_exists problem .both tolerance rfl verdict
  obtain ⟨bottom, lowest⟩ := solve_minimum_exists problem .both tolerance rfl verdict
  refine ⟨accepted_represented problem tolerance candidate listed ⟨raw, snapped⟩, ⟨top, highest, ?_⟩, bottom, lowest,
    ?_⟩
  · exact sub_le_iff_le_add.mpr (represented_maximum problem .both tolerance top _ represented highest)
  · exact sub_le_iff_le_add.mp (represented_minimum problem .both tolerance bottom _ represented lowest)

def mergedCorner : Problem Rat where
  first := ⟨⟨1, 1, 4⟩, .le⟩
  second := ⟨⟨1, -1, 999 / 250⟩, .ge⟩
  objective := ⟨-100, 50⟩
  bounds := ⟨10, 10⟩
  valid := by decide +kernel

theorem merging_costs_hundredth_merged_corner :
    (⟨⟨1999 / 500, 1 / 500⟩, .intersection 0 1⟩ : Candidate Rat) ∈
        candidates mergedCorner.constraints mergedCorner.bounds ∧
      mergedCorner.Feasible 0 ⟨1999 / 500, 1 / 500⟩ ∧
      mergedCorner.Feasible 0 (mergedCorner.bounds.clamp ⟨1999 / 500, 1 / 500⟩) ∧
      (mergedCorner.solve .both 0).vertices = [⟨⟨4, 0⟩, -400, .intercept .x (.constraint 0)⟩] ∧
      ∃ m, (mergedCorner.solve .both 0).maximum = some m ∧
        mergedCorner.objective.value (mergedCorner.bounds.clamp ⟨1999 / 500, 1 / 500⟩) - (|-100| + |50|) / 100 ≤
          m.value := by
  have listed : (⟨⟨1999 / 500, 1 / 500⟩, .intersection 0 1⟩ : Candidate Rat) ∈
      candidates mergedCorner.constraints mergedCorner.bounds := by decide +kernel
  have raw : mergedCorner.Feasible 0 ⟨1999 / 500, 1 / 500⟩ := by decide +kernel
  have snapped : mergedCorner.Feasible 0 (mergedCorner.bounds.clamp ⟨1999 / 500, 1 / 500⟩) := by decide +kernel
  exact ⟨listed, raw, snapped, by decide +kernel,
    (merging_costs_hundredth mergedCorner 0 _ listed raw snapped).2.1⟩

end PlanarLP
