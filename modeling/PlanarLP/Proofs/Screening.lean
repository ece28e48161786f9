import PlanarLP.Screening

set_option autoImplicit false

namespace PlanarLP

variable {α : Type} [Scalar α]

namespace Problem

def Accepts (problem : Problem α) (tolerance : α) (candidate : Candidate α) : Prop :=
  problem.Feasible tolerance candidate.point ∧
    problem.Feasible tolerance (problem.bounds.clamp candidate.point)

instance (problem : Problem α) (tolerance : α) (candidate : Candidate α) :
    Decidable (problem.Accepts tolerance candidate) :=
  inferInstanceAs (Decidable (_ ∧ _))

def evaluate (problem : Problem α) (candidate : Candidate α) : Vertex α :=
  let point := problem.bounds.clamp candidate.point
  ⟨point, problem.objective.value point, candidate.origin⟩

end Problem

def Vertex.Apart (v w : Vertex α) : Prop := v.point.coincides w.point = false

instance (v w : Vertex α) : Decidable (v.Apart w) := inferInstanceAs (Decidable (_ = _))

theorem judge_cases (problem : Problem α) (tolerance : α) (seen : List (Vertex α)) (candidate : Candidate α) :
    (¬ problem.Feasible tolerance candidate.point ∧
      problem.judge tolerance seen candidate = .infeasible candidate) ∨
    (problem.Feasible tolerance candidate.point ∧
      ¬ problem.Feasible tolerance (problem.bounds.clamp candidate.point) ∧
      problem.judge tolerance seen candidate = .displaced candidate (problem.bounds.clamp candidate.point)) ∨
    (problem.Accepts tolerance candidate ∧
      (∃ v ∈ seen, v.point.coincides (problem.bounds.clamp candidate.point) = true) ∧
      problem.judge tolerance seen candidate = .duplicate candidate (problem.bounds.clamp candidate.point)) ∨
    (problem.Accepts tolerance candidate ∧ (∀ v ∈ seen, v.Apart (problem.evaluate candidate)) ∧
      problem.judge tolerance seen candidate = .accepted (problem.evaluate candidate)) := by
  unfold Problem.judge
  by_cases raw : problem.Feasible tolerance candidate.point
  · rw [if_neg (not_not_intro raw)]
    by_cases snapped : problem.Feasible tolerance (problem.bounds.clamp candidate.point)
    · rw [if_neg (not_not_intro snapped)]
      by_cases near : seen.any (·.point.coincides (problem.bounds.clamp candidate.point)) = true
      · rw [if_pos near]
        exact .inr (.inr (.inl ⟨⟨raw, snapped⟩, List.any_eq_true.mp near, rfl⟩))
      · have apart : ∀ v ∈ seen, v.Apart (problem.evaluate candidate) := fun v member =>
          Bool.eq_false_iff.mpr fun met => near (List.any_eq_true.mpr ⟨v, member, met⟩)
        rw [if_neg near]
        exact .inr (.inr (.inr ⟨⟨raw, snapped⟩, apart, rfl⟩))
    · rw [if_pos snapped]
      exact .inr (.inl ⟨raw, snapped, rfl⟩)
  · rw [if_pos raw]
    exact .inl ⟨raw, rfl⟩

theorem judge_vertex (problem : Problem α) (tolerance : α) (seen : List (Vertex α)) (candidate : Candidate α) :
    (problem.judge tolerance seen candidate).vertex? =
      if problem.Accepts tolerance candidate ∧ ∀ v ∈ seen, v.Apart (problem.evaluate candidate)
      then some (problem.evaluate candidate) else none := by
  rcases judge_cases problem tolerance seen candidate with
    ⟨outside, judged⟩ | ⟨_, outside, judged⟩ | ⟨_, ⟨v, member, near⟩, judged⟩ | ⟨accepts, apart, judged⟩
  · rw [judged, if_neg fun taken => outside taken.1.1]
    rfl
  · rw [judged, if_neg fun taken => outside taken.1.2]
    rfl
  · rw [judged, if_neg fun taken => Bool.false_ne_true ((taken.2 v member).symm.trans near)]
    rfl
  · rw [judged, if_pos ⟨accepts, apart⟩]
    rfl

namespace Problem

def admitted (problem : Problem α) (tolerance : α) (seen : List (Vertex α)) (list : List (Candidate α)) :
    List (Vertex α) :=
  (problem.screen tolerance seen list).filterMap Decision.vertex?

end Problem

theorem admitted_cons (problem : Problem α) (tolerance : α) (seen : List (Vertex α)) (candidate : Candidate α)
    (rest : List (Candidate α)) :
    problem.admitted tolerance seen (candidate :: rest) =
      if problem.Accepts tolerance candidate ∧ ∀ v ∈ seen, v.Apart (problem.evaluate candidate)
      then problem.evaluate candidate :: problem.admitted tolerance (seen ++ [problem.evaluate candidate]) rest
      else problem.admitted tolerance seen rest := by
  unfold Problem.admitted
  rw [Problem.screen, List.filterMap_cons, judge_vertex]
  by_cases taken : problem.Accepts tolerance candidate ∧ ∀ v ∈ seen, v.Apart (problem.evaluate candidate)
  · simp only [if_pos taken, Option.toList_some]
  · simp only [if_neg taken, Option.toList_none, List.append_nil]

theorem feasible_vertices_admitted (problem : Problem α) (tolerance : α) :
    problem.feasibleVertices tolerance =
      problem.admitted tolerance [] (candidates problem.constraints problem.bounds) := rfl

theorem admitted_source (problem : Problem α) (tolerance : α) (seen : List (Vertex α)) (list : List (Candidate α)) :
    ∀ v ∈ problem.admitted tolerance seen list,
      ∃ candidate ∈ list, problem.Accepts tolerance candidate ∧ v = problem.evaluate candidate := by
  induction list generalizing seen with
  | nil => simp [Problem.admitted, Problem.screen]
  | cons candidate rest ih =>
      intro v member
      rw [admitted_cons] at member
      by_cases taken : problem.Accepts tolerance candidate ∧ ∀ v ∈ seen, v.Apart (problem.evaluate candidate)
      · rw [if_pos taken] at member
        rcases List.mem_cons.mp member with same | later
        · exact ⟨candidate, List.mem_cons_self, taken.1, same⟩
        · obtain ⟨source, present, found⟩ := ih _ v later
          exact ⟨source, List.mem_cons_of_mem _ present, found⟩
      · rw [if_neg taken] at member
        obtain ⟨source, present, found⟩ := ih _ v member
        exact ⟨source, List.mem_cons_of_mem _ present, found⟩

-- The invariant of the loop: what was seen and what is still to come stay pairwise apart.
theorem admitted_apart (problem : Problem α) (tolerance : α) (seen : List (Vertex α)) (list : List (Candidate α))
    (apart : seen.Pairwise Vertex.Apart) : (seen ++ problem.admitted tolerance seen list).Pairwise Vertex.Apart := by
  induction list generalizing seen with
  | nil => simpa [Problem.admitted, Problem.screen] using apart
  | cons candidate rest ih =>
      rw [admitted_cons]
      by_cases taken : problem.Accepts tolerance candidate ∧ ∀ v ∈ seen, v.Apart (problem.evaluate candidate)
      · have extended : (seen ++ [problem.evaluate candidate]).Pairwise Vertex.Apart := by
          rw [List.pairwise_append]
          refine ⟨apart, List.pairwise_singleton _ _, ?_⟩
          intro v member w last
          rw [List.mem_singleton.mp last]
          exact taken.2 v member
        rw [if_pos taken]
        simpa only [List.append_assoc, List.singleton_append] using ih _ extended
      · rw [if_neg taken]
        exact ih seen apart

theorem admitted_covers (problem : Problem α) (tolerance : α) (seen : List (Vertex α)) (list : List (Candidate α))
    (candidate : Candidate α) (listed : candidate ∈ list) (accepted : problem.Accepts tolerance candidate) :
    ∃ v ∈ seen ++ problem.admitted tolerance seen list,
      v = problem.evaluate candidate ∨ v.point.coincides (problem.evaluate candidate).point = true := by
  induction list generalizing seen with
  | nil => cases listed
  | cons head rest ih =>
      rw [admitted_cons]
      by_cases taken : problem.Accepts tolerance head ∧ ∀ v ∈ seen, v.Apart (problem.evaluate head)
      · rw [if_pos taken]
        rcases List.mem_cons.mp listed with same | later
        · subst same
          exact ⟨problem.evaluate candidate, by simp, .inl rfl⟩
        · simpa only [List.append_assoc, List.singleton_append] using ih (seen ++ [problem.evaluate head]) later
      · rw [if_neg taken]
        rcases List.mem_cons.mp listed with same | later
        · subst same
          have met : ∃ v ∈ seen, ¬ v.Apart (problem.evaluate candidate) := by
            simpa [accepted] using taken
          obtain ⟨v, member, near⟩ := met
          exact ⟨v, List.mem_append_left _ member, .inr (by simpa [Vertex.Apart] using near)⟩
        · exact ih seen later

theorem feasible_vertex_source (problem : Problem α) (tolerance : α) (v : Vertex α)
    (member : v ∈ problem.feasibleVertices tolerance) :
    ∃ candidate ∈ candidates problem.constraints problem.bounds,
      problem.Accepts tolerance candidate ∧ v = problem.evaluate candidate :=
  admitted_source problem tolerance [] _ v member

theorem feasible_vertices_apart (problem : Problem α) (tolerance : α) :
    (problem.feasibleVertices tolerance).Pairwise Vertex.Apart := by
  rw [feasible_vertices_admitted]
  simpa using admitted_apart problem tolerance [] (candidates problem.constraints problem.bounds) .nil

theorem feasible_vertices_cover (problem : Problem α) (tolerance : α) (candidate : Candidate α)
    (listed : candidate ∈ candidates problem.constraints problem.bounds)
    (accepted : problem.Accepts tolerance candidate) :
    ∃ v ∈ problem.feasibleVertices tolerance,
      v = problem.evaluate candidate ∨ v.point.coincides (problem.evaluate candidate).point = true := by
  rw [feasible_vertices_admitted]
  simpa using admitted_covers problem tolerance [] _ candidate listed accepted

end PlanarLP
