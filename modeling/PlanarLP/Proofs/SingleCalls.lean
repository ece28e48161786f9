import PlanarLP.Optimum
import PlanarLP.Proofs.Consistency

set_option autoImplicit false

namespace PlanarLP

def Optimum.Of (chosen : Option (Extremum Float)) (vertices : List (Vertex Float)) (found : Optimum Float) : Prop :=
  ∃ m v, chosen = some m ∧ vertices[m.index]? = some v ∧ found = ⟨v.point.x, v.point.y, v.value⟩

structure Answers {β : Type} (made : Except (Fault Float) (Problem Float)) (selected : List (Vertex Float) → β → Prop)
    (answer : Except (Fault Float) (Option β)) : Prop where
  refused : ∀ fault, answer = .error fault ↔ made = .error fault
  unsolved : answer = .ok none ↔ ∃ problem, made = .ok problem ∧ problem.feasibleVertices 1e-6 = []
  solved : ∀ found, answer = .ok (some found) ↔
    ∃ problem, made = .ok problem ∧ selected (problem.feasibleVertices 1e-6) found

theorem answers_map {β : Type} (made : Except (Fault Float) (Problem Float)) (goal : Goal)
    (selected : List (Vertex Float) → β → Prop) (pick : Solution Float → Option β)
    (unsolved : ∀ problem : Problem Float,
      pick (problem.solve goal defaultTolerance) = none ↔ problem.feasibleVertices 1e-6 = [])
    (solved : ∀ (problem : Problem Float) (found : β),
      pick (problem.solve goal defaultTolerance) = some found ↔ selected (problem.feasibleVertices 1e-6) found) :
    Answers made selected ((made.map fun problem => problem.solve goal defaultTolerance).map pick) := by
  cases made with
  | error fault => exact ⟨by simp [Except.map], by simp [Except.map], by simp [Except.map]⟩
  | ok problem => exact ⟨by simp [Except.map], by simp [Except.map, unsolved], by simp [Except.map, solved]⟩

section Selected

variable (better : Float → Float → Bool) (vertices : List (Vertex Float)) (chosen : Option (Extremum Float))
  (selected : chosen = Extremum.select? better vertices)

include selected

theorem selected_none : chosen.map Extremum.toOptimum = none ↔ vertices = [] := by
  rw [Option.map_eq_none_iff, selected, select_none_iff]

theorem selected_optimum (found : Optimum Float) :
    chosen.map Extremum.toOptimum = some found ↔ found.Of (Extremum.select? better vertices) vertices := by
  rw [selected]
  constructor
  · intro answered
    obtain ⟨m, present, rfl⟩ := Option.map_eq_some_iff.mp answered
    obtain ⟨v, there, point, value⟩ := selected_refers better vertices m present
    exact ⟨m, v, present, there, by rw [Extremum.toOptimum, point, value]⟩
  · rintro ⟨m, v, present, there, rfl⟩
    obtain ⟨w, found, point, value⟩ := selected_refers better vertices m present
    obtain rfl := Option.some.inj (there.symm.trans found)
    rw [present, Option.map_some, Extremum.toOptimum, point, value]

end Selected

section Both

variable (s : Solution Float)

def Solution.extrema? : Option (Extrema Float) := do
  let maximum ← s.maximum
  let minimum ← s.minimum
  pure ⟨maximum.toOptimum, minimum.toOptimum⟩

theorem extrema_some (found : Extrema Float) :
    s.extrema? = some found ↔ s.maximum.map Extremum.toOptimum = some found.maximum ∧
      s.minimum.map Extremum.toOptimum = some found.minimum := by
  obtain ⟨maximum, minimum⟩ := found
  unfold Solution.extrema?
  cases s.maximum <;> cases s.minimum <;> simp

theorem extrema_none (together : s.maximum.isSome = s.minimum.isSome) :
    s.extrema? = none ↔ s.maximum.map Extremum.toOptimum = none := by
  unfold Solution.extrema?
  generalize s.maximum = maximum, s.minimum = minimum at together ⊢
  cases maximum <;> cases minimum <;> simp at together ⊢

end Both

theorem both_together (problem : Problem Float) (tolerance : Float) :
    (problem.solve .both tolerance).maximum.isSome = (problem.solve .both tolerance).minimum.isSome := by
  obtain ⟨_, consistent⟩ := solution_consistent problem .both tolerance
  rw [Bool.eq_iff_iff, consistent.maximum_present, consistent.minimum_present]
  simp

section Compared

variable (vertices : List (Vertex Float)) (found : Optimum Float) (numbers : ∀ v ∈ vertices, v.value.isNaN = false)

include numbers

theorem highest_value (highest : found.Of (Extremum.maximum? vertices) vertices) :
    ∀ v ∈ vertices, v.value ≤ found.z := by
  obtain ⟨m, u, chosen, there, rfl⟩ := highest
  obtain ⟨⟨w, same, greatest⟩, _⟩ := double_maximum_first vertices m numbers chosen
  obtain rfl := Option.some.inj (there.symm.trans same)
  exact greatest

theorem lowest_value (lowest : found.Of (Extremum.minimum? vertices) vertices) :
    ∀ v ∈ vertices, found.z ≤ v.value := by
  obtain ⟨m, u, chosen, there, rfl⟩ := lowest
  obtain ⟨⟨w, same, least⟩, _⟩ := double_minimum_first vertices m numbers chosen
  obtain rfl := Option.some.inj (there.symm.trans same)
  exact least

end Compared

theorem single_calls_answered (first second : Line Float) (objective : Objective Float) (bounds : Bounds Float) :
    Answers (Problem.make ⟨first, .le⟩ ⟨second, .le⟩ objective bounds)
      (fun vertices found => found.Of (Extremum.maximum? vertices) vertices)
      (maximize first second objective bounds) ∧
    Answers (Problem.make ⟨first, .ge⟩ ⟨second, .ge⟩ objective bounds)
      (fun vertices found => found.Of (Extremum.minimum? vertices) vertices)
      (minimize first second objective bounds) ∧
    Answers (Problem.make ⟨first, .le⟩ ⟨second, .ge⟩ objective bounds)
      (fun vertices found => found.maximum.Of (Extremum.maximum? vertices) vertices ∧
        found.minimum.Of (Extremum.minimum? vertices) vertices)
      (optimize first second objective bounds) ∧
    ∀ problem, Problem.make ⟨first, .le⟩ ⟨second, .ge⟩ objective bounds = .ok problem →
      (problem.solve .both 1e-6).maximum.isSome = (problem.solve .both 1e-6).minimum.isSome ∧
      ∀ found, optimize first second objective bounds = .ok (some found) →
        (∀ v ∈ problem.feasibleVertices 1e-6, v.value.isNaN = false) →
          found.minimum.z ≤ found.maximum.z ∧
          ∀ v ∈ problem.feasibleVertices 1e-6, found.minimum.z ≤ v.value ∧ v.value ≤ found.maximum.z := by
  have maximum (goal : Goal) (seeks : goal.seeksMaximum = true) (problem : Problem Float) :
      (problem.solve goal defaultTolerance).maximum = Extremum.maximum? (problem.feasibleVertices 1e-6) := if_pos seeks
  have minimum (goal : Goal) (seeks : goal.seeksMinimum = true) (problem : Problem Float) :
      (problem.solve goal defaultTolerance).minimum = Extremum.minimum? (problem.feasibleVertices 1e-6) := if_pos seeks
  have both : Answers (Problem.make ⟨first, .le⟩ ⟨second, .ge⟩ objective bounds)
      (fun vertices found => found.maximum.Of (Extremum.maximum? vertices) vertices ∧
        found.minimum.Of (Extremum.minimum? vertices) vertices)
      (optimize first second objective bounds) := by
    refine answers_map _ .both _ Solution.extrema? (fun problem => ?_) (fun problem found => ?_)
    · exact (extrema_none _ (both_together problem _)).trans (selected_none _ _ _ (maximum .both rfl problem))
    · exact (extrema_some _ found).trans (and_congr (selected_optimum _ _ _ (maximum .both rfl problem) _)
        (selected_optimum _ _ _ (minimum .both rfl problem) _))
  refine ⟨?_, ?_, both, fun problem made => ⟨both_together problem 1e-6, fun found answered numbers => ?_⟩⟩
  · exact answers_map _ .maximize _ _ (fun problem => selected_none _ _ _ (maximum .maximize rfl problem))
      fun problem => selected_optimum _ _ _ (maximum .maximize rfl problem)
  · exact answers_map _ .minimize _ _ (fun problem => selected_none _ _ _ (minimum .minimize rfl problem))
      fun problem => selected_optimum _ _ _ (minimum .minimize rfl problem)
  · obtain ⟨other, same, highest, lowest⟩ := (both.solved found).mp answered
    obtain rfl := Except.ok.inj (made.symm.trans same)
    have above := highest_value _ _ numbers highest
    have below := lowest_value _ _ numbers lowest
    obtain ⟨m, v, _, there, value⟩ := lowest
    refine ⟨?_, fun v listed => ⟨below v listed, above v listed⟩⟩
    rw [value]
    exact above v (List.mem_of_getElem? there)

def betweenBounds : Problem Float where
  first := ⟨⟨4, 3, 24⟩, .le⟩
  second := ⟨⟨2, 5, 20⟩, .ge⟩
  objective := ⟨7, 5⟩
  bounds := ⟨10, 8⟩
  valid := by decide +kernel

theorem single_calls_answered_between_bounds :
    Problem.make ⟨⟨4, 3, 24⟩, .le⟩ ⟨⟨2, 5, 20⟩, .ge⟩ ⟨7, 5⟩ ⟨10, 8⟩ = .ok betweenBounds ∧
      (∀ v ∈ betweenBounds.feasibleVertices 1e-6, v.value.isNaN = false) ∧
      ∃ found : Extrema Float, optimize ⟨4, 3, 24⟩ ⟨2, 5, 20⟩ ⟨7, 5⟩ ⟨10, 8⟩ = .ok (some found) ∧
        found.minimum = ⟨0, 4, 20⟩ ∧ found.minimum.z ≤ found.maximum.z := by
  have made : Problem.make ⟨⟨4, 3, 24⟩, .le⟩ ⟨⟨2, 5, 20⟩, .ge⟩ ⟨7, 5⟩ ⟨10, 8⟩ = .ok betweenBounds := rfl
  have numbers : ∀ v ∈ betweenBounds.feasibleVertices 1e-6, v.value.isNaN = false := by decide +kernel
  have answer : ∃ found : Extrema Float, optimize ⟨4, 3, 24⟩ ⟨2, 5, 20⟩ ⟨7, 5⟩ ⟨10, 8⟩ = .ok (some found) ∧
    found.minimum = ⟨0, 4, 20⟩ := ⟨_, rfl, by decide +kernel⟩
  obtain ⟨found, answered, minimum⟩ := answer
  obtain ⟨_, _, _, compared⟩ := single_calls_answered ⟨4, 3, 24⟩ ⟨2, 5, 20⟩ ⟨7, 5⟩ ⟨10, 8⟩
  exact ⟨made, numbers, found, answered, minimum, ((compared _ made).2 found answered numbers).1⟩

end PlanarLP
