import PlanarLP.Proofs.DoubleValue
import PlanarLP.Proofs.Selection

set_option autoImplicit false

namespace PlanarLP

section Choice

variable (vertices : List (Vertex Float)) (m : Extremum Float) (numbers : ∀ v ∈ vertices, v.value.isNaN = false)

include numbers

theorem double_maximum_leads (selected : Extremum.maximum? vertices = some m) : m.Leads doubleValue vertices := by
  refine select_leads _ _ vertices m selected fun v first w second => ?_
  rw [decide_eq_true_iff]
  exact double_lt_value _ _ (numbers w second) (numbers v first)

theorem double_minimum_leads (selected : Extremum.minimum? vertices = some m) :
    m.Leads (fun value => -doubleValue value) vertices := by
  refine select_leads _ _ vertices m selected fun v first w second => ?_
  rw [decide_eq_true_iff, neg_lt_neg_iff]
  exact double_lt_value _ _ (numbers v first) (numbers w second)

theorem double_maximum_first (selected : Extremum.maximum? vertices = some m) :
    IsLeast {i | ∃ v, vertices[i]? = some v ∧ ∀ w ∈ vertices, w.value ≤ v.value} m.index := by
  have leads := double_maximum_leads vertices m numbers selected
  refine leads_least doubleValue (fun a b => b ≤ a) vertices m (fun v first w second => ?_) leads
  exact double_le_value _ _ (numbers w second) (numbers v first)

theorem double_minimum_first (selected : Extremum.minimum? vertices = some m) :
    IsLeast {i | ∃ v, vertices[i]? = some v ∧ ∀ w ∈ vertices, v.value ≤ w.value} m.index := by
  have leads := double_minimum_leads vertices m numbers selected
  refine leads_least _ (fun a b => a ≤ b) vertices m (fun v first w second => ?_) leads
  rw [neg_le_neg_iff]
  exact double_le_value _ _ (numbers v first) (numbers w second)

end Choice

structure Solution.Consistent (s : Solution Float) (goal : Goal) : Prop where
  verdict : s.status = .optimal ↔ s.vertices ≠ []
  maximum_present : s.maximum.isSome = true ↔ s.status = .optimal ∧ (goal = .maximize ∨ goal = .both)
  minimum_present : s.minimum.isSome = true ↔ s.status = .optimal ∧ (goal = .minimize ∨ goal = .both)
  refers : ∀ m, s.maximum = some m ∨ s.minimum = some m →
    ∃ v, s.vertices[m.index]? = some v ∧ m.point = v.point ∧ m.value = v.value
  greatest : (∀ v ∈ s.vertices, v.value.isNaN = false) → ∀ m, s.maximum = some m →
    IsLeast {i | ∃ v, s.vertices[i]? = some v ∧ ∀ w ∈ s.vertices, w.value ≤ v.value} m.index
  least : (∀ v ∈ s.vertices, v.value.isNaN = false) → ∀ m, s.minimum = some m →
    IsLeast {i | ∃ v, s.vertices[i]? = some v ∧ ∀ w ∈ s.vertices, v.value ≤ w.value} m.index

theorem selected_refers (better : Float → Float → Bool) (vertices : List (Vertex Float)) (m : Extremum Float)
    (selected : Extremum.select? better vertices = some m) :
    ∃ v, vertices[m.index]? = some v ∧ m.point = v.point ∧ m.value = v.value := by
  obtain ⟨v, found, same⟩ := select_within better vertices m selected
  exact ⟨v, found, congrArg Extremum.point same, congrArg Extremum.value same⟩

theorem sought_selected (sought : Bool) (better : Float → Float → Bool) (vertices : List (Vertex Float)) :
    (if sought then Extremum.select? better vertices else none).isSome = true ↔ vertices ≠ [] ∧ sought = true := by
  cases sought with
  | true => simp [Option.isSome_iff_ne_none, select_none_iff]
  | false => simp

theorem solution_consistent (problem : Problem Float) (goal : Goal) (tolerance : Float) :
    (problem.solve goal tolerance).vertices = problem.feasibleVertices tolerance ∧
      (problem.solve goal tolerance).Consistent goal := by
  have verdict : (problem.solve goal tolerance).status = .optimal ↔ problem.feasibleVertices tolerance ≠ [] := by
    cases found : problem.feasibleVertices tolerance <;> simp [Problem.solve, found]
  refine ⟨rfl, verdict, ?_, ?_, ?_, ?_, ?_⟩
  · rw [verdict]
    refine (sought_selected goal.seeksMaximum _ _).trans ?_
    cases goal <;> simp [Goal.seeksMaximum]
  · rw [verdict]
    refine (sought_selected goal.seeksMinimum _ _).trans ?_
    cases goal <;> simp [Goal.seeksMinimum]
  · rintro m (maximum | minimum)
    · exact selected_refers _ _ m (solve_maximum problem goal tolerance m maximum)
    · exact selected_refers _ _ m (solve_minimum problem goal tolerance m minimum)
  · intro numbers m found
    exact double_maximum_first _ m numbers (solve_maximum problem goal tolerance m found)
  · intro numbers m found
    exact double_minimum_first _ m numbers (solve_minimum problem goal tolerance m found)

def tiedAlongBound : Problem Float where
  first := ⟨⟨1, 1, 4⟩, .le⟩
  second := ⟨⟨1, 1, 4⟩, .le⟩
  objective := ⟨1, 1⟩
  bounds := ⟨10, 10⟩
  valid := by decide +kernel

example :
    (tiedAlongBound.solve .both defaultTolerance).vertices.length = 2 ∧
      (tiedAlongBound.solve .both defaultTolerance).maximum.map (·.index) = some 0 ∧
      (tiedAlongBound.solve .both defaultTolerance).minimum.map (·.index) = some 0 := by
  decide +kernel

end PlanarLP
