import PlanarLP.Proofs.DoubleNegation
import PlanarLP.Proofs.FiniteSolution
import PlanarLP.Proofs.RelatedRuns

set_option autoImplicit false

namespace PlanarLP

def Objective.opposite (o : Objective Float) : Objective Float := ⟨-o.g, -o.h⟩

theorem opposite_value (o : Objective Float) (p : Point Float) : Alike (o.opposite.value p) (-o.value p) := by
  change Alike (-o.g * p.x + -o.h * p.y) (-(o.g * p.x + o.h * p.y))
  rw [double_neg_mul, double_neg_mul]
  exact neg_add_neg _ _

theorem opposite_accepted (problem : Problem Float) :
    Problem.fault? problem.first problem.second problem.objective.opposite problem.bounds = none := by
  obtain ⟨finite, bounded⟩ := (problem_fault_none _ _ _ _).mp problem.valid
  obtain ⟨g, h⟩ := objective_finite problem
  refine (problem_fault_none _ _ _ _).mpr ⟨?_, bounded⟩
  simp only [Problem.coefficients, List.forall_mem_cons] at finite ⊢
  obtain ⟨a1, b1, c1, a2, b2, c2, _⟩ := finite
  exact ⟨a1, b1, c1, a2, b2, c2, double_neg_finite _ g, double_neg_finite _ h, List.forall_mem_nil _⟩

def Problem.opposed (problem : Problem Float) : Problem Float where
  first := problem.first
  second := problem.second
  objective := problem.objective.opposite
  bounds := problem.bounds
  valid := opposite_accepted problem

structure Vertex.Opposes (v w : Vertex Float) : Prop where
  point : v.point = w.point
  origin : v.origin = w.origin
  value : Alike w.value (-v.value)

theorem opposes_apart (v v' w w' : Vertex Float) (first : v.Opposes v') (second : w.Opposes w') :
    v.Apart w ↔ v'.Apart w' := by
  unfold Vertex.Apart
  rw [first.point, second.point]

theorem opposed_matches (problem : Problem Float) (tolerance : Float) (c : Candidate Float) :
    problem.Matches problem.opposed tolerance Vertex.Opposes c c :=
  ⟨.rfl, rfl, rfl, opposite_value problem.objective _⟩

theorem opposed_vertices (problem : Problem Float) (tolerance : Float) :
    List.Forall₂ Vertex.Opposes (problem.feasibleVertices tolerance) (problem.opposed.feasibleVertices tolerance) :=
  feasible_vertices_related problem problem.opposed tolerance Vertex.Opposes opposes_apart
    (List.forall₂_same.mpr fun c _ => opposed_matches problem tolerance c)

theorem opposed_selected (vertices opposed : List (Vertex Float))
    (paired : List.Forall₂ Vertex.Opposes vertices opposed) :
    (Extremum.maximum? vertices).map (·.index) = (Extremum.minimum? opposed).map (·.index) := by
  refine select_related _ _ (fun a b => Alike b (-a)) ?_ _ _ (paired.imp fun _ _ pair => pair.value)
  intro a a' b b' first second
  rw [decide_eq_decide, lt_alike first second, double_neg_lt]

theorem opposed_duality (problem : Problem Float) (tolerance : Float) :
    List.Forall₂ (fun v w => v.point = w.point ∧ v.origin = w.origin ∧ Alike w.value (-v.value))
        (problem.feasibleVertices tolerance) (problem.opposed.feasibleVertices tolerance) ∧
      (problem.solve .maximize tolerance).maximum.map (·.index) =
        (problem.opposed.solve .minimize tolerance).minimum.map (·.index) := by
  have paired := opposed_vertices problem tolerance
  exact ⟨paired.imp fun _ _ pair => ⟨pair.point, pair.origin, pair.value⟩, opposed_selected _ _ paired⟩

def overflowingWedge : Problem Float where
  first := ⟨⟨2, 1, 12⟩, .le⟩
  second := ⟨⟨1, 2, 12⟩, .le⟩
  objective := ⟨1e308, -1e308⟩
  bounds := ⟨10, 10⟩
  valid := by decide +kernel

example :
    (overflowingWedge.feasibleVertices 0).map (·.value.isFinite) = [false, false, false] ∧
      (overflowingWedge.feasibleVertices 0).map (·.value.isNaN) = [false, false, true] ∧
      (overflowingWedge.solve .maximize 0).maximum.map (·.index) = some 0 ∧
      (overflowingWedge.opposed.solve .minimize 0).minimum.map (·.index) = some 0 := by
  decide +kernel

end PlanarLP
