import Mathlib.Data.List.Pairwise
import PlanarLP.Proofs.CarriedVertices
import PlanarLP.Proofs.Candidate
import PlanarLP.Proofs.FiniteSolution
import PlanarLP.Proofs.LineSymmetry

set_option autoImplicit false

namespace PlanarLP

def Axis.other : Axis → Axis
  | .x => .y
  | .y => .x

def Constraint.mirrored (c : Constraint Float) : Constraint Float := ⟨c.boundary.mirrored, c.direction⟩

def Objective.mirrored (o : Objective Float) : Objective Float := ⟨o.h, o.g⟩

def Bounds.mirrored (b : Bounds Float) : Bounds Float := ⟨b.yMax, b.xMax⟩

theorem top_mirrored (b : Bounds Float) (axis : Axis) : b.mirrored.top axis = b.top axis.other := by
  cases axis <;> rfl

theorem mirrored_accepted (problem : Problem Float) :
    Problem.fault? problem.first.mirrored problem.second.mirrored problem.objective.mirrored problem.bounds.mirrored =
      none := by
  obtain ⟨finite, bounded⟩ := (problem_fault_none _ _ _ _).mp problem.valid
  refine (problem_fault_none _ _ _ _).mpr ⟨?_, (bounds_fault_iff _).mpr fun axis => ?_⟩
  · simp only [Problem.coefficients, List.forall_mem_cons] at finite ⊢
    obtain ⟨a1, b1, c1, a2, b2, c2, g, h, rest⟩ := finite
    exact ⟨b1, a1, c1, b2, a2, c2, h, g, rest⟩
  · rw [top_mirrored]
    exact (bounds_fault_iff _).mp bounded axis.other

def Problem.mirrored (problem : Problem Float) : Problem Float where
  first := problem.first.mirrored
  second := problem.second.mirrored
  objective := problem.objective.mirrored
  bounds := problem.bounds.mirrored
  valid := mirrored_accepted problem

section Listing

variable (cs : List (Constraint Float)) (bounds : Bounds Float) (axis : Axis)

theorem intercept_mirrored (l : Line Float) : l.mirrored.intercept? axis = l.intercept? axis.other := by
  cases axis <;> rfl

theorem crossings_mirrored : axisCrossings (cs.map Constraint.mirrored) axis = axisCrossings cs axis.other := by
  unfold axisCrossings
  rw [List.zipIdx_map, List.filterMap_map]
  refine List.filterMap_congr fun entry _ => ?_
  cases axis <;> rfl

theorem tightest_mirrored (direction : Direction) :
    tightest? (cs.map Constraint.mirrored) bounds.mirrored direction axis =
      tightest? cs bounds direction axis.other := by
  unfold tightest?
  rw [crossings_mirrored, top_mirrored]

theorem shared_mirrored : sharedDirection? (cs.map Constraint.mirrored) = sharedDirection? cs := by
  cases cs with
  | nil => rfl
  | cons c rest =>
      simp only [List.map_cons, sharedDirection?, List.all_map]
      rfl

theorem entry_mirrored (entry : Float × Limit) (listed : AxisEntry cs bounds axis entry) :
    AxisEntry (cs.map Constraint.mirrored) bounds.mirrored axis.other entry := by
  have twice : axis.other.other = axis := by cases axis <;> rfl
  simp only [AxisEntry, shared_mirrored] at listed ⊢
  cases shared : sharedDirection? cs with
  | some direction =>
      simp only [shared] at listed
      simp only [tightest_mirrored, twice, listed]
  | none =>
      simp only [shared] at listed
      obtain ⟨i, c, found, crosses, limit⟩ := listed
      refine ⟨i, c.mirrored, by rw [List.getElem?_map, found, Option.map_some], ?_, limit⟩
      exact (intercept_mirrored axis.other c.boundary).trans ((congrArg _ twice).trans crosses)

end Listing

section Mirroring

variable (problem : Problem Float) (tolerance : Float)

theorem candidate_mirrored (c : Candidate Float) (listed : c ∈ candidates problem.constraints problem.bounds) :
    ∃ d ∈ candidates problem.mirrored.constraints problem.mirrored.bounds, d.point.Alike c.point.mirrored := by
  rcases (candidate_iff problem c).mp listed with ⟨axis, entry, source, rfl⟩ | ⟨p, crosses, rfl⟩
  · have also := entry_mirrored problem.constraints problem.bounds axis entry source
    refine ⟨_, (candidate_iff problem.mirrored _).mpr (.inl ⟨axis.other, entry, also, rfl⟩), ?_⟩
    cases axis <;> exact point_alike_refl _
  · obtain ⟨first, second⟩ := boundaries_finite problem
    have images := intersection_mirrored problem.first.boundary problem.second.boundary first second
    rw [crosses] at images
    obtain ⟨q, found, alike⟩ := some_related _ _ p images
    exact ⟨_, (candidate_iff problem.mirrored _).mpr (.inr ⟨q, found, rfl⟩), alike⟩

theorem slack_mirrored (c : Constraint Float) (p : Point Float) : c.mirrored.slack p.mirrored = c.slack p := by
  have values : c.boundary.mirrored.value p.mirrored = c.boundary.value p := double_add_comm _ _
  obtain ⟨boundary, direction⟩ := c
  cases direction with
  | le => exact congrArg (boundary.c - ·) values
  | ge => exact congrArg (· - boundary.c) values

theorem feasible_mirrored (p : Point Float) :
    problem.mirrored.Feasible tolerance p.mirrored ↔ problem.Feasible tolerance p := by
  have constraints : problem.mirrored.constraints = problem.constraints.map Constraint.mirrored := rfl
  refine and_congr and_comm ?_
  rw [constraints, List.forall_mem_map]
  refine forall₂_congr fun c _ => ?_
  unfold Constraint.Holds
  rw [slack_mirrored]

theorem mirrored_carries : problem.Carries problem.mirrored Point.mirrored where
  candidate := candidate_mirrored problem
  feasible := feasible_mirrored problem
  clamp := fun _ => rfl
  rounded := fun _ => rfl

theorem mirrored_returns : problem.mirrored.Carries problem Point.mirrored := mirrored_carries problem.mirrored

theorem rounded_points_mirrored :
    problem.mirrored.roundedPoints tolerance = Point.mirrored '' problem.roundedPoints tolerance := by
  refine Set.Subset.antisymm (fun q represented => ?_) (Set.image_subset_iff.mpr fun q represented => ?_)
  · have source := rounded_points_carried _ _ _ (mirrored_returns problem) tolerance q represented
    exact ⟨q.mirrored, source, rfl⟩
  · exact rounded_points_carried _ _ _ (mirrored_carries problem) tolerance q represented

theorem values_mirrored (p q : Point Float) (alike : q.Alike p.mirrored) :
    Alike (problem.mirrored.objective.value q) (problem.objective.value p) := by
  have exchanged : problem.mirrored.objective.value p.mirrored = problem.objective.value p := double_add_comm _ _
  rw [← exchanged]
  exact objective_alike _ _ alike _

theorem vertex_returned (w : Vertex Float) (member : w ∈ problem.mirrored.feasibleVertices tolerance) :
    ∃ c ∈ candidates problem.constraints problem.bounds, problem.Accepts tolerance c ∧
      w.point.Alike (problem.evaluate c).point.mirrored ∧ Alike w.value (problem.evaluate c).value := by
  obtain ⟨d, listed, accepted, rfl⟩ := feasible_vertex_source problem.mirrored tolerance w member
  obtain ⟨c, present, accepts, alike⟩ := accepted_carried _ _ _ (mirrored_returns problem) tolerance d listed accepted
  have turned : (problem.mirrored.evaluate d).point.Alike (problem.evaluate c).point.mirrored :=
    ⟨alike_symm _ _ alike.2, alike_symm _ _ alike.1⟩
  exact ⟨c, present, accepts, turned, values_mirrored problem _ _ turned⟩

-- No two accepted candidates coincide, so the order in which they come does not matter.
def Problem.Separated (problem : Problem Float) (tolerance : Float) : Prop :=
  ((candidates problem.constraints problem.bounds).filter fun c => problem.Accepts tolerance c).Pairwise
    fun c d => (problem.evaluate c).Apart (problem.evaluate d)

instance (problem : Problem Float) (tolerance : Float) : Decidable (problem.Separated tolerance) :=
  inferInstanceAs (Decidable (List.Pairwise _ _))

section Values

variable (separated : problem.Separated tolerance)

include separated

theorem separated_same (c d : Candidate Float) (first : c ∈ candidates problem.constraints problem.bounds)
    (second : d ∈ candidates problem.constraints problem.bounds) (left : problem.Accepts tolerance c)
    (right : problem.Accepts tolerance d)
    (coincides : (problem.evaluate c).point.coincides (problem.evaluate d).point = true) : c = d := by
  by_contra different
  have symmetric : Std.Symm fun c d => (problem.evaluate c).Apart (problem.evaluate d) :=
    ⟨fun c d apart => (coincides_symm _ _).trans apart⟩
  have apart := List.Pairwise.forall separated (List.mem_filter.mpr ⟨first, decide_eq_true left⟩)
    (List.mem_filter.mpr ⟨second, decide_eq_true right⟩) different
  exact Bool.false_ne_true (apart.symm.trans coincides)

theorem separated_listed (c : Candidate Float) (listed : c ∈ candidates problem.constraints problem.bounds)
    (accepted : problem.Accepts tolerance c) : problem.evaluate c ∈ problem.feasibleVertices tolerance := by
  obtain ⟨v, member, near⟩ := feasible_vertices_cover problem tolerance c listed accepted
  rcases near with rfl | coincides
  · exact member
  · obtain ⟨d, present, accepts, rfl⟩ := feasible_vertex_source problem tolerance v member
    exact separated_same problem tolerance separated d c present listed accepts accepted coincides ▸ member

theorem values_back (w : Vertex Float) (member : w ∈ problem.mirrored.feasibleVertices tolerance) :
    ∃ v ∈ problem.feasibleVertices tolerance, Alike v.value w.value := by
  obtain ⟨c, listed, accepted, _, value⟩ := vertex_returned problem tolerance w member
  exact ⟨_, separated_listed problem tolerance separated c listed accepted, alike_symm _ _ value⟩

theorem values_there (v : Vertex Float) (member : v ∈ problem.feasibleVertices tolerance) :
    ∃ w ∈ problem.mirrored.feasibleVertices tolerance, Alike w.value v.value := by
  obtain ⟨c, listed, accepted, rfl⟩ := feasible_vertex_source problem tolerance v member
  obtain ⟨d, present, accepts, image⟩ := accepted_carried _ _ _ (mirrored_carries problem) tolerance c listed accepted
  obtain ⟨w, kept, near⟩ := feasible_vertices_cover problem.mirrored tolerance d present accepts
  rcases near with rfl | coincides
  · exact ⟨_, kept, values_mirrored problem _ _ image⟩
  · -- the vertex kept in place of the image comes from a candidate that coincides with this one
    obtain ⟨c', found, passes, point, value⟩ := vertex_returned problem tolerance w kept
    have exchanged (p q : Point Float) : p.mirrored.coincides q.mirrored = p.coincides q := Bool.and_comm _ _
    rw [coincides_alike _ _ point _ _ image, exchanged] at coincides
    have same := separated_same problem tolerance separated c' c found listed passes accepted coincides
    exact ⟨w, kept, same ▸ value⟩

end Values

end Mirroring

section Comparing

variable (vertices others : List (Vertex Float)) (numbers : ∀ v ∈ vertices, v.value.isNaN = false)
  (there : ∀ v ∈ vertices, ∃ w ∈ others, Alike w.value v.value)
  (back : ∀ w ∈ others, ∃ v ∈ vertices, Alike v.value w.value)

include numbers there back

theorem selected_equal (better : Float → Float → Bool) (key : Float → Rat)
    (faithful : ∀ a b, doubleValue a = doubleValue b ↔ key a = key b)
    (leads : ∀ list m, (∀ v ∈ list, v.value.isNaN = false) → Extremum.select? better list = some m →
      m.Leads key list) :
    Option.Rel (fun m n => (m.value == n.value) = true) (Extremum.select? better vertices)
      (Extremum.select? better others) := by
  have also : ∀ w ∈ others, w.value.isNaN = false := by
    intro w member
    obtain ⟨v, listed, alike⟩ := back w member
    exact (alike_value _ _ alike).1.symm.trans (numbers v listed)
  cases first : Extremum.select? better vertices with
  | none =>
      have empty := (select_none_iff better vertices).mp first
      have none : others = [] := List.eq_nil_iff_forall_not_mem.mpr fun w member => by simpa [empty] using back w member
      rw [none]
      exact .none
  | some m =>
      obtain ⟨v, present, _, topV⟩ := selected_refers better vertices m first
      have listed := List.mem_of_getElem? present
      cases second : Extremum.select? better others with
      | none =>
          have empty := (select_none_iff better others).mp second
          simpa [empty] using there v listed
      | some n =>
          obtain ⟨w, found, _, topW⟩ := selected_refers better others n second
          have equal := leads_equal key vertices others m n (leads _ _ numbers first) (leads _ _ also second)
            (fun v member => (there v member).imp fun w pair => ⟨pair.1, (faithful _ _).mp (alike_value _ _ pair.2).2⟩)
            (fun w member => (back w member).imp fun v pair => ⟨pair.1, (faithful _ _).mp (alike_value _ _ pair.2).2⟩)
          exact .some (double_equal_value _ _ (topV ▸ numbers v listed) (topW ▸ also w (List.mem_of_getElem? found))
            ((faithful _ _).mpr equal))

theorem extrema_equal :
    Option.Rel (fun m n => (m.value == n.value) = true) (Extremum.maximum? vertices) (Extremum.maximum? others) ∧
      Option.Rel (fun m n => (m.value == n.value) = true) (Extremum.minimum? vertices) (Extremum.minimum? others) :=
  ⟨selected_equal vertices others numbers there back _ doubleValue (fun _ _ => .rfl) double_maximum_leads,
    selected_equal vertices others numbers there back _ _ (fun _ _ => neg_inj.symm) double_minimum_leads⟩

end Comparing

theorem axis_symmetry (problem : Problem Float) (goal : Goal) (tolerance : Float) :
    problem.mirrored.roundedPoints tolerance = Point.mirrored '' problem.roundedPoints tolerance ∧
    (problem.mirrored.solve goal tolerance).status = (problem.solve goal tolerance).status ∧
    (problem.Separated tolerance → (∀ v ∈ problem.feasibleVertices tolerance, v.value.isNaN = false) →
      Option.Rel (fun m n => (m.value == n.value) = true) (problem.solve goal tolerance).maximum
          (problem.mirrored.solve goal tolerance).maximum ∧
        Option.Rel (fun m n => (m.value == n.value) = true) (problem.solve goal tolerance).minimum
          (problem.mirrored.solve goal tolerance).minimum) := by
  refine ⟨rounded_points_mirrored problem tolerance, ?_, fun separated numbers => ?_⟩
  · exact verdict_carried _ _ _ (mirrored_returns problem) tolerance _ (mirrored_carries problem) goal
  · obtain ⟨maxima, minima⟩ := extrema_equal _ _ numbers (values_there problem tolerance separated)
      (values_back problem tolerance separated)
    exact solved_related problem problem.mirrored goal tolerance _ .none maxima minima

def unevenWedge : Problem Float where
  first := ⟨⟨2, 1, 10⟩, .le⟩
  second := ⟨⟨1, 3, 15⟩, .le⟩
  objective := ⟨3, 2⟩
  bounds := ⟨20, 30⟩
  valid := by decide +kernel

theorem axis_symmetry_uneven_wedge :
    (unevenWedge.Separated 0 ∧ ∀ v ∈ unevenWedge.feasibleVertices 0, v.value.isNaN = false) ∧
      ((unevenWedge.solve .both 0).minimum.map (·.index) = some 1 ∧
        (unevenWedge.mirrored.solve .both 0).minimum.map (·.index) = some 0) ∧
      Option.Rel (fun m n => (m.value == n.value) = true) (unevenWedge.solve .both 0).maximum
        (unevenWedge.mirrored.solve .both 0).maximum ∧
      Option.Rel (fun m n => (m.value == n.value) = true) (unevenWedge.solve .both 0).minimum
        (unevenWedge.mirrored.solve .both 0).minimum := by
  have separated : unevenWedge.Separated 0 := by decide +kernel
  have numbers : ∀ v ∈ unevenWedge.feasibleVertices 0, v.value.isNaN = false := by decide +kernel
  have indices : (unevenWedge.solve .both 0).minimum.map (·.index) = some 1 ∧
      (unevenWedge.mirrored.solve .both 0).minimum.map (·.index) = some 0 := by decide +kernel
  exact ⟨⟨separated, numbers⟩, indices, (axis_symmetry unevenWedge .both 0).2.2 separated numbers⟩

end PlanarLP
