import PlanarLP.Proofs.Tolerance

set_option autoImplicit false

namespace PlanarLP

section Screening

variable {α : Type} [Scalar α] (problem : Problem α) (tolerance : α)

namespace Problem

def SameClass (c d : Candidate α) : Prop :=
  (problem.bounds.clamp c.point).rounded = (problem.bounds.clamp d.point).rounded

instance [DecidableEq α] (c d : Candidate α) : Decidable (problem.SameClass c d) :=
  inferInstanceAs (Decidable (_ = _))

def Leads (before : List (Candidate α)) (c : Candidate α) : Prop :=
  problem.Accepts tolerance c ∧ ∀ d ∈ before, problem.Accepts tolerance d → ¬ problem.SameClass d c

instance [DecidableEq α] (before : List (Candidate α)) (c : Candidate α) :
    Decidable (problem.Leads tolerance before c) :=
  inferInstanceAs (Decidable (_ ∧ _))

def leaders [DecidableEq α] (list : List (Candidate α)) : List (Candidate α) :=
  (list.zipIdx.filter fun entry => problem.Leads tolerance (list.take entry.2) entry.1).map Prod.fst

-- Where the loop stands: the vertices kept so far stand for the accepted ones of the candidates met so far.
structure Represents (before : List (Candidate α)) (seen : List (Vertex α)) : Prop where
  source : ∀ v ∈ seen, ∃ d ∈ before, problem.Accepts tolerance d ∧ v = problem.evaluate d
  cover : ∀ d ∈ before, problem.Accepts tolerance d → ∃ e, problem.Accepts tolerance e ∧
    problem.evaluate e ∈ seen ∧ problem.SameClass e d

def ComparesClasses : Prop :=
  ∀ c d, problem.Accepts tolerance c → problem.Accepts tolerance d →
    ((problem.evaluate c).point.coincides (problem.evaluate d).point = true ↔ problem.SameClass c d)

end Problem

theorem represents_kept (before : List (Candidate α)) (seen : List (Vertex α)) (c : Candidate α)
    (represents : problem.Represents tolerance before seen) (leads : problem.Leads tolerance before c) :
    problem.Represents tolerance (before ++ [c]) (seen ++ [problem.evaluate c]) where
  source := by
    refine List.forall_mem_append.mpr ⟨fun v member => ?_, List.forall_mem_singleton.mpr ?_⟩
    · obtain ⟨d, earlier, found⟩ := represents.source v member
      exact ⟨d, List.mem_append_left _ earlier, found⟩
    · exact ⟨c, by simp, leads.1, rfl⟩
  cover := by
    refine List.forall_mem_append.mpr ⟨fun d earlier accepts => ?_, List.forall_mem_singleton.mpr fun accepts => ?_⟩
    · obtain ⟨e, admitted, kept, same⟩ := represents.cover d earlier accepts
      exact ⟨e, admitted, List.mem_append_left _ kept, same⟩
    · exact ⟨c, accepts, by simp, rfl⟩

theorem class_met (before : List (Candidate α)) (c : Candidate α) (accepted : problem.Accepts tolerance c)
    (passed : ¬ problem.Leads tolerance before c) :
    ∃ d ∈ before, problem.Accepts tolerance d ∧ problem.SameClass d c := by
  simpa [Problem.Leads, accepted] using passed

theorem represents_passed (before : List (Candidate α)) (seen : List (Vertex α)) (c : Candidate α)
    (represents : problem.Represents tolerance before seen) (passed : ¬ problem.Leads tolerance before c) :
    problem.Represents tolerance (before ++ [c]) seen where
  source := fun v member => by
    obtain ⟨d, earlier, found⟩ := represents.source v member
    exact ⟨d, List.mem_append_left _ earlier, found⟩
  cover := by
    refine List.forall_mem_append.mpr ⟨represents.cover, List.forall_mem_singleton.mpr fun accepts => ?_⟩
    obtain ⟨d, earlier, accepted, alike⟩ := class_met problem tolerance before c accepts passed
    obtain ⟨e, admitted, kept, same⟩ := represents.cover d earlier accepted
    exact ⟨e, admitted, kept, same.trans alike⟩

section Loop

variable (compares : problem.ComparesClasses tolerance)

include compares

theorem apart_leads (before : List (Candidate α)) (seen : List (Vertex α)) (c : Candidate α)
    (represents : problem.Represents tolerance before seen) :
    (problem.Accepts tolerance c ∧ ∀ v ∈ seen, v.Apart (problem.evaluate c)) ↔ problem.Leads tolerance before c := by
  refine and_congr_right fun accepted => ⟨fun apart d member accepts same => ?_, fun first v member => ?_⟩
  · obtain ⟨e, admitted, kept, alike⟩ := represents.cover d member accepts
    have near := (compares e c admitted accepted).mpr (alike.trans same)
    exact Bool.false_ne_true ((apart _ kept).symm.trans near)
  · obtain ⟨d, earlier, accepts, rfl⟩ := represents.source v member
    exact Bool.eq_false_iff.mpr fun near => first d earlier accepts ((compares d c accepts accepted).mp near)

theorem admitted_leaders [DecidableEq α] (before rest : List (Candidate α)) (seen : List (Vertex α))
    (represents : problem.Represents tolerance before seen) :
    problem.admitted tolerance seen rest =
      ((rest.zipIdx before.length).filter fun entry =>
        problem.Leads tolerance ((before ++ rest).take entry.2) entry.1).map fun entry => problem.evaluate entry.1 := by
  induction rest generalizing before seen with
  | nil => rfl
  | cons c rest ih =>
      have extended : before ++ c :: rest = (before ++ [c]) ++ rest := by simp
      have next : before.length + 1 = (before ++ [c]).length := by simp
      have ahead : (before ++ c :: rest).take before.length = before := List.take_left
      have taken := apart_leads problem tolerance compares before seen c represents
      rw [admitted_cons, List.zipIdx_cons, List.filter_cons]
      dsimp only
      rw [ahead, next, extended]
      by_cases leads : problem.Leads tolerance before c
      · have kept := represents_kept problem tolerance before seen c represents leads
        rw [if_pos (taken.mpr leads), if_pos (decide_eq_true leads), List.map_cons, ih _ _ kept]
      · have passed := represents_passed problem tolerance before seen c represents leads
        rw [if_neg (leads ∘ taken.mp), if_neg (leads ∘ of_decide_eq_true), ih _ _ passed]

theorem vertices_leaders [DecidableEq α] :
    problem.feasibleVertices tolerance =
      (problem.leaders tolerance (candidates problem.constraints problem.bounds)).map problem.evaluate := by
  have start : problem.Represents tolerance [] [] := ⟨List.forall_mem_nil _, List.forall_mem_nil _⟩
  rw [feasible_vertices_admitted, admitted_leaders problem tolerance compares [] _ [] start, Problem.leaders,
    List.map_map]
  rfl

end Loop

theorem leader_listed [DecidableEq α] (list : List (Candidate α)) (j : Nat) (d : Candidate α)
    (found : list[j]? = some d) (leads : problem.Leads tolerance (list.take j) d) :
    d ∈ problem.leaders tolerance list :=
  List.mem_map.mpr ⟨(d, j), List.mem_filter.mpr ⟨List.mk_mem_zipIdx_iff_getElem?.mpr found, decide_eq_true leads⟩, rfl⟩

theorem class_led (list : List (Candidate α)) (i : Nat) (c : Candidate α) (found : list[i]? = some c)
    (accepted : problem.Accepts tolerance c) :
    ∃ j ≤ i, ∃ d, list[j]? = some d ∧ problem.Leads tolerance (list.take j) d ∧ problem.SameClass d c := by
  induction i using Nat.strong_induction_on generalizing c with
  | _ i ih =>
      by_cases leads : problem.Leads tolerance (list.take i) c
      · exact ⟨i, le_rfl, c, found, leads, rfl⟩
      · obtain ⟨d, earlier, accepts, same⟩ := class_met problem tolerance _ c accepted leads
        obtain ⟨k, present⟩ := List.mem_iff_getElem?.mp earlier
        obtain ⟨before, there⟩ : k < i ∧ list[k]? = some d := by simpa [List.getElem?_take] using present
        obtain ⟨j, order, e, placed, first, alike⟩ := ih k before d there accepts
        exact ⟨j, order.trans before.le, e, placed, first, alike.trans same⟩

end Screening

section Doubles

variable (problem : Problem Float) (tolerance : Float)

theorem double_compares : problem.ComparesClasses tolerance := fun _ _ accepts _ =>
  ⟨coincident_rounded _ _, coincides_rounded _ _ (feasible_number problem tolerance _ accepts.2)⟩

theorem sole_entry {β : Type} (r : β → β → Prop) (list : List β) (a : β) (member : a ∈ list) (apart : list.Pairwise r)
    (joined : ∀ b ∈ list, ∀ c ∈ list, ¬ r b c) : list = [a] := by
  match list with
  | [] => cases member
  | [b] => rw [List.mem_singleton.mp member]
  | b :: c :: _ => exact absurd (List.rel_of_pairwise_cons apart (by simp)) (joined b (by simp) c (by simp))

theorem coincident_sole (q : Point Float) (v : Vertex Float) (member : v ∈ problem.feasibleVertices tolerance)
    (near : v.point.coincides q = true) :
    (problem.feasibleVertices tolerance).filter (fun w => w.point.coincides q) = [v] := by
  refine sole_entry Vertex.Apart _ v (List.mem_filter.mpr ⟨member, near⟩)
    ((feasible_vertices_apart problem tolerance).filter _) ?_
  intro u first w second separate
  obtain ⟨listed, nearU⟩ := List.mem_filter.mp first
  have nearW := (List.mem_filter.mp second).2
  have same := (coincident_rounded _ _ nearU).trans (coincident_rounded _ _ nearW).symm
  have joins := coincides_rounded _ _ (vertex_number problem tolerance u listed) same
  exact Bool.false_ne_true (separate.symm.trans joins)

theorem vertices_first_of_class :
    problem.feasibleVertices tolerance =
        (problem.leaders tolerance (candidates problem.constraints problem.bounds)).map problem.evaluate ∧
      ∀ (i : Nat) (c : Candidate Float), (candidates problem.constraints problem.bounds)[i]? = some c →
        problem.Accepts tolerance c →
        ∃ v, (problem.feasibleVertices tolerance).filter
            (fun w => w.point.coincides (problem.bounds.clamp c.point)) = [v] ∧
          ∃ j ≤ i, ∃ d : Candidate Float, (candidates problem.constraints problem.bounds)[j]? = some d ∧
            problem.Accepts tolerance d ∧ v = problem.evaluate d := by
  have led := vertices_leaders problem tolerance (double_compares problem tolerance)
  refine ⟨led, fun i c found accepted => ?_⟩
  obtain ⟨j, order, d, placed, leads, same⟩ := class_led problem tolerance _ i c found accepted
  have listed : problem.evaluate d ∈ problem.feasibleVertices tolerance :=
    led ▸ List.mem_map_of_mem (leader_listed problem tolerance _ j d placed leads)
  have near := (double_compares problem tolerance d c leads.1 accepted).mpr same
  exact ⟨_, coincident_sole problem tolerance _ _ listed near, j, order, d, placed, leads.1, rfl⟩

end Doubles

def nearlyOneCorner : Problem Float where
  first := ⟨⟨1, 1, 4⟩, .le⟩
  second := ⟨⟨-1, 0, -3.998⟩, .ge⟩
  objective := ⟨1, 1⟩
  bounds := ⟨10, 10⟩
  valid := by decide +kernel

def shadowedCrossing : Candidate Float := ⟨⟨3.998, 4 - 3.998⟩, .intersection 0 1⟩

theorem vertices_first_of_class_nearly_one_corner :
    (candidates nearlyOneCorner.constraints nearlyOneCorner.bounds)[3]? = some shadowedCrossing ∧
      nearlyOneCorner.Accepts defaultTolerance shadowedCrossing ∧
      (nearlyOneCorner.feasibleVertices defaultTolerance).map (·.origin) =
        [.intercept .y (.constraint 0), .intercept .x (.constraint 1)] ∧
      ∃ v, (nearlyOneCorner.feasibleVertices defaultTolerance).filter
          (fun w => w.point.coincides (nearlyOneCorner.bounds.clamp shadowedCrossing.point)) = [v] ∧
        ∃ j ≤ 3, ∃ d : Candidate Float, (candidates nearlyOneCorner.constraints nearlyOneCorner.bounds)[j]? = some d ∧
          nearlyOneCorner.Accepts defaultTolerance d ∧ v = nearlyOneCorner.evaluate d := by
  have found : (candidates nearlyOneCorner.constraints nearlyOneCorner.bounds)[3]? = some shadowedCrossing := by
    decide +kernel
  have accepted : nearlyOneCorner.Accepts defaultTolerance shadowedCrossing := by decide +kernel
  exact ⟨found, accepted, by decide +kernel,
    (vertices_first_of_class nearlyOneCorner defaultTolerance).2 3 _ found accepted⟩

end PlanarLP
