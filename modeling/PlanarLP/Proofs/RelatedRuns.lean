import Mathlib.Data.List.Forall2
import PlanarLP.Proofs.Selection

set_option autoImplicit false

namespace PlanarLP

variable {α : Type}

theorem paired_partner {β : Type} (related : α → β → Prop) (as : List α) (bs : List β)
    (paired : List.Forall₂ related as bs) : ∀ a ∈ as, ∃ b ∈ bs, related a b := by
  induction paired with
  | nil => exact List.forall_mem_nil _
  | cons same _ ih =>
      refine List.forall_mem_cons.mpr ⟨⟨_, List.mem_cons_self, same⟩, fun a member => ?_⟩
      obtain ⟨b, found, other⟩ := ih a member
      exact ⟨b, List.mem_cons_of_mem _ found, other⟩

theorem mapped_related {β γ δ : Type} (related : α → β → Prop) (images : γ → δ → Prop) (f : α → γ) (g : β → δ)
    (maps : ∀ a b, related a b → images (f a) (g b)) (a : Option α) (b : Option β) (pair : Option.Rel related a b) :
    Option.Rel images (a.map f) (b.map g) := by
  cases pair with
  | none => exact .none
  | some same => exact .some (maps _ _ same)

theorem some_related {β : Type} (related : α → β → Prop) (a : Option α) (b : β)
    (pair : Option.Rel related a (some b)) : ∃ x, a = some x ∧ related x b := by
  cases pair with
  | some same => exact ⟨_, rfl, same⟩

theorem listed_related {β : Type} (related : α → β → Prop) (a : Option α) (b : Option β)
    (pair : Option.Rel related a b) : List.Forall₂ related a.toList b.toList := by
  cases pair with
  | none => exact .nil
  | some same => exact .cons same .nil

section Screening

variable [Scalar α] (problem other : Problem α) (tolerance : α) (related : Vertex α → Vertex α → Prop)

def Problem.Matches (c d : Candidate α) : Prop :=
  (problem.Accepts tolerance c ↔ other.Accepts tolerance d) ∧ related (problem.evaluate c) (other.evaluate d)

variable (respects : ∀ v v' w w', related v v' → related w w' → (v.Apart w ↔ v'.Apart w'))

include respects

theorem apart_related (seen seen' : List (Vertex α)) (paired : List.Forall₂ related seen seen') (v v' : Vertex α)
    (same : related v v') : (∀ u ∈ seen, u.Apart v) ↔ ∀ u ∈ seen', u.Apart v' := by
  induction paired with
  | nil => simp
  | cons head _ ih =>
      rw [List.forall_mem_cons, List.forall_mem_cons, respects _ _ _ _ head same, ih]

-- What the two runs have seen stays related, so the next pair is kept or dropped by both.
theorem admitted_related (seen seen' : List (Vertex α)) (before : List.Forall₂ related seen seen')
    (cs ds : List (Candidate α)) (paired : List.Forall₂ (problem.Matches other tolerance related) cs ds) :
    List.Forall₂ related (problem.admitted tolerance seen cs) (other.admitted tolerance seen' ds) := by
  induction paired generalizing seen seen' with
  | nil => exact .nil
  | @cons c d cs ds matched _ ih =>
      have same := matched.2
      have apart := apart_related related respects seen seen' before _ _ same
      have taken := and_congr matched.1 apart
      rw [admitted_cons, admitted_cons]
      by_cases accepts : problem.Accepts tolerance c ∧ ∀ v ∈ seen, v.Apart (problem.evaluate c)
      · rw [if_pos accepts, if_pos (taken.mp accepts)]
        have extended := List.rel_append before (.cons same .nil)
        exact .cons same (ih _ _ extended)
      · rw [if_neg accepts, if_neg fun also => accepts (taken.mpr also)]
        exact ih seen seen' before

theorem feasible_vertices_related
    (paired : List.Forall₂ (problem.Matches other tolerance related) (candidates problem.constraints problem.bounds)
      (candidates other.constraints other.bounds)) :
    List.Forall₂ related (problem.feasibleVertices tolerance) (other.feasibleVertices tolerance) :=
  admitted_related problem other tolerance related respects [] [] .nil _ _ paired

end Screening

theorem verdict_related [Scalar α] (problem other : Problem α) (goal : Goal) (tolerance : α)
    (empty : problem.feasibleVertices tolerance = [] ↔ other.feasibleVertices tolerance = []) :
    (problem.solve goal tolerance).status = (other.solve goal tolerance).status := by
  unfold Problem.solve
  simp only [List.isEmpty_iff, empty]

theorem solved_related [Scalar α] (problem other : Problem α) (goal : Goal) (tolerance : α)
    (related : Option (Extremum α) → Option (Extremum α) → Prop) (absent : related none none)
    (maxima : related (Extremum.maximum? (problem.feasibleVertices tolerance))
      (Extremum.maximum? (other.feasibleVertices tolerance)))
    (minima : related (Extremum.minimum? (problem.feasibleVertices tolerance))
      (Extremum.minimum? (other.feasibleVertices tolerance))) :
    related (problem.solve goal tolerance).maximum (other.solve goal tolerance).maximum ∧
      related (problem.solve goal tolerance).minimum (other.solve goal tolerance).minimum := by
  unfold Problem.solve
  dsimp only
  constructor
  · split
    · exact maxima
    · exact absent
  · split
    · exact minima
    · exact absent

section Selecting

variable (better better' : α → α → Bool) (agree : α → α → Prop)
  (same : ∀ a a' b b', agree a a' → agree b b' → better a b = better' a' b')

include same

theorem step_related (best best' : Extremum α) (v w : Vertex α) (i : Nat)
    (before : best.index = best'.index ∧ agree best.value best'.value) (values : agree v.value w.value) :
    (Extremum.step better best (v, i)).index = (Extremum.step better' best' (w, i)).index ∧
      agree (Extremum.step better best (v, i)).value (Extremum.step better' best' (w, i)).value := by
  unfold Extremum.step
  rw [same _ _ _ _ values before.2]
  split
  · exact ⟨rfl, values⟩
  · exact before

theorem fold_related (vertices vertices' : List (Vertex α))
    (paired : List.Forall₂ (fun v w => agree v.value w.value) vertices vertices') (i : Nat) (best best' : Extremum α)
    (before : best.index = best'.index ∧ agree best.value best'.value) :
    ((vertices.zipIdx i).foldl (Extremum.step better) best).index =
      ((vertices'.zipIdx i).foldl (Extremum.step better') best').index := by
  induction paired generalizing i best best' with
  | nil => exact before.1
  | cons values _ ih =>
      rw [List.zipIdx_cons, List.zipIdx_cons, List.foldl_cons, List.foldl_cons]
      exact ih _ _ _ (step_related better better' agree same best best' _ _ i before values)

theorem select_related (vertices vertices' : List (Vertex α))
    (paired : List.Forall₂ (fun v w => agree v.value w.value) vertices vertices') :
    (Extremum.select? better vertices).map (·.index) = (Extremum.select? better' vertices').map (·.index) := by
  cases paired with
  | nil => rfl
  | cons values rest =>
      rw [select_cons, select_cons, Option.map_some, Option.map_some]
      exact congrArg some (fold_related better better' agree same _ _ rest 1 _ _ ⟨rfl, values⟩)

end Selecting

end PlanarLP
