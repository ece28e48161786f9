import PlanarLP.Proofs.Exact

set_option autoImplicit false

namespace PlanarLP

variable {α : Type}

def Extremum.of (i : Nat) (v : Vertex α) : Extremum α := ⟨i, v.point, v.value⟩

def Extremum.Within (best : Extremum α) (seen : List (Vertex α)) : Prop :=
  ∃ v, seen[best.index]? = some v ∧ best = .of best.index v

-- Where the search stands after the vertices seen so far, their values compared by a key.
structure Extremum.Leads {β : Type} [LinearOrder β] (key : α → β) (best : Extremum α) (seen : List (Vertex α)) :
    Prop where
  within : best.Within seen
  greatest : ∀ w ∈ seen, key w.value ≤ key best.value
  first : ∀ j w, seen[j]? = some w → j < best.index → key w.value < key best.value

section Folding

variable (better : α → α → Bool)

def Extremum.step (best : Extremum α) (entry : Vertex α × Nat) : Extremum α :=
  if better entry.1.value best.value then .of entry.2 entry.1 else best

theorem select_cons (v : Vertex α) (rest : List (Vertex α)) :
    Extremum.select? better (v :: rest) = some ((rest.zipIdx 1).foldl (Extremum.step better) (.of 0 v)) := rfl

theorem select_none_iff (vertices : List (Vertex α)) : Extremum.select? better vertices = none ↔ vertices = [] := by
  cases vertices <;> simp [Extremum.select?]

section Invariant

variable (holds : Extremum α → List (Vertex α) → Prop)
  (step : ∀ best seen v, holds best seen → holds (Extremum.step better best (v, seen.length)) (seen ++ [v]))

include step

theorem fold_invariant (best : Extremum α) (seen rest : List (Vertex α)) (now : holds best seen) :
    holds ((rest.zipIdx seen.length).foldl (Extremum.step better) best) (seen ++ rest) := by
  induction rest generalizing best seen with
  | nil => simpa using now
  | cons v rest ih =>
      have next := ih _ (seen ++ [v]) (step best seen v now)
      rwa [List.append_assoc, List.length_append] at next

theorem select_invariant (start : ∀ v, holds (.of 0 v) [v]) (vertices : List (Vertex α)) (m : Extremum α)
    (selected : Extremum.select? better vertices = some m) : holds m vertices := by
  cases vertices with
  | nil => cases selected
  | cons v rest =>
      rw [select_cons, Option.some.injEq] at selected
      rw [← selected]
      exact fold_invariant better holds step (.of 0 v) [v] rest (start v)

end Invariant

theorem within_start (v : Vertex α) : (Extremum.of 0 v).Within [v] := ⟨v, rfl, rfl⟩

theorem within_step (best : Extremum α) (seen : List (Vertex α)) (v : Vertex α) (within : best.Within seen) :
    (Extremum.step better best (v, seen.length)).Within (seen ++ [v]) := by
  unfold Extremum.step
  split
  · exact ⟨v, List.getElem?_concat_length, rfl⟩
  · obtain ⟨u, found, same⟩ := within
    have inside : best.index < seen.length := (List.getElem?_eq_some_iff.mp found).1
    exact ⟨u, (List.getElem?_append_left inside).trans found, same⟩

theorem select_within (vertices : List (Vertex α)) (m : Extremum α)
    (selected : Extremum.select? better vertices = some m) : m.Within vertices :=
  select_invariant better Extremum.Within (within_step better) within_start vertices m selected

variable {β : Type} [LinearOrder β] (key : α → β)

theorem leads_start (v : Vertex α) : (Extremum.of 0 v).Leads key [v] where
  within := within_start v
  greatest := List.forall_mem_singleton.mpr le_rfl
  first := fun j _ _ earlier => absurd earlier (Nat.not_lt_zero j)

theorem leads_step (best : Extremum α) (seen : List (Vertex α)) (v : Vertex α)
    (agrees : better v.value best.value = true ↔ key best.value < key v.value) (leads : best.Leads key seen) :
    (Extremum.step better best (v, seen.length)).Leads key (seen ++ [v]) := by
  have within := within_step better best seen v leads.within
  unfold Extremum.step at within ⊢
  by_cases wins : better v.value best.value = true
  · -- what led so far was at least as good as all before it, so the new leader beats them all
    have above := agrees.mp wins
    have beaten : ∀ w ∈ seen, key w.value < key v.value := fun w member => (leads.greatest w member).trans_lt above
    rw [if_pos wins] at within ⊢
    refine ⟨within, ?_, ?_⟩
    · exact List.forall_mem_append.mpr ⟨fun w member => (beaten w member).le, List.forall_mem_singleton.mpr le_rfl⟩
    · intro j w found earlier
      rw [List.getElem?_append_left earlier] at found
      exact beaten w (List.mem_of_getElem? found)
  · have below : key v.value ≤ key best.value := not_lt.mp fun above => wins (agrees.mpr above)
    rw [if_neg wins] at within ⊢
    refine ⟨within, ?_, ?_⟩
    · exact List.forall_mem_append.mpr ⟨leads.greatest, List.forall_mem_singleton.mpr below⟩
    · intro j w found earlier
      obtain ⟨u, present, _⟩ := leads.within
      have inside : best.index < seen.length := (List.getElem?_eq_some_iff.mp present).1
      rw [List.getElem?_append_left (earlier.trans inside)] at found
      exact leads.first j w found earlier

theorem select_leads (vertices : List (Vertex α)) (m : Extremum α)
    (selected : Extremum.select? better vertices = some m)
    (agrees : ∀ v ∈ vertices, ∀ w ∈ vertices, better v.value w.value = true ↔ key w.value < key v.value) :
    m.Leads key vertices := by
  refine select_invariant better (fun best seen => (∀ v ∈ seen, ∀ w ∈ seen,
    better v.value w.value = true ↔ key w.value < key v.value) → best.Leads key seen) ?_ ?_ vertices m selected agrees
  · intro best seen v leads agrees
    have before := leads fun u first w second =>
      agrees u (List.mem_append_left _ first) w (List.mem_append_left _ second)
    obtain ⟨u, present, same⟩ := before.within
    have listed := List.mem_append_left [v] (List.mem_of_getElem? present)
    refine leads_step better key best seen v ?_ before
    rw [same]
    exact agrees v (by simp) u listed
  · exact fun v _ => leads_start key v

theorem leads_least (noWorse : α → α → Prop) (vertices : List (Vertex α)) (m : Extremum α)
    (reads : ∀ v ∈ vertices, ∀ w ∈ vertices, noWorse v.value w.value ↔ key w.value ≤ key v.value)
    (leads : m.Leads key vertices) :
    IsLeast {i | ∃ v, vertices[i]? = some v ∧ ∀ w ∈ vertices, noWorse v.value w.value} m.index := by
  obtain ⟨v, present, same⟩ := leads.within
  have listed := List.mem_of_getElem? present
  have value : m.value = v.value := congrArg Extremum.value same
  constructor
  · exact ⟨v, present, fun w member => (reads v listed w member).mpr (value ▸ leads.greatest w member)⟩
  · rintro j ⟨w, found, top⟩
    by_contra earlier
    have behind := leads.first j w found (not_le.mp earlier)
    have ahead := (reads w (List.mem_of_getElem? found) v listed).mp (top v listed)
    exact absurd ahead (not_le.mpr (value ▸ behind))

theorem leads_equal (vertices others : List (Vertex α)) (m n : Extremum α) (first : m.Leads key vertices)
    (second : n.Leads key others) (there : ∀ v ∈ vertices, ∃ w ∈ others, key w.value = key v.value)
    (back : ∀ w ∈ others, ∃ v ∈ vertices, key v.value = key w.value) : key m.value = key n.value := by
  obtain ⟨v, present, fromV⟩ := first.within
  obtain ⟨w, found, fromW⟩ := second.within
  have topV : m.value = v.value := congrArg Extremum.value fromV
  have topW : n.value = w.value := congrArg Extremum.value fromW
  obtain ⟨w', listed, sameV⟩ := there v (List.mem_of_getElem? present)
  obtain ⟨v', member, sameW⟩ := back w (List.mem_of_getElem? found)
  refine le_antisymm ?_ ?_
  · calc key m.value = key w'.value := (congrArg key topV).trans sameV.symm
      _ ≤ key n.value := second.greatest w' listed
  · calc key n.value = key v'.value := (congrArg key topW).trans sameW.symm
      _ ≤ key m.value := first.greatest v' member

end Folding

section Solving

variable [Scalar α] (problem : Problem α) (goal : Goal) (tolerance : α)

theorem solve_maximum (m : Extremum α) (found : (problem.solve goal tolerance).maximum = some m) :
    Extremum.maximum? (problem.feasibleVertices tolerance) = some m := by
  by_cases seeks : goal.seeksMaximum = true
  · simpa [Problem.solve, seeks] using found
  · simp [Problem.solve, seeks] at found

theorem solve_minimum (m : Extremum α) (found : (problem.solve goal tolerance).minimum = some m) :
    Extremum.minimum? (problem.feasibleVertices tolerance) = some m := by
  by_cases seeks : goal.seeksMinimum = true
  · simpa [Problem.solve, seeks] using found
  · simp [Problem.solve, seeks] at found

theorem solve_infeasible_iff :
    (problem.solve goal tolerance).status = .infeasible ↔ problem.feasibleVertices tolerance = [] := by
  cases empty : problem.feasibleVertices tolerance <;> simp [Problem.solve, empty]

end Solving

theorem maximum_greatest (vertices : List (Vertex Rat)) (m : Extremum Rat)
    (selected : Extremum.maximum? vertices = some m) : ∀ v ∈ vertices, v.value ≤ m.value :=
  (select_leads _ id vertices m selected fun _ _ _ _ => decide_eq_true_iff).greatest

theorem minimum_least (vertices : List (Vertex Rat)) (m : Extremum Rat)
    (selected : Extremum.minimum? vertices = some m) : ∀ v ∈ vertices, m.value ≤ v.value := by
  intro v member
  have leads := select_leads _ Neg.neg vertices m selected fun _ _ _ _ => by
    rw [decide_eq_true_iff, neg_lt_neg_iff]
  exact neg_le_neg_iff.mp (leads.greatest v member)

end PlanarLP
