import PlanarLP.Optimum
import PlanarLP.Forms
import PlanarLP.Proofs.DoubleValue
import PlanarLP.Proofs.Validation

set_option autoImplicit false

namespace PlanarLP

def Fault.Stands : Fault Float → Prop
  | .coefficient _ value => ¬ value.isFinite = true
  | .bound _ value => ¬ (value.isFinite = true ∧ 0 < value)

instance : DecidablePred Fault.Stands
  | .coefficient _ value => inferInstanceAs (Decidable (¬ value.isFinite = true))
  | .bound _ value => inferInstanceAs (Decidable (¬ (value.isFinite = true ∧ 0 < value)))

namespace Problem

def checks (first second : Line Float) (objective : Objective Float) (bounds : Bounds Float) : List (Fault Float) :=
  [.coefficient .a1 first.a, .coefficient .b1 first.b, .coefficient .c1 first.c,
    .coefficient .a2 second.a, .coefficient .b2 second.b, .coefficient .c2 second.c,
    .coefficient .g objective.g, .coefficient .h objective.h, .bound .x bounds.xMax, .bound .y bounds.yMax]

end Problem

structure Validated {β : Type} (checks : List (Fault Float)) (result : Except (Fault Float) β) : Prop where
  accepted : (∃ value, result = .ok value) ↔ ∀ fault ∈ checks, ¬ fault.Stands
  refused : ∀ fault : Fault Float, result = .error fault ↔ ∃ i : Nat, checks[i]? = some fault ∧ fault.Stands ∧
    ∀ j < i, ∀ earlier, checks[j]? = some earlier → ¬ earlier.Stands

theorem find_some_map {β γ : Type} (f : β → Option γ) (g : β → γ) (p : γ → Bool)
    (agrees : ∀ b, f b = if p (g b) then some (g b) else none) (l : List β) : l.findSome? f = (l.map g).find? p := by
  induction l with
  | nil => rfl
  | cons b rest ih =>
      rw [List.findSome?_cons, List.map_cons, List.find?_cons, agrees b, ih]
      cases p (g b) <;> rfl

theorem not_positive_iff (x : Float) : x.isFinite = false ∨ x ≤ 0 ↔ ¬ (x.isFinite = true ∧ 0 < x) := by
  by_cases finite : x.isFinite = true
  · have number := finite_number x finite
    rw [double_le_value x 0 number rfl, double_lt_value 0 x rfl number]
    simp [finite]
  · simp [finite]

theorem problem_fault_first (first second : Constraint Float) (objective : Objective Float) (bounds : Bounds Float) :
    Problem.fault? first second objective bounds =
      (Problem.checks first.boundary second.boundary objective bounds).find? fun fault => decide fault.Stands := by
  have coefficients := find_some_map
    (fun entry : Coefficient × Float => if Scalar.isFinite entry.2 then none else some (.coefficient entry.1 entry.2))
    (fun entry => Fault.coefficient entry.1 entry.2) (fun fault => decide fault.Stands)
    (fun entry => by
      change (if entry.2.isFinite = true then none else _) = if decide (¬ entry.2.isFinite = true) = true then _ else _
      by_cases finite : entry.2.isFinite = true <;> simp [finite])
    (Problem.coefficients first second objective)
  have sides := find_some_map
    (fun axis => if Scalar.isFinite (bounds.top axis) = false ∨ bounds.top axis ≤ 0 then
      some (Fault.bound axis (bounds.top axis)) else none)
    (fun axis => Fault.bound axis (bounds.top axis)) (fun fault => decide fault.Stands)
    (fun axis => if_congr ((not_positive_iff (bounds.top axis)).trans decide_eq_true_iff.symm) rfl rfl) [Axis.x, Axis.y]
  calc Problem.fault? first second objective bounds
    _ = (((Problem.coefficients first second objective).map fun entry => Fault.coefficient entry.1 entry.2).find?
          fun fault => decide fault.Stands).or
        (([Axis.x, Axis.y].map fun axis => Fault.bound axis (bounds.top axis)).find?
          fun fault => decide fault.Stands) := congrArg₂ Option.or coefficients sides
    _ = _ := List.find?_append.symm

theorem first_validated {β : Type} (checks : List (Fault Float)) (result : Except (Fault Float) β)
    (there : (∃ value, result = .ok value) ↔ checks.find? (fun fault => decide fault.Stands) = none)
    (reported : ∀ fault, result = .error fault ↔ checks.find? (fun fault => decide fault.Stands) = some fault) :
    Validated checks result where
  accepted := there.trans (by simp only [List.find?_eq_none, decide_eq_true_eq])
  refused fault := (reported fault).trans (by
    rw [List.find?_eq_some_iff_getElem]
    constructor
    · rintro ⟨stands, i, inside, here, before⟩
      refine ⟨i, List.getElem?_eq_some_iff.mpr ⟨inside, here⟩, of_decide_eq_true stands, ?_⟩
      rintro j less earlier there
      obtain ⟨_, rfl⟩ := List.getElem?_eq_some_iff.mp there
      simpa using before j less
    · rintro ⟨i, there, stands, before⟩
      obtain ⟨inside, here⟩ := List.getElem?_eq_some_iff.mp there
      refine ⟨decide_eq_true stands, i, inside, here, fun j less => ?_⟩
      simpa using before j less _ (List.getElem?_eq_getElem (less.trans inside)))

theorem make_validated (first second : Constraint Float) (objective : Objective Float) (bounds : Bounds Float) :
    Validated (Problem.checks first.boundary second.boundary objective bounds)
      (Problem.make first second objective bounds) := by
  apply first_validated <;> rw [← problem_fault_first]
  · unfold Problem.make
    split <;> simp [*]
  · intro fault
    unfold Problem.make
    split <;> simp [*]

theorem validated_map {β γ : Type} (f : β → γ) (checks : List (Fault Float)) (result : Except (Fault Float) β)
    (validated : Validated checks result) : Validated checks (result.map f) := by
  obtain ⟨accepted, refused⟩ := validated
  cases result with
  | ok value => exact ⟨by simpa [Except.map] using accepted, by simpa [Except.map] using refused⟩
  | error fault => exact ⟨by simpa [Except.map] using accepted, by simpa [Except.map] using refused⟩

theorem validation_in_order (first second : Line Float) (objective : Objective Float) (bounds : Bounds Float) :
    (∀ one other, Validated (Problem.checks first second objective bounds)
      (Problem.make ⟨first, one⟩ ⟨second, other⟩ objective bounds)) ∧
    (∀ mode : Mode, Validated (Problem.checks first second objective bounds)
      (mode.problem first second objective bounds)) ∧
    Validated (Problem.checks first second objective bounds) (maximize first second objective bounds) ∧
    Validated (Problem.checks first second objective bounds) (minimize first second objective bounds) ∧
    Validated (Problem.checks first second objective bounds) (optimize first second objective bounds) ∧
    ∀ goal one other, Validated (Problem.checks first second objective bounds)
      (ProblemFile.problem ⟨goal, ⟨first, one⟩, ⟨second, other⟩, objective, bounds⟩) := by
  have made (one other : Direction) := make_validated ⟨first, one⟩ ⟨second, other⟩ objective bounds
  have solved (mode : Mode) : Validated (Problem.checks first second objective bounds)
      (mode.solution first second objective bounds) :=
    validated_map _ _ _ (made mode.directions.1 mode.directions.2)
  refine ⟨made, fun _ => made _ _, ?_, ?_, ?_, fun _ one other => made one other⟩
  · exact validated_map _ _ _ (solved .maximize)
  · exact validated_map _ _ _ (solved .minimize)
  · exact validated_map _ _ _ (solved .optimize)

end PlanarLP
