import PlanarLP.Proofs.Candidate
import PlanarLP.Proofs.LineSymmetry
import PlanarLP.Proofs.Selection

set_option autoImplicit false

-- Division stops at a zero divisor, snapping at bounds that are no box, looking up a vertex
-- outside the list.
namespace PlanarLP

namespace Checked

section Steps

variable {α : Type} [Scalar α]

def quotient (a b : α) : Option α := if b == 0 then none else some (a / b)

def shape (l : Line α) : Option (Line.Shape α) :=
  if l.b != 0 then do
    let intercept ← quotient l.c l.b
    let slope ← quotient (-l.a) l.b
    some (.graph intercept slope)
  else if l.a != 0 then (quotient l.c l.a).map .vertical
  else some .empty

def intercept (l : Line α) (axis : Axis) : Option (Option α) :=
  if l.coefficient axis != 0 then (quotient l.c (l.coefficient axis)).map some else some none

def intersection (l m : Line α) : Option (Option (Point α)) :=
  if l.isParallel m then some none
  else do
    let x ← quotient (l.c * m.b - m.c * l.b) (l.determinant m)
    let y ← quotient (l.a * m.c - m.a * l.c) (l.determinant m)
    some (some ⟨x, y⟩)

def collect {β γ : Type} (step : β → Option (Option γ)) (l : List β) : Option (List γ) :=
  (l.mapM step).map List.reduceOption

end Steps

section Enumerating

variable {α : Type} [Scalar α] (constraints : List (Constraint α)) (bounds : Bounds α)

def axisCrossings (axis : Axis) : Option (List (α × Limit)) :=
  collect (fun (c, i) => (intercept c.boundary axis).map fun crossing =>
    if c.boundary.coefficient axis ≤ 0 then none else crossing.map (·, .constraint i)) constraints.zipIdx

def tightest (direction : Direction) (axis : Axis) : Option (Option (α × Limit)) :=
  (axisCrossings constraints axis).map fun crossings =>
    match direction with
    | .le => firstBest (fun a b => decide (a ≤ b)) (crossings ++ [(bounds.top axis, .bound)])
    | .ge => firstBest (fun a b => decide (b ≤ a)) crossings

def crossingsOf (entry : Constraint α × Nat) : Option (List (Candidate α)) :=
  collect (fun axis => (intercept entry.1.boundary axis).map
    (Option.map fun v => ⟨.onAxis axis v, .intercept axis (.constraint entry.2)⟩)) [Axis.x, Axis.y]

def axisCandidates : Option (List (Candidate α)) :=
  match sharedDirection? constraints with
  | some direction => collect (fun axis => (tightest constraints bounds direction axis).map
      (Option.map fun (v, limit) => ⟨.onAxis axis v, .intercept axis limit⟩)) [Axis.x, Axis.y]
  | none => (constraints.zipIdx.mapM crossingsOf).map List.flatten

def intersections : Option (List (Candidate α)) :=
  collect (fun ((c, i), (d, j)) => (intersection c.boundary d.boundary).map
    (Option.map (⟨·, .intersection i j⟩))) (pairs constraints.zipIdx)

def candidates : Option (List (Candidate α)) := do
  let onAxes ← axisCandidates constraints bounds
  let crossings ← intersections constraints
  some (onAxes ++ crossings)

end Enumerating

section Solving

variable {α : Type} [Scalar α] (problem : Problem α) (tolerance : α)

def judge (seen : List (Vertex α)) (candidate : Candidate α) : Option (Decision α) :=
  if ¬ problem.Feasible tolerance candidate.point then some (.infeasible candidate)
  else (problem.bounds.clamp? candidate.point).map fun point =>
    if ¬ problem.Feasible tolerance point then .displaced candidate point
    else if seen.any (·.point.coincides point) then .duplicate candidate point
    else .accepted ⟨point, problem.objective.value point, candidate.origin⟩

def screen : List (Vertex α) → List (Candidate α) → Option (List (Decision α))
  | _, [] => some []
  | seen, candidate :: rest => do
      let decision ← judge problem tolerance seen candidate
      let decisions ← screen (seen ++ decision.vertex?.toList) rest
      some (decision :: decisions)

def feasibleVertices : Option (List (Vertex α)) := do
  let listed ← candidates problem.constraints problem.bounds
  let decisions ← screen problem tolerance [] listed
  some (decisions.filterMap Decision.vertex?)

def selectStep (better : α → α → Bool) (vertices : List (Vertex α)) (best : Nat) (entry : Vertex α × Nat) :
    Option Nat := do
  let kept ← vertices[best]?
  some (if better entry.1.value kept.value then entry.2 else best)

def select (better : α → α → Bool) (vertices : List (Vertex α)) : Option (Extremum α) := do
  let best ← (vertices.zipIdx.drop 1).foldlM (selectStep better vertices) 0
  let kept ← vertices[best]?
  some (.of best kept)

def extremum (sought : Bool) (better : α → α → Bool) (vertices : List (Vertex α)) : Option (Option (Extremum α)) :=
  if sought then (select better vertices).map some else some none

def solve (goal : Goal) : Option (Solution α) := do
  let vertices ← feasibleVertices problem tolerance
  if vertices.isEmpty then some ⟨.infeasible, [], none, none⟩
  else do
    let maximum ← extremum goal.seeksMaximum (fun candidate best => decide (best < candidate)) vertices
    let minimum ← extremum goal.seeksMinimum (fun candidate best => decide (candidate < best)) vertices
    some ⟨.optimal, vertices, maximum, minimum⟩

end Solving

end Checked

section Lists

variable {β γ : Type}

theorem map_settled (step : β → Option γ) (f : β → γ) (l : List β) (settled : ∀ a ∈ l, step a = some (f a)) :
    l.mapM step = some (l.map f) := by
  induction l with
  | nil => rfl
  | cons a l ih =>
      obtain ⟨first, rest⟩ := List.forall_mem_cons.mp settled
      rw [List.mapM_cons, first, ih rest]
      rfl

theorem collect_settled (step : β → Option (Option γ)) (f : β → Option γ) (l : List β)
    (settled : ∀ a ∈ l, step a = some (f a)) : Checked.collect step l = some (l.filterMap f) := by
  unfold Checked.collect
  rw [map_settled step f l settled, Option.map_some]
  exact congrArg some (List.filterMap_map ..)

end Lists

theorem equal_zero (x : Float) (zero : (x == 0) = true) : IsZero x := by
  rcases alike_cases x 0 (.inl zero) with same | ⟨also, _⟩
  · exact .inl same
  · exact also

theorem quotient_settled (a b : Float) (nonzero : (b == 0) = false) : Checked.quotient a b = some (a / b) := by
  unfold Checked.quotient
  rw [if_neg (Bool.eq_false_iff.mp nonzero)]

theorem nonzero_guard (x : Float) (guard : (x != 0) = true) : (x == 0) = false := by
  rwa [bne, Bool.not_eq_true'] at guard

theorem intercept_settled (l : Line Float) (axis : Axis) : Checked.intercept l axis = some (l.intercept? axis) := by
  unfold Checked.intercept Line.intercept?
  by_cases guard : (l.coefficient axis != 0) = true
  · rw [if_pos guard, if_pos guard, quotient_settled _ _ (nonzero_guard _ guard)]
    rfl
  · rw [if_neg guard, if_neg guard]

theorem shape_settled (l : Line Float) : Checked.shape l = some l.shape := by
  unfold Checked.shape Line.shape
  by_cases guard : (l.b != 0) = true
  · have nonzero := nonzero_guard _ guard
    rw [if_pos guard, if_pos guard, quotient_settled _ _ nonzero, quotient_settled _ _ nonzero]
    rfl
  · rw [if_neg guard, if_neg guard]
    by_cases upright : (l.a != 0) = true
    · rw [if_pos upright, if_pos upright, quotient_settled _ _ (nonzero_guard _ upright)]
      rfl
    · rw [if_neg upright, if_neg upright]

-- A determinant that is zero, also by underflow, counts as parallel.
theorem intersection_settled (l m : Line Float) (first : l.Finite) (second : m.Finite) :
    Checked.intersection l m = some (l.intersection? m) := by
  unfold Checked.intersection Line.intersection?
  cases separate : l.isParallel m with
  | true => rfl
  | false =>
      have nonzero : (l.determinant m == 0) = false :=
        Bool.eq_false_iff.mpr fun zero => separate_nonzero l m first second separate (equal_zero _ zero)
      rw [if_neg Bool.false_ne_true, if_neg Bool.false_ne_true, quotient_settled _ _ nonzero,
        quotient_settled _ _ nonzero]
      rfl

section Enumerating

variable (constraints : List (Constraint Float)) (bounds : Bounds Float)

theorem axis_crossings_settled (axis : Axis) :
    Checked.axisCrossings constraints axis = some (axisCrossings constraints axis) := by
  refine collect_settled _ _ _ fun ⟨c, i⟩ _ => ?_
  dsimp only
  rw [intercept_settled]
  rfl

theorem tightest_settled (direction : Direction) (axis : Axis) :
    Checked.tightest constraints bounds direction axis = some (tightest? constraints bounds direction axis) := by
  unfold Checked.tightest tightest?
  rw [axis_crossings_settled, Option.map_some]
  cases direction <;> rfl

theorem crossings_of_settled (entry : Constraint Float × Nat) :
    Checked.crossingsOf entry = some ([Axis.x, Axis.y].filterMap fun axis =>
      (entry.1.boundary.intercept? axis).map fun v => ⟨.onAxis axis v, .intercept axis (.constraint entry.2)⟩) := by
  refine collect_settled _ _ _ fun axis _ => ?_
  rw [intercept_settled]
  rfl

theorem axis_candidates_settled :
    Checked.axisCandidates constraints bounds = some (axisCandidates constraints bounds) := by
  unfold Checked.axisCandidates axisCandidates
  cases sharedDirection? constraints with
  | some direction =>
      refine collect_settled _ _ _ fun axis _ => ?_
      rw [tightest_settled]
      rfl
  | none =>
      dsimp only
      rw [map_settled _ _ _ fun entry _ => crossings_of_settled entry]
      rfl

theorem intersections_settled (finite : ∀ c ∈ constraints, c.boundary.Finite) :
    Checked.intersections constraints = some (intersections constraints) := by
  refine collect_settled _ _ _ fun ⟨⟨c, i⟩, d, j⟩ member => ?_
  have chosen := ((pairs_sublist _ _ _).mp member).subset
  have left := finite c (List.fst_mem_of_mem_zipIdx (chosen List.mem_cons_self))
  have right := finite d (List.fst_mem_of_mem_zipIdx (chosen (List.mem_cons_of_mem _ (List.mem_singleton_self _))))
  dsimp only
  rw [intersection_settled _ _ left right]
  rfl

end Enumerating

section Solving

variable (problem : Problem Float) (tolerance : Float)

theorem candidates_settled :
    Checked.candidates problem.constraints problem.bounds =
      some (candidates problem.constraints problem.bounds) := by
  have finite : ∀ c ∈ problem.constraints, c.boundary.Finite :=
    List.forall_mem_cons.mpr ((boundaries_finite problem).imp_right List.forall_mem_singleton.mpr)
  unfold Checked.candidates
  rw [axis_candidates_settled, intersections_settled _ finite]
  rfl

theorem clamp_settled (p : Point Float) : problem.bounds.clamp? p = some (problem.bounds.clamp p) :=
  if_pos ⟨double_top_nonnegative problem .x, double_top_nonnegative problem .y⟩

theorem judge_settled (seen : List (Vertex Float)) (candidate : Candidate Float) :
    Checked.judge problem tolerance seen candidate = some (problem.judge tolerance seen candidate) := by
  unfold Checked.judge Problem.judge
  rw [clamp_settled, Option.map_some]
  by_cases raw : problem.Feasible tolerance candidate.point
  · rw [if_neg (not_not_intro raw), if_neg (not_not_intro raw)]
  · rw [if_pos raw, if_pos raw]

theorem screen_settled (seen : List (Vertex Float)) (list : List (Candidate Float)) :
    Checked.screen problem tolerance seen list = some (problem.screen tolerance seen list) := by
  induction list generalizing seen with
  | nil => rfl
  | cons candidate rest ih =>
      rw [Checked.screen, judge_settled, Option.bind_eq_bind, Option.bind_some, ih]
      rfl

theorem feasible_vertices_settled :
    Checked.feasibleVertices problem tolerance = some (problem.feasibleVertices tolerance) := by
  unfold Checked.feasibleVertices
  rw [candidates_settled, Option.bind_eq_bind, Option.bind_some, screen_settled]
  rfl

end Solving

section Selecting

variable {α : Type} (better : α → α → Bool) (vertices : List (Vertex α))

-- Both searches stand at the same vertex, and it is one of the list, so the look-up succeeds.
theorem select_step_settled (best : Extremum α) (entry : Vertex α × Nat) (within : best.Within vertices)
    (listed : vertices[entry.2]? = some entry.1) :
    Checked.selectStep better vertices best.index entry = some (Extremum.step better best entry).index ∧
      (Extremum.step better best entry).Within vertices := by
  obtain ⟨v, found, same⟩ := within
  have value : best.value = v.value := congrArg Extremum.value same
  unfold Checked.selectStep Extremum.step
  rw [found, value]
  by_cases wins : better entry.1.value v.value = true
  · rw [if_pos wins]
    exact ⟨by simp [wins, Extremum.of], entry.1, listed, rfl⟩
  · rw [if_neg wins]
    exact ⟨by simp [wins], v, found, same⟩

theorem select_fold_settled (entries : List (Vertex α × Nat)) (best : Extremum α) (within : best.Within vertices)
    (listed : ∀ entry ∈ entries, vertices[entry.2]? = some entry.1) :
    entries.foldlM (Checked.selectStep better vertices) best.index =
        some (entries.foldl (Extremum.step better) best).index ∧
      (entries.foldl (Extremum.step better) best).Within vertices := by
  induction entries generalizing best with
  | nil => exact ⟨rfl, within⟩
  | cons entry rest ih =>
      obtain ⟨here, later⟩ := List.forall_mem_cons.mp listed
      obtain ⟨step, next⟩ := select_step_settled better vertices best entry within here
      obtain ⟨fold, final⟩ := ih _ next later
      rw [List.foldlM_cons, List.foldl_cons, step]
      exact ⟨fold, final⟩

theorem select_settled (nonempty : vertices ≠ []) :
    (Checked.select better vertices).map some = some (Extremum.select? better vertices) := by
  obtain ⟨v, rest, rfl⟩ := List.exists_cons_of_ne_nil nonempty
  have listed : ∀ entry ∈ rest.zipIdx 1, (v :: rest)[entry.2]? = some entry.1 := fun entry member =>
    List.mem_zipIdx_iff_getElem?.mp (List.mem_cons_of_mem (v, 0) member)
  obtain ⟨fold, w, found, same⟩ :=
    select_fold_settled better (v :: rest) (rest.zipIdx 1) (.of 0 v) ⟨v, rfl, rfl⟩ listed
  have search : ((v :: rest).zipIdx.drop 1).foldlM (Checked.selectStep better (v :: rest)) 0 = some _ := fold
  unfold Checked.select
  rw [search, Option.bind_eq_bind, Option.bind_some, found, Option.bind_eq_bind, Option.bind_some, select_cons, ← same]
  rfl

theorem extremum_settled (sought : Bool) (nonempty : vertices ≠ []) :
    Checked.extremum sought better vertices =
      some (if sought then Extremum.select? better vertices else none) := by
  cases sought with
  | true => exact select_settled better vertices nonempty
  | false => rfl

end Selecting

theorem solve_settled (problem : Problem Float) (goal : Goal) (tolerance : Float) :
    Checked.solve problem tolerance goal = some (problem.solve goal tolerance) := by
  unfold Checked.solve Problem.solve
  rw [feasible_vertices_settled, Option.bind_eq_bind, Option.bind_some]
  by_cases empty : problem.feasibleVertices tolerance = []
  · rw [empty]
    cases goal <;> rfl
  · have occupied : (problem.feasibleVertices tolerance).isEmpty = false := by simpa using empty
    rw [occupied, if_neg Bool.false_ne_true, extremum_settled _ _ _ empty, extremum_settled _ _ _ empty]
    simp only [occupied, Option.bind_eq_bind, Option.bind_some, Bool.false_eq_true, if_false]
    rfl

end PlanarLP
