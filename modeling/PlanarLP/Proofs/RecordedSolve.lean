import PlanarLP.Journal
import PlanarLP.Proofs.Selection
import PlanarLP.Proofs.Screening

set_option autoImplicit false

namespace PlanarLP

abbrev Recording := StateM (List Event)

namespace Recorded

def note (event : Event) : Recording Unit := modify (· ++ [event])

section Enumerating

variable (constraints : List (Constraint Float)) (bounds : Bounds Float)

def limiting (axis : Axis) (entry : Constraint Float × Nat) : Recording (Option (Float × Limit)) :=
  if entry.1.boundary.coefficient axis ≤ 0 then do
    note (.omitted (.doesNotLimit entry.2 (entry.1.boundary.coefficient axis)))
    pure none
  else pure ((entry.1.boundary.intercept? axis).map (·, .constraint entry.2))

def tightest (direction : Direction) (axis : Axis) : Recording (Option (Candidate Float)) := do
  let crossings ← constraints.zipIdx.filterMapM (limiting axis)
  let best := match direction with
    | .le => firstBest (fun a b => decide (a ≤ b)) (crossings ++ [(bounds.top axis, Limit.bound)])
    | .ge => firstBest (fun a b => decide (b ≤ a)) crossings
  pure (best.map fun (v, limit) => ⟨.onAxis axis v, .intercept axis limit⟩)

def crossing (entry : Constraint Float × Nat) (axis : Axis) : Recording (Option (Candidate Float)) :=
  match entry.1.boundary.intercept? axis with
  | some v => pure (some ⟨.onAxis axis v, .intercept axis (.constraint entry.2)⟩)
  | none => do
      note (.omitted (.noIntercept axis entry.2))
      pure none

def axisCandidates : Recording (List (Candidate Float)) :=
  match sharedDirection? constraints with
  | some direction => [Axis.x, Axis.y].filterMapM (tightest constraints bounds direction)
  | none => constraints.zipIdx.flatMapM fun entry => [Axis.x, Axis.y].filterMapM (crossing entry)

def meeting (pair : (Constraint Float × Nat) × (Constraint Float × Nat)) : Recording (Option (Candidate Float)) :=
  match pair.1.1.boundary.intersection? pair.2.1.boundary with
  | some p => pure (some ⟨p, .intersection pair.1.2 pair.2.2⟩)
  | none => do
      note (.omitted (.parallel pair.1.2 pair.2.2))
      pure none

def candidates : Recording (List (Candidate Float)) := do
  let onAxes ← axisCandidates constraints bounds
  let crossings ← (pairs constraints.zipIdx).filterMapM meeting
  pure (onAxes ++ crossings)

end Enumerating

section Solving

variable (problem : Problem Float) (tolerance : Float)

def screen : List (Vertex Float) → List (Candidate Float) → Recording (List (Vertex Float))
  | seen, [] => pure seen
  | seen, candidate :: rest =>
      let point := problem.bounds.clamp candidate.point
      if ¬ problem.Feasible tolerance candidate.point then do
        note (.decided (.infeasible candidate))
        screen seen rest
      else if ¬ problem.Feasible tolerance point then do
        note (.decided (.displaced candidate point))
        screen seen rest
      else if seen.any (·.point.coincides point) then do
        note (.decided (.duplicate candidate point))
        screen seen rest
      else do
        let vertex := ⟨point, problem.objective.value point, candidate.origin⟩
        note (.decided (.accepted vertex))
        screen (seen ++ [vertex]) rest

def feasibleVertices : Recording (List (Vertex Float)) := do
  let listed ← candidates problem.constraints problem.bounds
  screen problem tolerance [] listed

def solve (goal : Goal) : Recording (Solution Float) := do
  let vertices ← feasibleVertices problem tolerance
  if vertices.isEmpty then
    note .noVertex
    pure ⟨.infeasible, [], none, none⟩
  else
    let maximum := if goal.seeksMaximum then Extremum.maximum? vertices else none
    let minimum := if goal.seeksMinimum then Extremum.minimum? vertices else none
    maximum.forM (note ∘ Event.maximum)
    minimum.forM (note ∘ Event.minimum)
    pure ⟨.optimal, vertices, maximum, minimum⟩

end Solving

end Recorded

section Actions

variable {β γ : Type}

end Actions

section Enumerating

variable (constraints : List (Constraint Float)) (bounds : Bounds Float)

end Enumerating

section Solving

variable (problem : Problem Float) (tolerance : Float)

end Solving

end PlanarLP
