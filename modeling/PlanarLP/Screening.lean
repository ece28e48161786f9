import PlanarLP.Candidate

set_option autoImplicit false

namespace PlanarLP

structure Vertex (α : Type) where
  point : Point α
  value : α
  origin : Origin
deriving DecidableEq, Repr

inductive Decision (α : Type) where
  | infeasible (candidate : Candidate α)
  | displaced (candidate : Candidate α) (point : Point α)
  | duplicate (candidate : Candidate α) (point : Point α)
  | accepted (vertex : Vertex α)
deriving DecidableEq, Repr

def Decision.vertex? {α : Type} : Decision α → Option (Vertex α)
  | .accepted vertex => some vertex
  | _ => none

def Decision.origin {α : Type} : Decision α → Origin
  | .infeasible candidate | .displaced candidate _ | .duplicate candidate _ => candidate.origin
  | .accepted vertex => vertex.origin

namespace Problem

variable {α : Type} [Scalar α]

def judge (problem : Problem α) (tolerance : α) (seen : List (Vertex α)) (candidate : Candidate α) :
    Decision α :=
  let point := problem.bounds.clamp candidate.point
  if ¬ problem.Feasible tolerance candidate.point then .infeasible candidate
  -- a steep constraint turns a small move of the point into a large loss of slack
  else if ¬ problem.Feasible tolerance point then .displaced candidate point
  else if seen.any (·.point.coincides point) then .duplicate candidate point
  else .accepted ⟨point, problem.objective.value point, candidate.origin⟩

def screen (problem : Problem α) (tolerance : α) : List (Vertex α) → List (Candidate α) → List (Decision α)
  | _, [] => []
  | seen, candidate :: rest =>
      let decision := problem.judge tolerance seen candidate
      decision :: problem.screen tolerance (seen ++ decision.vertex?.toList) rest

def decisions (problem : Problem α) (tolerance : α) : List (Decision α) :=
  problem.screen tolerance [] (candidates problem.constraints problem.bounds)

def feasibleVertices (problem : Problem α) (tolerance : α) : List (Vertex α) :=
  (problem.decisions tolerance).filterMap Decision.vertex?

end Problem

end PlanarLP
