import PlanarLP.Screening

set_option autoImplicit false

namespace PlanarLP

inductive Status where
  | optimal
  | infeasible
deriving DecidableEq, Repr

def Status.name : Status → String
  | .optimal => "optimal"
  | .infeasible => "infeasible"

structure Extremum (α : Type) where
  index : Nat
  point : Point α
  value : α
deriving DecidableEq, Repr

structure Solution (α : Type) where
  status : Status
  vertices : List (Vertex α)
  maximum : Option (Extremum α)
  minimum : Option (Extremum α)
deriving DecidableEq, Repr

def Extremum.select? {α : Type} (better : α → α → Bool) : List (Vertex α) → Option (Extremum α)
  | [] => none
  | v :: rest => some <| (rest.zipIdx 1).foldl
      (fun best (w, i) => if better w.value best.value then ⟨i, w.point, w.value⟩ else best)
      ⟨0, v.point, v.value⟩

variable {α : Type} [Scalar α]

def Extremum.maximum? (vertices : List (Vertex α)) : Option (Extremum α) :=
  select? (fun candidate best => decide (best < candidate)) vertices

def Extremum.minimum? (vertices : List (Vertex α)) : Option (Extremum α) :=
  select? (fun candidate best => decide (candidate < best)) vertices

def defaultTolerance : α := Scalar.ofDecimal 1 6

namespace Problem

def solve (problem : Problem α) (goal : Goal) (tolerance : α) : Solution α :=
  let vertices := problem.feasibleVertices tolerance
  { status := if vertices.isEmpty then .infeasible else .optimal
    vertices
    maximum := if goal.seeksMaximum then Extremum.maximum? vertices else none
    minimum := if goal.seeksMinimum then Extremum.minimum? vertices else none }

end Problem

end PlanarLP
