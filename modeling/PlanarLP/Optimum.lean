import PlanarLP.Solution

set_option autoImplicit false

namespace PlanarLP

structure Optimum (α : Type) where
  x : α
  y : α
  z : α
deriving DecidableEq, Repr

structure Extrema (α : Type) where
  maximum : Optimum α
  minimum : Optimum α
deriving DecidableEq, Repr

def Extremum.toOptimum {α : Type} (e : Extremum α) : Optimum α := ⟨e.point.x, e.point.y, e.value⟩

variable {α : Type} [Scalar α]

def Mode.solution (mode : Mode) (first second : Line α) (objective : Objective α) (bounds : Bounds α) :
    Except (Fault α) (Solution α) :=
  (mode.problem first second objective bounds).map (·.solve mode.goal defaultTolerance)

def maximize (first second : Line α) (objective : Objective α) (bounds : Bounds α) :
    Except (Fault α) (Option (Optimum α)) :=
  (Mode.maximize.solution first second objective bounds).map fun s => s.maximum.map Extremum.toOptimum

def minimize (first second : Line α) (objective : Objective α) (bounds : Bounds α) :
    Except (Fault α) (Option (Optimum α)) :=
  (Mode.minimize.solution first second objective bounds).map fun s => s.minimum.map Extremum.toOptimum

def optimize (first second : Line α) (objective : Objective α) (bounds : Bounds α) :
    Except (Fault α) (Option (Extrema α)) :=
  (Mode.optimize.solution first second objective bounds).map fun s => do
    let maximum ← s.maximum
    let minimum ← s.minimum
    pure ⟨maximum.toOptimum, minimum.toOptimum⟩

end PlanarLP
