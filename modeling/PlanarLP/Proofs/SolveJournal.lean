import PlanarLP.Proofs.Consistency
import PlanarLP.Proofs.RecordedSolve

set_option autoImplicit false

namespace PlanarLP

namespace Event

def vertex? : Event → Option (Vertex Float)
  | .decided decision => decision.vertex?
  | _ => none

def line (event : Event) : Severity × String × List (String × Detail) := (event.severity, event.message, event.details)

end Event

section Verdicts

variable (problem : Problem Float) (tolerance : Float)

end Verdicts

section Closing

variable (solution : Solution Float)

def Solution.closing : List Event :=
  if solution.vertices.isEmpty then [.noVertex]
  else solution.maximum.toList.map .maximum ++ solution.minimum.toList.map .minimum

end Closing

example :
    (tiedAlongBound.journal .both defaultTolerance).map Event.message =
      ["constraints are parallel, skipping intersection", "accepted vertex", "accepted vertex",
        "maximum", "minimum"] := by
  decide +kernel

end PlanarLP
