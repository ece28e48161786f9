import PlanarLP.Plot

set_option autoImplicit false

namespace PlanarLP

def Point.plainText (p : Point Float) : String :=
  "(" ++ PlanarLP.plainText p.x ++ ", " ++ PlanarLP.plainText p.y ++ ")"

inductive Severity where
  | trace
  | debug
deriving DecidableEq, Repr

def Severity.name : Severity → String
  | .trace => "trace"
  | .debug => "debug"

inductive Event where
  | omitted (omission : Omission Float)
  | decided (decision : Decision Float)
  | noVertex
  | maximum (extremum : Extremum Float)
  | minimum (extremum : Extremum Float)
  | flat (line : Line Float)

inductive Detail where
  | number (value : Float)
  | index (value : Nat)
  | text (value : String)
deriving Repr

namespace Event

def severity : Event → Severity
  | .omitted _ | .flat _ => .trace
  | .decided _ | .noVertex | .maximum _ | .minimum _ => .debug

def message : Event → String
  | .omitted (.doesNotLimit _ _) => "constraint does not limit this axis"
  | .omitted (.noIntercept axis _) => "no " ++ axis.name ++ "-axis crossing"
  | .omitted (.parallel _ _) => "constraints are parallel, skipping intersection"
  | .decided (.infeasible _) => "rejected infeasible candidate"
  | .decided (.displaced _ _) => "rejected candidate after clamping"
  | .decided (.duplicate _ _) => "skipped duplicate vertex"
  | .decided (.accepted _) => "accepted vertex"
  | .noVertex => "no feasible vertex"
  | .maximum _ => "maximum"
  | .minimum _ => "minimum"
  | .flat _ => "degenerate line, using zero function"

def placed (point : Point Float) (origin : Origin) : List (String × Detail) :=
  [("point", .text point.plainText), ("provenance", .text origin.label)]

def reached (extremum : Extremum Float) : List (String × Detail) :=
  [("point", .text extremum.point.plainText), ("z", .number extremum.value)]

def details : Event → List (String × Detail)
  | .omitted (.doesNotLimit index coefficient) => [("constraint", .index index), ("coefficient", .number coefficient)]
  | .omitted (.noIntercept _ index) => [("constraint", .index index)]
  | .omitted (.parallel i j) => [("i", .index i), ("j", .index j)]
  | .decided (.infeasible candidate) => placed candidate.point candidate.origin
  | .decided (.displaced candidate point) | .decided (.duplicate candidate point) => placed point candidate.origin
  | .decided (.accepted vertex) => placed vertex.point vertex.origin ++ [("objective_value", .number vertex.value)]
  | .noVertex => []
  | .maximum extremum | .minimum extremum => reached extremum
  | .flat line => [("a", .number line.a), ("b", .number line.b)]

end Event

def Line.readings (l : Line Float) : List Event :=
  match l.shape with
  | .graph _ _ => []
  | .vertical _ | .empty => [.flat l]

def Line.samplings (l : Line Float) (count : Nat) : List Event := (List.replicate count l.readings).flatten

namespace Problem

def screenings (problem : Problem Float) (tolerance : Float) : List Event :=
  (omissions problem.constraints).map .omitted ++ (problem.decisions tolerance).map .decided

def journal (problem : Problem Float) (goal : Goal) (tolerance : Float) : List Event :=
  let solution := problem.solve goal tolerance
  problem.screenings tolerance ++
    if solution.vertices.isEmpty then [.noVertex]
    else solution.maximum.toList.map .maximum ++ solution.minimum.toList.map .minimum

def drawings (problem : Problem Float) (solution : Solution Float) (goal : Goal) (samples : Nat) : List Event :=
  let lines := problem.constraints.map (·.boundary) ++
    (problem.targetLevels solution goal ++ solution.optimalLevels).map problem.objective.isoline
  lines.flatMap (·.samplings (grid problem.bounds.xMax samples).length)

end Problem

end PlanarLP
