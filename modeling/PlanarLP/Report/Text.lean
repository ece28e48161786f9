import PlanarLP.Forms
import PlanarLP.Json.Printer
import PlanarLP.Report.Amount

set_option autoImplicit false

namespace PlanarLP

namespace Report

def padRight (width : Nat) (s : String) : String := s ++ String.ofList (List.replicate (width - s.length) ' ')
def padLeft (width : Nat) (s : String) : String := String.ofList (List.replicate (width - s.length) ' ') ++ s

def constraintLine (number : Nat) (c : Constraint Float) : String :=
  "Constraint " ++ toString number ++ ": " ++ amount c.boundary.a ++ "x + " ++ amount c.boundary.b ++ "y " ++
    c.direction.symbol ++ " " ++ amount c.boundary.c

def objectiveLine (o : Objective Float) : String := "Objective: Z = " ++ amount o.g ++ "x + " ++ amount o.h ++ "y"

def problemLines (problem : Problem Float) : List String :=
  (problem.constraints.zipIdx 1).map (fun (c, number) => constraintLine number c) ++
    [objectiveLine problem.objective, ""]

def tableRow (place coordinates value : String) : String :=
  padRight 45 place ++ " " ++ padRight 25 coordinates ++ " " ++ padLeft 15 value

def vertexRow (v : Vertex Float) : String := tableRow v.origin.label (pointText v.point) (amount v.value)

def vertexTable (vertices : List (Vertex Float)) : List String :=
  [tableRow "Vertex" "Coordinates" "Z", String.ofList (List.replicate 87 '-')] ++ vertices.map vertexRow

def extremumLine (name : String) (e : Extremum Float) : String :=
  name ++ ": " ++ pointText e.point ++ "  Z = " ++ amount e.value

def solutionLines (solution : Solution Float) : List String :=
  match solution.status with
  | .infeasible => ["Status: INFEASIBLE", "No point satisfies all constraints."]
  | .optimal =>
      ["Status: OPTIMAL", ""] ++ vertexTable solution.vertices ++ [""] ++
        solution.maximum.toList.map (extremumLine "Maximum") ++
        solution.minimum.toList.map (extremumLine "Minimum")

def lines (problem : Problem Float) (solution : Solution Float) : List String :=
  problemLines problem ++ solutionLines solution

def text (problem : Problem Float) (solution : Solution Float) : String :=
  String.join ((lines problem solution).map (· ++ "\n"))

def document (goal : Goal) (problem : Problem Float) (solution : Solution Float) (plot : Option (Plot Float)) : Json :=
  .record ([("goal", Json.Form.write goal), ("problem", problem.json), ("solution", Json.Form.write solution)] ++
    plot.toList.map fun plot => ("plot", Json.Form.write plot))

def documentText (goal : Goal) (problem : Problem Float) (solution : Solution Float) (plot : Option (Plot Float)) :
    String :=
  (document goal problem solution plot).pretty

end Report

end PlanarLP
