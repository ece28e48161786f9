import PlanarLP.Json.Reader
import PlanarLP.Json.Record
import PlanarLP.Optimum
import PlanarLP.Plot

set_option autoImplicit false

namespace PlanarLP

open Json (Form)

instance : Form (Point Float) where
  write p := .record [("x", Form.write p.x), ("y", Form.write p.y)]
  read? json := do
    let members ← json.members? ["x", "y"] false
    pure ⟨← members.field? "x", ← members.field? "y"⟩

instance : Form (Line Float) where
  write l := .record [("a", Form.write l.a), ("b", Form.write l.b), ("c", Form.write l.c)]
  read? json := do
    let members ← json.members? ["a", "b", "c"] false
    pure ⟨← members.field? "a", ← members.field? "b", ← members.field? "c"⟩

instance : Form Axis where
  write axis := .text axis.name
  read? := Json.named? Axis.name [.x, .y]

instance : Form Direction where
  write direction := .text direction.name
  read? := Json.named? Direction.name [.le, .ge]

instance : Form Goal where
  write goal := .text goal.name
  read? := Json.named? Goal.name [.maximize, .minimize, .both]

instance : Form Status where
  write status := .text status.name
  read? := Json.named? Status.name [.optimal, .infeasible]

instance : Form (Constraint Float) where
  write c := .record
    [("a", Form.write c.boundary.a), ("b", Form.write c.boundary.b), ("c", Form.write c.boundary.c),
      ("direction", Form.write c.direction)]
  read? json := do
    let members ← json.members? ["a", "b", "c", "direction"] false
    pure ⟨⟨← members.field? "a", ← members.field? "b", ← members.field? "c"⟩, ← members.field? "direction"⟩

instance : Form (Objective Float) where
  write o := .record [("g", Form.write o.g), ("h", Form.write o.h)]
  read? json := do
    let members ← json.members? ["g", "h"] false
    pure ⟨← members.field? "g", ← members.field? "h"⟩

instance : Form (Bounds Float) where
  write b := .record [("x_max", Form.write b.xMax), ("y_max", Form.write b.yMax)]
  read? json := do
    let members ← json.members? ["x_max", "y_max"] false
    pure ⟨← members.field? "x_max", ← members.field? "y_max"⟩

instance : Form Limit where
  write
    | .constraint index => .record [("constraint", Json.ofIndex index)]
    | .bound => .text "bound"
  read? json := do
    let (name, payload) ← json.choice?
    match name, payload with
    | "constraint", some index => Limit.constraint <$> index.index?
    | "bound", none | "bound", some .null => some .bound
    | _, _ => none

instance : Form Origin where
  write
    | .intercept .x limit => .record [("x_axis", Form.write limit)]
    | .intercept .y limit => .record [("y_axis", Form.write limit)]
    | .intersection i j => .record [("intersection", .array [Json.ofIndex i, Json.ofIndex j])]
  read? json := do
    let (name, payload) ← json.choice?
    match name, payload with
    | "x_axis", some limit => Origin.intercept .x <$> Form.read? limit
    | "y_axis", some limit => Origin.intercept .y <$> Form.read? limit
    | "intersection", some (.array [i, j]) => Origin.intersection <$> i.index? <*> j.index?
    | _, _ => none

instance : Form (Vertex Float) where
  write v := .record
    [("point", Form.write v.point), ("objective_value", Form.write v.value), ("provenance", Form.write v.origin)]
  read? json := do
    let members ← json.members? ["point", "objective_value", "provenance"] false
    pure ⟨← members.field? "point", ← members.field? "objective_value", ← members.field? "provenance"⟩

instance : Form (Extremum Float) where
  write e := .record
    [("index", Json.ofIndex e.index), ("point", Form.write e.point), ("objective_value", Form.write e.value)]
  read? json := do
    let members ← json.members? ["index", "point", "objective_value"] false
    pure ⟨← (members.lookup "index").bind Json.index?, ← members.field? "point", ← members.field? "objective_value"⟩

instance : Form (Solution Float) where
  write s := .record
    [("status", Form.write s.status), ("vertices", Form.write s.vertices),
      ("maximum", Json.writeOptional s.maximum), ("minimum", Json.writeOptional s.minimum)]
  read? json := do
    let members ← json.members? ["status", "vertices", "maximum", "minimum"] false
    pure ⟨← members.field? "status", ← members.field? "vertices", ← members.optional? "maximum",
      ← members.optional? "minimum"⟩

instance : Form (Optimum Float) where
  write o := .record [("x", Form.write o.x), ("y", Form.write o.y), ("z", Form.write o.z)]
  read? json := do
    let members ← json.members? ["x", "y", "z"] false
    pure ⟨← members.field? "x", ← members.field? "y", ← members.field? "z"⟩

instance : Form (Extrema Float) where
  write e := .record [("maximum", Form.write e.maximum), ("minimum", Form.write e.minimum)]
  read? json := do
    let members ← json.members? ["maximum", "minimum"] false
    pure ⟨← members.field? "maximum", ← members.field? "minimum"⟩

instance : Form (Polyline Float) where
  write line := .record [("points", Form.write line.points)]
  read? json := do
    let members ← json.members? ["points"] false
    pure ⟨← members.field? "points"⟩

instance : Form (Column Float) where
  write column := .record
    [("x", Form.write column.x), ("lower", Form.write column.lower), ("upper", Form.write column.upper)]
  read? json := do
    let members ← json.members? ["x", "lower", "upper"] false
    pure ⟨← members.field? "x", ← members.field? "lower", ← members.field? "upper"⟩

instance : Form (Isoline Float) where
  write isoline := .record [("level", Form.write isoline.level), ("line", Form.write isoline.line)]
  read? json := do
    let members ← json.members? ["level", "line"] false
    pure ⟨← members.field? "level", ← members.field? "line"⟩

instance : Form (Plot Float) where
  write plot := .record
    [("bounds", Form.write plot.bounds), ("constraint_lines", Form.write plot.boundaries),
      ("feasible_band", Form.write plot.band), ("isolines", Form.write plot.isolines),
      ("optimal_lines", Form.write plot.optimalLines), ("vertices", Form.write plot.vertices),
      ("maximum", Json.writeOptional plot.maximum), ("minimum", Json.writeOptional plot.minimum)]
  read? json := do
    let members ← json.members?
      ["bounds", "constraint_lines", "feasible_band", "isolines", "optimal_lines", "vertices", "maximum",
        "minimum"] false
    pure ⟨← members.field? "bounds", ← members.field? "constraint_lines", ← members.field? "feasible_band",
      ← members.field? "isolines", ← members.field? "optimal_lines", ← members.field? "vertices",
      ← members.optional? "maximum", ← members.optional? "minimum"⟩

def Problem.json (problem : Problem Float) : Json := .record
  [("constraints", Form.write problem.constraints), ("objective", Form.write problem.objective),
    ("bounds", Form.write problem.bounds)]

structure ProblemFile where
  goal : Goal
  first : Constraint Float
  second : Constraint Float
  objective : Objective Float
  bounds : Bounds Float

namespace ProblemFile

def ofJson? (json : Json) : Option ProblemFile := do
  let members ← json.members? ["goal", "constraints", "objective", "bounds"] true
  let constraints : List (Constraint Float) ← members.field? "constraints"
  match constraints with
  | [first, second] =>
      pure ⟨← members.field? "goal", first, second, ← members.field? "objective", ← members.field? "bounds"⟩
  | _ => none

def parse? (text : String) : Option ProblemFile := (Json.parse? text).bind ofJson?

def problem (file : ProblemFile) : Except (Fault Float) (Problem Float) :=
  Problem.make file.first file.second file.objective file.bounds

end ProblemFile

end PlanarLP
