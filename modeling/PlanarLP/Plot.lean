import PlanarLP.Solution

set_option autoImplicit false

namespace PlanarLP

variable {α : Type} [Scalar α]

-- The origin, the fourth corner of the box, is left out.
def Objective.ceiling (o : Objective α) (b : Bounds α) : α :=
  Scalar.max (Scalar.max (o.g * b.xMax) (o.h * b.yMax)) (o.g * b.xMax + o.h * b.yMax)

namespace Goal

def levelCount : Goal → Nat
  | .maximize => 30
  | .minimize => 40
  | .both => 20

def levelSpan (goal : Goal) (o : Objective α) (b : Bounds α) (target : α) : α × α :=
  match goal with
  | .maximize => (target * Scalar.ofDecimal 1 1, target)
  | .minimize => (target, o.ceiling b)
  | .both => (0, target)

end Goal

def isolineLevels (goal : Goal) (o : Objective α) (b : Bounds α) (target : α) : List α :=
  let (start, stop) := goal.levelSpan o b target
  let step := (stop - start) / Scalar.natural goal.levelCount
  if step == 0 || !Scalar.isFinite step then []
  else (List.range goal.levelCount).map fun i => start + step * Scalar.natural i

structure Polyline (α : Type) where
  points : List (Point α)
deriving DecidableEq, Repr

structure Column (α : Type) where
  x : α
  lower : α
  upper : α
deriving DecidableEq, Repr

structure Isoline (α : Type) where
  level : α
  line : Polyline α
deriving DecidableEq, Repr

structure Plot (α : Type) where
  bounds : Bounds α
  boundaries : List (Polyline α)
  band : List (Column α)
  isolines : List (Isoline α)
  optimalLines : List (Isoline α)
  vertices : List (Point α)
  maximum : Option (Point α)
  minimum : Option (Point α)
deriving DecidableEq, Repr

def Solution.target {α : Type} (solution : Solution α) : Goal → Option (Extremum α)
  | .minimize => solution.minimum
  | .maximize | .both => solution.maximum

def Solution.optimalLevels {α : Type} (solution : Solution α) : List α :=
  (solution.maximum.toList ++ solution.minimum.toList).map (·.value)

def grid (top : α) (samples : Nat) : List α :=
  let n := Nat.max samples 2
  let step := top / Scalar.natural (n - 1)
  (List.range n).map fun i => step * Scalar.natural i

def Line.sample (l : Line α) (xs : List α) : Polyline α := ⟨xs.map fun x => ⟨x, l.yAt x⟩⟩

-- Dividing by a negative `b` turns the inequality round.
def Constraint.capsY (c : Constraint α) : Bool := (c.direction == .le) == decide (0 < c.boundary.b)

def Constraint.restrict? (c : Constraint α) (x : α) (extent : α × α) : Option (α × α) :=
  match c.boundary.shape with
  | .graph intercept slope =>
      let y := intercept + slope * x
      some (if c.capsY then (extent.1, Scalar.min extent.2 y) else (Scalar.max extent.1 y, extent.2))
  | .vertical _ | .empty => if c.slack ⟨x, 0⟩ < 0 then none else some extent

def extent? (constraints : List (Constraint α)) (bounds : Bounds α) (x : α) : Option (α × α) :=
  (constraints.foldlM (fun extent (c : Constraint α) => c.restrict? x extent) (0, bounds.yMax)).filter
    fun (lower, upper) => decide (lower ≤ upper)

def feasibleBand (constraints : List (Constraint α)) (bounds : Bounds α) (xs : List α) : List (Column α) :=
  xs.filterMap fun x => (extent? constraints bounds x).map fun (lower, upper) => ⟨x, lower, upper⟩

def Polyline.clip (line : Polyline α) (extents : List (Option (α × α))) : Polyline α :=
  ⟨(line.points.zip extents).filterMap fun (p, extent) => extent.bind fun (lower, upper) =>
    if lower ≤ p.y ∧ p.y ≤ upper then some p else none⟩

namespace Problem

def targetLevels (problem : Problem α) (solution : Solution α) (goal : Goal) : List α :=
  match solution.target goal with
  | some target => isolineLevels goal problem.objective problem.bounds target.value
  | none => []

def plot (problem : Problem α) (solution : Solution α) (goal : Goal) (samples : Nat) : Plot α :=
  let xs := grid problem.bounds.xMax samples
  let extents := xs.map (extent? problem.constraints problem.bounds)
  let isoline (level : α) := (problem.objective.isoline level).sample xs
  { bounds := problem.bounds
    boundaries := problem.constraints.map (·.boundary.sample xs)
    band := feasibleBand problem.constraints problem.bounds xs
    isolines := (problem.targetLevels solution goal).map fun level =>
      ⟨level, if goal = .minimize then (isoline level).clip extents else isoline level⟩
    optimalLines := solution.optimalLevels.map fun level => ⟨level, isoline level⟩
    vertices := solution.vertices.map (·.point)
    maximum := solution.maximum.map (·.point)
    minimum := solution.minimum.map (·.point) }

end Problem

end PlanarLP
