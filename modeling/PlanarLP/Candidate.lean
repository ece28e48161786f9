import PlanarLP.Problem

set_option autoImplicit false

namespace PlanarLP

inductive Limit where
  | constraint (index : Nat)
  | bound
deriving DecidableEq, Repr

inductive Origin where
  | intercept (axis : Axis) (limit : Limit)
  | intersection (i j : Nat)
deriving DecidableEq, Repr

-- Positions are shown counting from one, in 64 bits.
def positionLabel (index : Nat) : String := "constraint " ++ toString ((index + 1) % UInt64.size)

def Limit.label : Limit → String
  | .constraint index => positionLabel index
  | .bound => "plot bound"

def Origin.label : Origin → String
  | .intercept .x limit => limit.label ++ " x-axis intercept"
  | .intercept .y limit => limit.label ++ " y-axis intercept"
  | .intersection i j => positionLabel i ++ " / " ++ positionLabel j ++ " intersection"

structure Candidate (α : Type) where
  point : Point α
  origin : Origin
deriving DecidableEq, Repr

inductive Omission (α : Type) where
  | doesNotLimit (index : Nat) (coefficient : α)
  | noIntercept (axis : Axis) (index : Nat)
  | parallel (i j : Nat)
deriving DecidableEq, Repr

def pairs {β : Type} : List β → List (β × β)
  | [] => []
  | a :: l => l.map (a, ·) ++ pairs l

def firstBest {α : Type} (keeps : α → α → Bool) (entries : List (α × Limit)) : Option (α × Limit) :=
  entries.foldl (fun best entry =>
    match best with
    | some kept => if keeps kept.1 entry.1 then best else some entry
    | none => some entry) none

variable {α : Type} [Scalar α]

-- Only positive coefficients: `-x + y <= 2` meets the x-axis at -2 and bounds x from below.
def axisCrossings (constraints : List (Constraint α)) (axis : Axis) : List (α × Limit) :=
  constraints.zipIdx.filterMap fun (c, i) =>
    if c.boundary.coefficient axis ≤ 0 then none
    else (c.boundary.intercept? axis).map (·, .constraint i)

def tightest? (constraints : List (Constraint α)) (bounds : Bounds α) (direction : Direction) (axis : Axis) :
    Option (α × Limit) :=
  match direction with
  | .le => firstBest (fun a b => decide (a ≤ b)) (axisCrossings constraints axis ++ [(bounds.top axis, .bound)])
  | .ge => firstBest (fun a b => decide (b ≤ a)) (axisCrossings constraints axis)

-- Constraints that all point the same way give one candidate for each axis, the tightest
-- crossing. Mixed directions give every crossing.
def axisCandidates (constraints : List (Constraint α)) (bounds : Bounds α) : List (Candidate α) :=
  match sharedDirection? constraints with
  | some direction => [Axis.x, Axis.y].filterMap fun axis =>
      (tightest? constraints bounds direction axis).map fun (v, limit) =>
        ⟨.onAxis axis v, .intercept axis limit⟩
  | none => constraints.zipIdx.flatMap fun (c, i) => [Axis.x, Axis.y].filterMap fun axis =>
      (c.boundary.intercept? axis).map fun v => ⟨.onAxis axis v, .intercept axis (.constraint i)⟩

def intersections (constraints : List (Constraint α)) : List (Candidate α) :=
  (pairs constraints.zipIdx).filterMap fun ((c, i), (d, j)) =>
    (c.boundary.intersection? d.boundary).map (⟨·, .intersection i j⟩)

def candidates (constraints : List (Constraint α)) (bounds : Bounds α) : List (Candidate α) :=
  axisCandidates constraints bounds ++ intersections constraints

def omissions (constraints : List (Constraint α)) : List (Omission α) :=
  let onAxes :=
    match sharedDirection? constraints with
    | some _ => [Axis.x, Axis.y].flatMap fun axis => constraints.zipIdx.filterMap fun (c, i) =>
        let coefficient := c.boundary.coefficient axis
        if coefficient ≤ 0 then some (.doesNotLimit i coefficient) else none
    | none => constraints.zipIdx.flatMap fun (c, i) => [Axis.x, Axis.y].filterMap fun axis =>
        if (c.boundary.intercept? axis).isNone then some (.noIntercept axis i) else none
  onAxes ++ (pairs constraints.zipIdx).filterMap fun ((c, i), (d, j)) =>
    if (c.boundary.intersection? d.boundary).isNone then some (.parallel i j) else none

end PlanarLP
