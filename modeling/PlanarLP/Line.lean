import PlanarLP.Scalar

set_option autoImplicit false

namespace PlanarLP

inductive Axis where
  | x
  | y
deriving DecidableEq, Repr

def Axis.name : Axis → String
  | .x => "x"
  | .y => "y"

structure Point (α : Type) where
  x : α
  y : α
deriving DecidableEq, Repr

namespace Point

variable {α : Type} [Scalar α]

def onAxis : Axis → α → Point α
  | .x, v => ⟨v, 0⟩
  | .y, v => ⟨0, v⟩

def rounded (p : Point α) : Point α := ⟨Scalar.hundredths p.x, Scalar.hundredths p.y⟩

def coincides (p q : Point α) : Bool :=
  p.rounded.x == q.rounded.x && p.rounded.y == q.rounded.y

end Point

structure Line (α : Type) where
  a : α
  b : α
  c : α
deriving DecidableEq, Repr

inductive Line.Shape (α : Type) where
  | graph (intercept slope : α)
  | vertical (x : α)
  | empty
deriving DecidableEq, Repr

namespace Line

def coefficient {α : Type} (l : Line α) : Axis → α
  | .x => l.a
  | .y => l.b

variable {α : Type} [Scalar α]

def value (l : Line α) (p : Point α) : α := l.a * p.x + l.b * p.y

def shape (l : Line α) : Shape α :=
  if l.b != 0 then .graph (l.c / l.b) (-l.a / l.b)
  else if l.a != 0 then .vertical (l.c / l.a)
  else .empty

-- A line that is no function of `x` counts as the zero function.
def yAt (l : Line α) (x : α) : α :=
  match l.shape with
  | .graph intercept slope => intercept + slope * x
  | .vertical _ | .empty => 0

def intercept? (l : Line α) (axis : Axis) : Option α :=
  if l.coefficient axis != 0 then some (l.c / l.coefficient axis) else none

def determinant (l m : Line α) : α := l.a * m.b - m.a * l.b

def magnitude (l : Line α) : α := Scalar.max (Scalar.abs l.a) (Scalar.abs l.b)

def isParallel (l m : Line α) : Bool :=
  let scale := l.magnitude * m.magnitude
  scale == 0 || decide (Scalar.abs (l.determinant m) ≤ Scalar.ofDecimal 1 12 * scale)

def intersection? (l m : Line α) : Option (Point α) :=
  if l.isParallel m then none
  else
    let det := l.determinant m
    some ⟨(l.c * m.b - m.c * l.b) / det, (l.a * m.c - m.a * l.c) / det⟩

end Line

end PlanarLP
