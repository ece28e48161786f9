import PlanarLP.Decimal.Shortest
import PlanarLP.Line

set_option autoImplicit false

namespace PlanarLP

inductive Direction where
  | le
  | ge
deriving DecidableEq, Repr

def Direction.name : Direction → String
  | .le => "le"
  | .ge => "ge"

def Direction.symbol : Direction → String
  | .le => "<="
  | .ge => ">="

structure Constraint (α : Type) where
  boundary : Line α
  direction : Direction
deriving DecidableEq, Repr

namespace Constraint

variable {α : Type} [Scalar α]

def slack (c : Constraint α) (p : Point α) : α :=
  match c.direction with
  | .le => c.boundary.c - c.boundary.value p
  | .ge => c.boundary.value p - c.boundary.c

def Holds (c : Constraint α) (tolerance : α) (p : Point α) : Prop := -tolerance ≤ c.slack p

instance (c : Constraint α) (tolerance : α) (p : Point α) : Decidable (c.Holds tolerance p) :=
  inferInstanceAs (Decidable (-tolerance ≤ c.slack p))

end Constraint

def sharedDirection? {α : Type} : List (Constraint α) → Option Direction
  | [] => none
  | c :: cs => if cs.all (·.direction == c.direction) then some c.direction else none

structure Bounds (α : Type) where
  xMax : α
  yMax : α
deriving DecidableEq, Repr

namespace Bounds

def top {α : Type} (b : Bounds α) : Axis → α
  | .x => b.xMax
  | .y => b.yMax

variable {α : Type} [Scalar α]

def Contains (b : Bounds α) (tolerance : α) (p : Point α) : Prop :=
  (-tolerance ≤ p.x ∧ p.x ≤ b.xMax + tolerance) ∧ (-tolerance ≤ p.y ∧ p.y ≤ b.yMax + tolerance)

instance (b : Bounds α) (tolerance : α) (p : Point α) : Decidable (b.Contains tolerance p) :=
  inferInstanceAs (Decidable (_ ∧ _))

-- Bounds that were not checked may be no box.
def IsBox (b : Bounds α) : Prop := 0 ≤ b.xMax ∧ 0 ≤ b.yMax

instance (b : Bounds α) : Decidable b.IsBox := inferInstanceAs (Decidable (_ ∧ _))

def clamp (b : Bounds α) (p : Point α) : Point α := ⟨Scalar.clamp b.xMax p.x, Scalar.clamp b.yMax p.y⟩

def clamp? (b : Bounds α) (p : Point α) : Option (Point α) := if b.IsBox then some (b.clamp p) else none

end Bounds

structure Objective (α : Type) where
  g : α
  h : α
deriving DecidableEq, Repr

namespace Objective

def value {α : Type} [Scalar α] (o : Objective α) (p : Point α) : α := o.g * p.x + o.h * p.y

def isoline {α : Type} (o : Objective α) (level : α) : Line α := ⟨o.g, o.h, level⟩

end Objective

inductive Goal where
  | maximize
  | minimize
  | both
deriving DecidableEq, Repr

namespace Goal

def name : Goal → String
  | .maximize => "maximize"
  | .minimize => "minimize"
  | .both => "both"

def seeksMaximum : Goal → Bool
  | .maximize | .both => true
  | .minimize => false

def seeksMinimum : Goal → Bool
  | .minimize | .both => true
  | .maximize => false

end Goal

inductive Coefficient where
  | a1 | b1 | c1 | a2 | b2 | c2 | g | h
deriving DecidableEq, Repr

def Coefficient.name : Coefficient → String
  | .a1 => "a1"
  | .b1 => "b1"
  | .c1 => "c1"
  | .a2 => "a2"
  | .b2 => "b2"
  | .c2 => "c2"
  | .g => "g"
  | .h => "h"

inductive Fault (α : Type) where
  | coefficient (name : Coefficient) (value : α)
  | bound (axis : Axis) (value : α)
deriving DecidableEq, Repr

def Problem.coefficients {α : Type} (first second : Constraint α) (objective : Objective α) :
    List (Coefficient × α) :=
  [(.a1, first.boundary.a), (.b1, first.boundary.b), (.c1, first.boundary.c),
    (.a2, second.boundary.a), (.b2, second.boundary.b), (.c2, second.boundary.c),
    (.g, objective.g), (.h, objective.h)]

variable {α : Type} [Scalar α]

def Bounds.fault? (b : Bounds α) : Option (Fault α) :=
  [Axis.x, Axis.y].findSome? fun axis =>
    if Scalar.isFinite (b.top axis) = false ∨ b.top axis ≤ 0 then some (.bound axis (b.top axis)) else none

def Problem.fault? (first second : Constraint α) (objective : Objective α) (bounds : Bounds α) : Option (Fault α) :=
  ((coefficients first second objective).findSome? fun (name, value) =>
    if Scalar.isFinite value then none else some (.coefficient name value)).or bounds.fault?

structure Problem (α : Type) [Scalar α] where
  first : Constraint α
  second : Constraint α
  objective : Objective α
  bounds : Bounds α
  valid : Problem.fault? first second objective bounds = none

namespace Problem

def make (first second : Constraint α) (objective : Objective α) (bounds : Bounds α) :
    Except (Fault α) (Problem α) :=
  match valid : fault? first second objective bounds with
  | none => .ok { first, second, objective, bounds, valid }
  | some fault => .error fault

def constraints (problem : Problem α) : List (Constraint α) := [problem.first, problem.second]

def Feasible (problem : Problem α) (tolerance : α) (p : Point α) : Prop :=
  problem.bounds.Contains tolerance p ∧ ∀ c ∈ problem.constraints, c.Holds tolerance p

instance (problem : Problem α) (tolerance : α) (p : Point α) : Decidable (problem.Feasible tolerance p) :=
  inferInstanceAs (Decidable (_ ∧ _))

end Problem

inductive Mode where
  | maximize
  | minimize
  | optimize
deriving DecidableEq, Repr

namespace Mode

def directions : Mode → Direction × Direction
  | .maximize => (.le, .le)
  | .minimize => (.ge, .ge)
  | .optimize => (.le, .ge)

def goal : Mode → Goal
  | .maximize => .maximize
  | .minimize => .minimize
  | .optimize => .both

def problem (mode : Mode) (first second : Line α) (objective : Objective α) (bounds : Bounds α) :
    Except (Fault α) (Problem α) :=
  Problem.make ⟨first, mode.directions.1⟩ ⟨second, mode.directions.2⟩ objective bounds

end Mode

def Constraint.text (c : Constraint Float) : String :=
  plainText c.boundary.a ++ "x + " ++ plainText c.boundary.b ++ "y " ++ c.direction.symbol ++ " " ++
    plainText c.boundary.c

def Fault.message : Fault Float → String
  | .coefficient name value => "Coefficient " ++ name.name ++ " must be finite, got " ++ plainText value
  | .bound axis value => axis.name ++ " bound must be a positive finite number, got " ++ plainText value

end PlanarLP
