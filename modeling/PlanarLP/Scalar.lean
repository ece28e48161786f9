import PlanarLP.Binary64

set_option autoImplicit false

namespace PlanarLP

class Scalar (α : Type) where
  zero : Zero α
  add : Add α
  sub : Sub α
  mul : Mul α
  div : Div α
  neg : Neg α
  lt : LT α
  le : LE α
  beq : BEq α
  decidableLT : DecidableLT α
  decidableLE : DecidableLE α
  ofDecimal (digits places : Nat) : α
  abs : α → α
  round : α → α
  isFinite : α → Bool

namespace Scalar

variable {α : Type} [Scalar α]

-- Low priorities, so that a concrete type keeps its own instances.
instance (priority := 50) : Zero α := Scalar.zero
instance (priority := 50) : Add α := Scalar.add
instance (priority := 50) : Sub α := Scalar.sub
instance (priority := 50) : Mul α := Scalar.mul
instance (priority := 50) : Div α := Scalar.div
instance (priority := 50) : Neg α := Scalar.neg
instance (priority := 50) : LT α := Scalar.lt
instance (priority := 50) : LE α := Scalar.le
instance (priority := 50) : BEq α := Scalar.beq
instance (priority := 50) : DecidableLT α := Scalar.decidableLT
instance (priority := 50) : DecidableLE α := Scalar.decidableLE

def natural (n : Nat) : α := ofDecimal n 0

-- Of equal numbers the first is taken; of a number and a NaN, the number.
def max (a b : α) : α := if b ≤ a then a else if b == b then b else a

def min (a b : α) : α := if a ≤ b then a else if b == b then b else a

def clamp (top v : α) : α := if v < 0 then 0 else if top < v then top else v

-- Adding zero makes the two zeros one.
def hundredths (v : α) : α := round (v * natural 100) / natural 100 + 0

end Scalar

instance : Scalar Float where
  zero := ⟨0⟩
  add := instAddFloat
  sub := instSubFloat
  mul := instMulFloat
  div := instDivFloat
  neg := instNegFloat
  lt := instLTFloat
  le := instLEFloat
  beq := instBEqFloat
  decidableLT := Float.decLt
  decidableLE := Float.decLe
  ofDecimal digits places := Float.ofScientific digits true places
  abs := Float.abs
  round := Binary64.round
  isFinite := Float.isFinite

def roundRat (x : Rat) : Rat :=
  if 0 ≤ x then Rat.ofInt (x + mkRat 1 2).floor else Rat.neg (Rat.ofInt (Rat.neg x + mkRat 1 2).floor)

instance : Scalar Rat where
  zero := ⟨0⟩
  add := Rat.instAdd
  sub := Rat.instSub
  mul := Rat.instMul
  div := Rat.instDiv
  neg := Rat.instNeg
  lt := Rat.instLT
  le := Rat.instLE
  beq := instBEqOfDecidableEq
  decidableLT := Rat.instDecidableLt
  decidableLE := Rat.instDecidableLe
  ofDecimal digits places := mkRat digits (Nat.pow 10 places)
  abs := Rat.abs
  round := roundRat
  isFinite _ := true

end PlanarLP
