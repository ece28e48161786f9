import PlanarLP.Binary64
import PlanarLP.Decimal.Numeral

set_option autoImplicit false

namespace PlanarLP

inductive Tie where
  | toEven
  | up
deriving DecidableEq, Repr

-- The interval that reads back as a positive double, in quarters of its last place, and the finest power of
-- ten to be tried.
structure Neighbourhood where
  value : Nat
  below : Nat
  above : Nat
  closed : Bool
  finest : Int
  unit : Nat
deriving DecidableEq, Repr

namespace Neighbourhood

-- Below a power of two doubles lie twice as dense, so there the interval is narrower.
def ofDouble (mantissa : Nat) (exponent : Int) : Neighbourhood :=
  let narrow := mantissa = Binary64.leadingBit ∧ -1074 < exponent
  -- 0.30103 is the decimal logarithm of two; eighteen digits below the leading place are more than enough
  let top := ((Nat.log2 mantissa : Int) + exponent + 1) * 30103 / 100000 + 1
  let finest := top - 18
  let grain := Nat.pow 2 (exponent - 2).toNat * Nat.pow 10 (-finest).toNat
  { value := 4 * mantissa * grain
    below := (if narrow then 1 else 2) * grain
    above := 2 * grain
    closed := mantissa % 2 == 0
    finest
    unit := Nat.pow 2 (2 - exponent).toNat * Nat.pow 10 finest.toNat }

def within (n : Neighbourhood) (distance reach : Nat) : Bool :=
  decide (distance < reach) || (n.closed && distance == reach)

def multiple? (n : Neighbourhood) (tie : Tie) (step : Nat) : Option Nat :=
  let lower := n.value / step
  let down := n.value % step
  let up := step - down
  match n.within down n.below, n.within up n.above with
  | true, false => some lower
  | false, true => some (lower + 1)
  | false, false => none
  | true, true =>
      if down < up then some lower
      else if up < down then some (lower + 1)
      else if tie = .toEven ∧ lower % 2 = 0 then some lower
      else some (lower + 1)

def search (n : Neighbourhood) (tie : Tie) : Nat → Decimal
  | 0 => ⟨(n.multiple? tie n.unit).getD (n.value / n.unit), n.finest⟩
  | level + 1 =>
      match n.multiple? tie (n.unit * Nat.pow 10 (level + 1)) with
      | some digits => ⟨digits, n.finest + (level + 1 : Nat)⟩
      | none => n.search tie level

end Neighbourhood

def Decimal.shortest (tie : Tie) (mantissa : Nat) (exponent : Int) : Decimal :=
  if mantissa = 0 then ⟨0, 0⟩ else (Neighbourhood.ofDouble mantissa exponent).search tie 18

def Binary64.plain : Binary64 → List Char
  | .finite negative mantissa exponent =>
      (if negative then ['-'] else []) ++ (Decimal.shortest .up mantissa exponent).positional
  | .infinite negative => if negative then "-inf".toList else "inf".toList
  | .nan => "NaN".toList

def plainText (x : Float) : String := String.ofList (Binary64.ofFloat x).plain

end PlanarLP
