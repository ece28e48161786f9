import PlanarLP.Decimal.Shortest
import PlanarLP.Json.Token

set_option autoImplicit false

namespace PlanarLP

namespace Decimal

def jsonNumeral (negative : Bool) (d : Decimal) : Numeral :=
  if -5 < d.pointPlace ∧ d.pointPlace ≤ 16 then
    { negative
      whole := d.whole
      fraction := some (if d.fraction.isEmpty then ['0'] else d.fraction)
      exponent := none }
  else
    let shown := numeral d.digits
    { negative
      whole := shown.take 1
      fraction := if shown.length = 1 then none else some (shown.drop 1)
      exponent := some (d.pointPlace - 1) }

end Decimal

namespace Numeral

def takeWord (significand : Nat) : List Char → Nat × List Char
  | [] => (significand, [])
  | c :: rest =>
      let longer := 10 * significand + (c.toNat - '0'.toNat)
      if longer < UInt64.size then takeWord longer rest else (significand, c :: rest)

-- Digits before the point that do not fit the word still raise the power; those behind it are dropped.
def word (n : Numeral) : Nat × Int :=
  let fraction := n.fraction.getD []
  let (significand, skipped) := takeWord 0 n.whole
  let (significand, dropped) := takeWord significand fraction
  (significand, n.exponent.getD 0 + skipped.length - (fraction.length - dropped.length : Nat))

def powerOfTen (n : Nat) : Float := Float.ofScientific 1 false n

-- A second step where the power of ten is no double; beyond two steps nothing is left of a word.
def divided (x : Float) (places : Nat) : Float :=
  if places ≤ 308 then x / powerOfTen places
  else if places ≤ 616 then x / powerOfTen 308 / powerOfTen (places - 308)
  else 0

def scaled? (significand : Nat) (exponent : Int) : Option Float :=
  let x := Float.ofNat significand
  if exponent < 0 then some (divided x exponent.natAbs)
  else if significand = 0 then some 0
  else if 308 < exponent then none
  else
    let size := x * powerOfTen exponent.toNat
    if size.isFinite then some size else none

def double? (n : Numeral) : Option Float :=
  let (significand, exponent) := n.word
  (scaled? significand exponent).map fun size => if n.negative then -size else size

def index? (n : Numeral) : Option Nat :=
  let value := digitsValue n.whole
  if n.negative || n.fraction.isSome || n.exponent.isSome || decide (UInt64.size ≤ value) then none else some value

def ofNat (n : Nat) : Numeral := { negative := false, whole := Decimal.numeral n, fraction := none, exponent := none }

end Numeral

namespace Json

def ofDouble (x : Float) : Json :=
  match Binary64.ofFloat x with
  | .finite negative mantissa exponent =>
      .number ((Decimal.shortest .toEven mantissa exponent).jsonNumeral negative)
  | _ => .null

def double? : Json → Option Float
  | .number numeral => numeral.double?
  | _ => none

def ofIndex (n : Nat) : Json := .number (.ofNat n)

def index? : Json → Option Nat
  | .number numeral => numeral.index?
  | _ => none

end Json

end PlanarLP
