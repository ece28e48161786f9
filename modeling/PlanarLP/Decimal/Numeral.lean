set_option autoImplicit false

namespace PlanarLP

structure Decimal where
  digits : Nat
  exponent : Int
deriving DecidableEq, Repr

namespace Decimal

def numeral (n : Nat) : List Char := Nat.toDigits 10 n

def zeros (n : Nat) : List Char := List.replicate n '0'

def pointPlace (d : Decimal) : Int := (numeral d.digits).length + d.exponent

def whole (d : Decimal) : List Char :=
  let shown := numeral d.digits
  if 0 ≤ d.exponent then shown ++ zeros d.exponent.toNat
  else if 0 < d.pointPlace then shown.take d.pointPlace.toNat
  else ['0']

def fraction (d : Decimal) : List Char :=
  let shown := numeral d.digits
  if 0 ≤ d.exponent then []
  else if 0 < d.pointPlace then shown.drop d.pointPlace.toNat
  else zeros (-d.pointPlace).toNat ++ shown

def positional (d : Decimal) : List Char :=
  d.whole ++ if d.fraction.isEmpty then [] else '.' :: d.fraction

end Decimal

structure Numeral where
  negative : Bool
  whole : List Char
  fraction : Option (List Char)
  exponent : Option Int
deriving DecidableEq, Repr

def digitsValue (digits : List Char) : Nat :=
  digits.foldl (fun n c => 10 * n + (c.toNat - '0'.toNat)) 0

-- Beyond the range of doubles the power of ten is not computed.
def Decimal.toFloat (d : Decimal) : Float :=
  let place := d.pointPlace
  if d.digits = 0 then 0
  else if 310 < place then 1 / 0
  else if place < -330 then 0
  else Float.ofScientific d.digits (decide (d.exponent < 0)) d.exponent.natAbs

namespace Numeral

def decimal (n : Numeral) : Decimal :=
  let fraction := n.fraction.getD []
  ⟨digitsValue (n.whole ++ fraction), n.exponent.getD 0 - fraction.length⟩

def toFloat (n : Numeral) : Float :=
  let size := n.decimal.toFloat
  if n.negative then -size else size

def digits (cs : List Char) : List Char × List Char := (cs.takeWhile Char.isDigit, cs.dropWhile Char.isDigit)

def sign : List Char → Bool × List Char
  | '-' :: rest => (true, rest)
  | '+' :: rest => (false, rest)
  | cs => (false, cs)

def exponentPart? (cs : List Char) : Option (Int × List Char) :=
  let (negative, cs) := sign cs
  let (shown, rest) := digits cs
  if shown.isEmpty then none
  else some ((if negative then -(digitsValue shown : Int) else digitsValue shown), rest)

end Numeral

end PlanarLP
