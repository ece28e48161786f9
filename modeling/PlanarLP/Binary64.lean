set_option autoImplicit false

-- A finite double is `± mantissa * 2 ^ exponent`, so rounding and printing are done on naturals.
namespace PlanarLP

inductive Binary64 where
  | finite (negative : Bool) (mantissa : Nat) (exponent : Int)
  | infinite (negative : Bool)
  | nan
deriving DecidableEq, Repr

namespace Binary64

def leadingBit : Nat := 0x10000000000000

def ofBits (bits : Nat) : Binary64 :=
  let negative := bits / leadingBit / 0x800 % 2 == 1
  let biased : Nat := bits / leadingBit % 0x800
  let fraction : Nat := bits % leadingBit
  if biased = 2047 then if fraction = 0 then .infinite negative else .nan
  else if biased = 0 then .finite negative fraction (-1074)
  else .finite negative (leadingBit + fraction) (biased - 1075)

def ofFloat (x : Float) : Binary64 := ofBits x.toBits.toNat

def nearestHalfUp (numerator denominator : Nat) : Nat :=
  (2 * numerator + denominator) / (2 * denominator)

def nearestHalfEven (numerator denominator : Nat) : Nat :=
  let floor := numerator / denominator
  let rest := 2 * (numerator % denominator)
  if rest < denominator then floor
  else if denominator < rest then floor + 1
  else if floor % 2 = 0 then floor else floor + 1

def round (x : Float) : Float :=
  match ofFloat x with
  | .finite negative mantissa exponent =>
      if 0 ≤ exponent then x
      else
        let size := Float.ofNat (nearestHalfUp mantissa (Nat.pow 2 (-exponent).toNat))
        if negative then -size else size
  | _ => x

end Binary64

end PlanarLP
