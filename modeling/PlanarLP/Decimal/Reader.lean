import PlanarLP.Decimal.Numeral

set_option autoImplicit false

namespace PlanarLP

inductive NumberFault where
  | empty
  | malformed
deriving DecidableEq, Repr

def NumberFault.message : NumberFault → String
  | .empty => "cannot parse float from empty string"
  | .malformed => "invalid float literal"

namespace Numeral

def mantissa? (cs : List Char) : Option (List Char × Option (List Char) × List Char) :=
  let (whole, rest) := digits cs
  match rest with
  | '.' :: rest =>
      let (fraction, rest) := digits rest
      if whole.isEmpty && fraction.isEmpty then none else some (whole, some fraction, rest)
  | _ => if whole.isEmpty then none else some (whole, none, rest)

def exponent? : List Char → Option (Option Int)
  | [] => some none
  | c :: rest =>
      if c = 'e' ∨ c = 'E' then
        match exponentPart? rest with
        | some (exponent, []) => some (some exponent)
        | _ => none
      else none

def ofUnsigned? (negative : Bool) (cs : List Char) : Option Numeral := do
  let (whole, fraction, rest) ← mantissa? cs
  let exponent ← exponent? rest
  pure { negative, whole, fraction, exponent }

end Numeral

def namedNumber? (cs : List Char) : Option Float :=
  let name := String.ofList (cs.map Char.toLower)
  if name = "inf" ∨ name = "infinity" then some (1 / 0)
  else if name = "nan" then some (0 / 0)
  else none

def readNumber (text : List Char) : Except NumberFault Float :=
  if text.isEmpty then .error .empty
  else
    let (negative, cs) := Numeral.sign text
    match namedNumber? cs, Numeral.ofUnsigned? negative cs with
    | some size, _ => .ok (if negative then -size else size)
    | none, some numeral => .ok numeral.toFloat
    | none, none => .error .malformed

end PlanarLP
