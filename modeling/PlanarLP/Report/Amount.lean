import PlanarLP.Decimal.Numeral
import PlanarLP.Line

set_option autoImplicit false

namespace PlanarLP

def Binary64.nearestHundredth (mantissa : Nat) (exponent : Int) : Nat :=
  nearestHalfEven (100 * mantissa * Nat.pow 2 exponent.toNat) (Nat.pow 2 (-exponent).toNat)

namespace Report

def grouped : List Char → List Char
  | [] => []
  | c :: rest => if rest.length % 3 = 0 ∧ rest ≠ [] then c :: ',' :: grouped rest else c :: grouped rest

def twoPlaces (hundredths : Nat) : List Char :=
  [Nat.digitChar (hundredths / 10 % 10), Nat.digitChar (hundredths % 10)]

def withoutTrailingZeros (digits : List Char) : List Char := (digits.reverse.dropWhile (· == '0')).reverse

def hundredthsText (hundredths : Nat) : List Char :=
  let fraction := withoutTrailingZeros (twoPlaces (hundredths % 100))
  grouped (Decimal.numeral (hundredths / 100)) ++ if fraction.isEmpty then [] else '.' :: fraction

def rounded (x : Float) : Float := Binary64.round (x * 100) / 100

def amountChars (x : Float) : List Char :=
  let shown := rounded x
  (if shown < 0 then ['-'] else []) ++
    match Binary64.ofFloat shown with
    | .finite _ mantissa exponent => hundredthsText (Binary64.nearestHundredth mantissa exponent)
    | .infinite _ => "inf".toList
    | .nan => "NaN".toList

def amount (x : Float) : String := String.ofList (amountChars x)

def pointText (p : Point Float) : String := "(" ++ amount p.x ++ ", " ++ amount p.y ++ ")"

end Report

end PlanarLP
