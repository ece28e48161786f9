import PlanarLP.Decimal.Reader
import PlanarLP.Text.Hidden

set_option autoImplicit false

namespace PlanarLP

namespace Text

def isBlank (c : Char) : Bool :=
  let n := c.toNat
  decide (0x09 ≤ n ∧ n ≤ 0x0d) || n == 0x20 || n == 0x85 || n == 0xa0 || n == 0x1680 ||
    decide (0x2000 ≤ n ∧ n ≤ 0x200a) || n == 0x2028 || n == 0x2029 || n == 0x202f || n == 0x205f || n == 0x3000

def trimBlanks (cs : List Char) : List Char :=
  ((cs.dropWhile isBlank).reverse.dropWhile isBlank).reverse

def split (separator : Char) : List Char → List (List Char)
  | [] => [[]]
  | c :: rest =>
      if c = separator then [] :: split separator rest
      else match split separator rest with
        | [] => [[c]]
        | part :: parts => (c :: part) :: parts

def shown (c : Char) : List Char :=
  match c with
  | '"' => ['\\', '"']
  | '\\' => ['\\', '\\']
  | '\n' => ['\\', 'n']
  | '\r' => ['\\', 'r']
  | '\t' => ['\\', 't']
  | '\x00' => ['\\', '0']
  | c => if isHidden c then '\\' :: 'u' :: '\x7b' :: Nat.toDigits 16 c.toNat ++ ['\x7d'] else [c]

def quoted (cs : List Char) : List Char := '"' :: cs.flatMap shown ++ ['"']

end Text

inductive CoefficientsFault where
  | unreadable (part : List Char) (fault : NumberFault)
  | count (expected actual : Nat)
deriving DecidableEq, Repr

def CoefficientsFault.message : CoefficientsFault → String
  | .unreadable part fault => String.ofList (Text.quoted part) ++ ": " ++ fault.message
  | .count expected actual =>
      "expected " ++ toString expected ++ " comma-separated numbers, got " ++ toString actual

def readPart (part : List Char) : Except CoefficientsFault Float :=
  (readNumber part).mapError (.unreadable part)

def readCoefficients (count : Nat) (text : String) : Except CoefficientsFault (Vector Float count) := do
  let parts := (Text.split ',' text.toList).map Text.trimBlanks
  let values ← parts.mapM readPart
  if h : values.length = count then pure ⟨values.toArray, by simpa using h⟩
  else throw (.count count values.length)

end PlanarLP
