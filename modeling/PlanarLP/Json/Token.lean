import PlanarLP.Decimal.Numeral

set_option autoImplicit false

namespace PlanarLP

-- A string that holds an unpaired surrogate has no text.
inductive Json where
  | null
  | bool (value : Bool)
  | number (numeral : Numeral)
  | string (text : Option String)
  | array (items : List Json)
  | object (members : List (Option String × Json))
deriving Repr

namespace Json

def text (s : String) : Json := .string (some s)

def record (members : List (String × Json)) : Json := .object (members.map fun (name, value) => (some name, value))

inductive Token where
  | openBrace
  | closeBrace
  | openBracket
  | closeBracket
  | colon
  | comma
  | null
  | bool (value : Bool)
  | number (numeral : Numeral)
  | string (text : Option String)
deriving DecidableEq, Repr

def isBlank (c : Char) : Bool := c == ' ' || c == '\n' || c == '\t' || c == '\r'

namespace Token

def hexDigit? (c : Char) : Option Nat :=
  if c.isDigit then some (c.toNat - '0'.toNat)
  else if 'a' ≤ c ∧ c ≤ 'f' then some (c.toNat - 'a'.toNat + 10)
  else if 'A' ≤ c ∧ c ≤ 'F' then some (c.toNat - 'A'.toNat + 10)
  else none

def unit? (a b c d : Char) : Option Nat := do
  pure ((← hexDigit? a) * 0x1000 + (← hexDigit? b) * 0x100 + (← hexDigit? c) * 0x10 + (← hexDigit? d))

def escape? (c : Char) : Option Nat :=
  if c = '"' ∨ c = '\\' ∨ c = '/' then some c.toNat
  else if c = 'b' then some 0x08
  else if c = 'f' then some 0x0c
  else if c = 'n' then some 0x0a
  else if c = 'r' then some 0x0d
  else if c = 't' then some 0x09
  else none

def codePoints? : List Char → Option (List Nat × List Char)
  | '"' :: rest => some ([], rest)
  | '\\' :: 'u' :: a :: b :: c :: d :: rest => do
      let unit ← unit? a b c d
      let (units, rest) ← codePoints? rest
      pure (unit :: units, rest)
  | '\\' :: c :: rest => do
      let unit ← escape? c
      let (units, rest) ← codePoints? rest
      pure (unit :: units, rest)
  | c :: rest =>
      if c.toNat < 0x20 then none
      else do
        let (units, rest) ← codePoints? rest
        pure (c.toNat :: units, rest)
  | [] => none

def isLeading (n : Nat) : Bool := decide (0xd800 ≤ n ∧ n < 0xdc00)
def isTrailing (n : Nat) : Bool := decide (0xdc00 ≤ n ∧ n < 0xe000)

def joined? : List Nat → Option (List Char)
  | [] => some []
  | [unit] => if isLeading unit || isTrailing unit then none else some [Char.ofNat unit]
  | unit :: next :: rest =>
      if isLeading unit then
        if isTrailing next then
          (joined? rest).map (Char.ofNat (0x10000 + (unit - 0xd800) * 0x400 + (next - 0xdc00)) :: ·)
        else none
      else if isTrailing unit then none
      else (joined? (next :: rest)).map (Char.ofNat unit :: ·)

def whole? (cs : List Char) : Option (List Char × List Char) :=
  let (whole, rest) := Numeral.digits cs
  if whole.isEmpty || (whole.head? == some '0' && whole.length != 1) then none else some (whole, rest)

def fraction? : List Char → Option (Option (List Char) × List Char)
  | '.' :: rest =>
      let (fraction, rest) := Numeral.digits rest
      if fraction.isEmpty then none else some (some fraction, rest)
  | cs => some (none, cs)

def exponent? : List Char → Option (Option Int × List Char)
  | [] => some (none, [])
  | c :: rest =>
      if c = 'e' ∨ c = 'E' then (Numeral.exponentPart? rest).map fun (exponent, rest) => (some exponent, rest)
      else some (none, c :: rest)

def number? (negative : Bool) (cs : List Char) : Option (Token × List Char) := do
  let (whole, rest) ← whole? cs
  let (fraction, rest) ← fraction? rest
  let (exponent, rest) ← exponent? rest
  pure (.number { negative, whole, fraction, exponent }, rest)

def next? : List Char → Option (Token × List Char)
  | '\x7b' :: rest => some (.openBrace, rest)
  | '\x7d' :: rest => some (.closeBrace, rest)
  | '[' :: rest => some (.openBracket, rest)
  | ']' :: rest => some (.closeBracket, rest)
  | ':' :: rest => some (.colon, rest)
  | ',' :: rest => some (.comma, rest)
  | 'n' :: 'u' :: 'l' :: 'l' :: rest => some (.null, rest)
  | 't' :: 'r' :: 'u' :: 'e' :: rest => some (.bool true, rest)
  | 'f' :: 'a' :: 'l' :: 's' :: 'e' :: rest => some (.bool false, rest)
  | '"' :: rest => do
      let (units, rest) ← codePoints? rest
      pure (.string ((joined? units).map String.ofList), rest)
  | '-' :: rest => number? true rest
  | cs => number? false cs

def scan? : Nat → List Char → Option (List Token)
  | _, [] => some []
  | 0, _ => none
  | fuel + 1, c :: rest =>
      if isBlank c then scan? fuel rest
      else do
        let (token, rest) ← next? (c :: rest)
        pure (token :: (← scan? fuel rest))

end Token

def tokens? (text : List Char) : Option (List Token) := Token.scan? text.length text

end Json

end PlanarLP
