import PlanarLP.Json.Token

set_option autoImplicit false

namespace PlanarLP

def Numeral.text (n : Numeral) : List Char :=
  (if n.negative then ['-'] else []) ++ n.whole ++
    (match n.fraction with
      | some fraction => '.' :: fraction
      | none => []) ++
    match n.exponent with
    | some exponent => 'e' :: (if exponent < 0 then '-' else '+') :: Decimal.numeral exponent.natAbs
    | none => []

namespace Json

def escaped (c : Char) : List Char :=
  if c = '"' ∨ c = '\\' then ['\\', c]
  else if c.toNat < 0x20 then
    ['\\', 'u', '0', '0', Nat.digitChar (c.toNat / 16), Nat.digitChar (c.toNat % 16)]
  else [c]

def quoted (text : Option String) : List Char :=
  match text with
  | some s => '"' :: s.toList.flatMap escaped ++ ['"']
  | none => "\"\\ud800\"".toList

def separated (separator : List Char) : List (List Char) → List Char
  | [] => []
  | [part] => part
  | part :: parts => part ++ separator ++ separated separator parts

inductive Layout where
  | compact
  | indented (level : Nat)
deriving DecidableEq, Repr

namespace Layout

def inner : Layout → Layout
  | .compact => .compact
  | .indented level => .indented (level + 1)

def newline : Layout → List Char
  | .compact => []
  | .indented level => '\n' :: List.replicate (2 * level) ' '

def colon : Layout → List Char
  | .compact => [':']
  | .indented _ => [':', ' ']

def enclosed (layout : Layout) (first last : Char) : List (List Char) → List Char
  | [] => [first, last]
  | parts => first :: layout.inner.newline ++ separated (',' :: layout.inner.newline) parts ++ layout.newline ++ [last]

end Layout

mutual

def print (layout : Layout) : Json → List Char
  | .null => "null".toList
  | .bool value => if value then "true".toList else "false".toList
  | .number numeral => numeral.text
  | .string text => quoted text
  | .array items => layout.enclosed '[' ']' (printItems layout.inner items)
  | .object members => layout.enclosed '\x7b' '\x7d' (printMembers layout.inner members)

def printItems (layout : Layout) : List Json → List (List Char)
  | [] => []
  | item :: items => print layout item :: printItems layout items

def printMembers (layout : Layout) : List (Option String × Json) → List (List Char)
  | [] => []
  | (name, value) :: members =>
      (quoted name ++ layout.colon ++ print layout value) :: printMembers layout members

end

def compact (json : Json) : String := String.ofList (json.print .compact)

def pretty (json : Json) : String := String.ofList (json.print (.indented 0))

end Json

end PlanarLP
