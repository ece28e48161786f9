import PlanarLP.Json.Token

set_option autoImplicit false

namespace PlanarLP

namespace Json

namespace Token

mutual

def value? : Nat → List Token → Option (Json × List Token)
  | 0, _ => none
  | fuel + 1, tokens =>
      match tokens with
      | .null :: rest => some (.null, rest)
      | .bool value :: rest => some (.bool value, rest)
      | .number numeral :: rest => some (.number numeral, rest)
      | .string text :: rest => some (.string text, rest)
      | .openBracket :: .closeBracket :: rest => some (.array [], rest)
      | .openBracket :: rest => (items? fuel rest).map fun (items, rest) => (.array items, rest)
      | .openBrace :: .closeBrace :: rest => some (.object [], rest)
      | .openBrace :: rest => (members? fuel rest).map fun (members, rest) => (.object members, rest)
      | _ => none

def items? : Nat → List Token → Option (List Json × List Token)
  | 0, _ => none
  | fuel + 1, tokens => do
      let (item, rest) ← value? fuel tokens
      match rest with
      | .comma :: rest => (items? fuel rest).map fun (items, rest) => (item :: items, rest)
      | .closeBracket :: rest => some ([item], rest)
      | _ => none

def members? : Nat → List Token → Option (List (Option String × Json) × List Token)
  | 0, _ => none
  | fuel + 1, tokens =>
      match tokens with
      | .string name :: .colon :: rest => do
          let (value, rest) ← value? fuel rest
          match rest with
          | .comma :: rest => (members? fuel rest).map fun (members, rest) => ((name, value) :: members, rest)
          | .closeBrace :: rest => some ([(name, value)], rest)
          | _ => none
      | _ => none

end

end Token

def ofTokens? (tokens : List Token) : Option Json :=
  match Token.value? (tokens.length + 1) tokens with
  | some (json, []) => some json
  | _ => none

def parse? (text : String) : Option Json := (tokens? text.toList).bind ofTokens?

end Json

end PlanarLP
