import PlanarLP.Json.Reader
import PlanarLP.Proofs.NumeralText
import PlanarLP.Proofs.StringText

set_option autoImplicit false

namespace PlanarLP

namespace Json

mutual

def tokens : Json → List Token
  | .null => [.null]
  | .bool value => [.bool value]
  | .number numeral => [.number numeral]
  | .string text => [.string text]
  | .array [] => [.openBracket, .closeBracket]
  | .array (item :: items) => .openBracket :: tokens item ++ furtherItems items ++ [.closeBracket]
  | .object [] => [.openBrace, .closeBrace]
  | .object ((name, value) :: members) =>
      .openBrace :: .string name :: .colon :: tokens value ++ furtherMembers members ++ [.closeBrace]

def furtherItems : List Json → List Token
  | [] => []
  | item :: items => .comma :: tokens item ++ furtherItems items

def furtherMembers : List (Option String × Json) → List Token
  | [] => []
  | (name, value) :: members => .comma :: .string name :: .colon :: tokens value ++ furtherMembers members

end

end Json

open Json (tokens furtherItems furtherMembers)
open Json.Token (value? items? members?)

theorem tokens_start (json : Json) : ∃ token rest, json.tokens = token :: rest ∧ token ≠ .closeBracket := by
  cases json with
  | array items => cases items <;> exact ⟨_, _, rfl, nofun⟩
  | object members => cases members <;> exact ⟨_, _, rfl, nofun⟩
  | _ => exact ⟨_, _, rfl, nofun⟩

theorem value_bracket (fuel : Nat) (token : Json.Token) (rest : List Json.Token) (opened : token ≠ .closeBracket) :
    value? (fuel + 1) (.openBracket :: token :: rest) =
      (items? fuel (token :: rest)).map fun (items, rest) => (.array items, rest) := by
  cases token <;> first | rfl | exact absurd rfl opened

-- The fuel is the number of tokens: every call reads one token at least before it calls again.
mutual

theorem value_tokens (json : Json) (fuel : Nat) (rest : List Json.Token) (enough : json.tokens.length ≤ fuel) :
    value? fuel (json.tokens ++ rest) = some (json, rest) := by
  obtain ⟨token, more, start, _⟩ := tokens_start json
  obtain ⟨fuel, rfl⟩ := Nat.exists_eq_add_one_of_ne_zero (n := fuel) (by rw [start] at enough; simp at enough; omega)
  match json with
  | .null | .bool _ | .number _ | .string _ | .array [] | .object [] => rfl
  | .array (item :: items) =>
      rw [tokens] at enough ⊢
      simp only [List.length_append, List.length_cons, List.length_nil] at enough
      have read := items_tokens item items (value_tokens item) fuel rest (by omega)
      obtain ⟨first, others, begins, opened⟩ := tokens_start item
      rw [begins] at read ⊢
      simp only [List.cons_append, List.append_assoc, List.nil_append] at read ⊢
      rw [value_bracket fuel first _ opened, read]
      rfl
  | .object ((name, value) :: members) =>
      rw [tokens] at enough ⊢
      simp only [List.length_append, List.length_cons, List.length_nil] at enough
      have read := members_tokens name value members (value_tokens value) fuel rest (by omega)
      simp only [List.cons_append, List.append_assoc, List.nil_append] at read ⊢
      rw [value?, read]
      · rfl
      · exact nofun

theorem items_tokens (item : Json) (items : List Json)
    (first : ∀ (fuel : Nat) (rest : List Json.Token), item.tokens.length ≤ fuel →
      value? fuel (item.tokens ++ rest) = some (item, rest))
    (fuel : Nat) (rest : List Json.Token) (enough : item.tokens.length + (furtherItems items).length + 1 ≤ fuel) :
    items? fuel (item.tokens ++ (furtherItems items ++ .closeBracket :: rest)) = some (item :: items, rest) := by
  obtain ⟨fuel, rfl⟩ := Nat.exists_eq_add_one_of_ne_zero (n := fuel) (by omega)
  rw [items?, first fuel _ (by omega)]
  match items with
  | [] => rfl
  | next :: items =>
      rw [furtherItems] at enough ⊢
      simp only [List.length_append, List.length_cons] at enough
      have read := items_tokens next items (value_tokens next) fuel rest (by omega)
      simp [read]

theorem members_tokens (name : Option String) (value : Json) (members : List (Option String × Json))
    (first : ∀ (fuel : Nat) (rest : List Json.Token), value.tokens.length ≤ fuel →
      value? fuel (value.tokens ++ rest) = some (value, rest))
    (fuel : Nat) (rest : List Json.Token) (enough : value.tokens.length + (furtherMembers members).length + 3 ≤ fuel) :
    members? fuel (.string name :: .colon :: value.tokens ++ (furtherMembers members ++ .closeBrace :: rest)) =
      some ((name, value) :: members, rest) := by
  obtain ⟨fuel, rfl⟩ := Nat.exists_eq_add_one_of_ne_zero (n := fuel) (by omega)
  rw [List.cons_append, List.cons_append, members?, first fuel _ (by omega)]
  match members with
  | [] => rfl
  | (next, other) :: members =>
      rw [furtherMembers] at enough ⊢
      simp only [List.length_append, List.length_cons] at enough
      have read := members_tokens next other members (value_tokens other) fuel rest (by omega)
      simp only [List.cons_append] at read
      simp [read]

end

theorem of_tokens (json : Json) : Json.ofTokens? json.tokens = some json := by
  have read := value_tokens json (json.tokens.length + 1) [] (by omega)
  rw [List.append_nil] at read
  simp [Json.ofTokens?, read]

end PlanarLP
