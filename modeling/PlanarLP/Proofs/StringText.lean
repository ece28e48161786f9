import PlanarLP.Json.Printer

set_option autoImplicit false

namespace PlanarLP

open Json (escaped quoted)
open Json.Token (codePoints? joined? isLeading isTrailing unit?)

theorem control_unit (n : Nat) (control : n < 0x20) :
    unit? '0' '0' (Nat.digitChar (n / 16)) (Nat.digitChar (n % 16)) = some n := by
  have all : ∀ m < 0x20, unit? '0' '0' (Nat.digitChar (m / 16)) (Nat.digitChar (m % 16)) = some m := by decide
  exact all n control

def withUnit (unit : Nat) (read : Option (List Nat × List Char)) : Option (List Nat × List Char) :=
  read.map fun (units, rest) => (unit :: units, rest)

theorem escaped_short (c : Char) (unit : Nat) (rest : List Char) (short : Json.Token.escape? c = some unit) :
    codePoints? ('\\' :: c :: rest) = withUnit unit (codePoints? rest) := by
  have other : c ≠ 'u' := by
    rintro rfl
    exact nomatch short
  rw [codePoints?, short]
  · cases codePoints? rest <;> rfl
  · exact fun _ _ _ _ _ same => absurd same other

theorem escaped_mark (c : Char) (rest : List Char) (marked : c = '"' ∨ c = '\\') :
    codePoints? ('\\' :: c :: rest) = withUnit c.toNat (codePoints? rest) :=
  escaped_short c c.toNat rest (by rcases marked with rfl | rfl <;> rfl)

theorem escaped_unit (a b c d : Char) (unit : Nat) (rest : List Char) (digits : unit? a b c d = some unit) :
    codePoints? ('\\' :: 'u' :: a :: b :: c :: d :: rest) = withUnit unit (codePoints? rest) := by
  rw [codePoints?, digits]
  cases codePoints? rest <;> rfl

theorem plain_character (c : Char) (rest : List Char) (quote : c ≠ '"') (backslash : c ≠ '\\')
    (control : ¬ c.toNat < 0x20) : codePoints? (c :: rest) = withUnit c.toNat (codePoints? rest) := by
  rw [codePoints?, if_neg control]
  · cases codePoints? rest <;> rfl
  · exact quote
  · exact fun _ _ _ _ _ same => absurd same backslash
  · exact fun _ _ same => absurd same backslash

theorem escaped_read (c : Char) (rest : List Char) :
    codePoints? (escaped c ++ rest) = withUnit c.toNat (codePoints? rest) := by
  unfold Json.escaped
  by_cases marked : c = '"' ∨ c = '\\'
  · rw [if_pos marked]
    exact escaped_mark c rest marked
  · rw [if_neg marked]
    by_cases control : c.toNat < 0x20
    · rw [if_pos control]
      exact escaped_unit _ _ _ _ c.toNat rest (control_unit c.toNat control)
    · rw [if_neg control]
      exact plain_character c rest (fun same => marked (.inl same)) (fun same => marked (.inr same)) control

theorem text_read (cs rest : List Char) :
    codePoints? (cs.flatMap escaped ++ '"' :: rest) = some (cs.map Char.toNat, rest) := by
  induction cs with
  | nil => rfl
  | cons c cs ih =>
    rw [List.flatMap_cons, List.append_assoc, escaped_read, ih]
    rfl

theorem character_unit (c : Char) : isLeading c.toNat = false ∧ isTrailing c.toNat = false := by
  have valid : c.toNat < 0xd800 ∨ 0xdfff < c.toNat ∧ c.toNat < 0x110000 := c.valid
  constructor
  · exact decide_eq_false (by omega)
  · exact decide_eq_false (by omega)

theorem joined_characters (cs : List Char) : joined? (cs.map Char.toNat) = some cs := by
  induction cs with
  | nil => rfl
  | cons c cs ih =>
    obtain ⟨leading, trailing⟩ := character_unit c
    cases cs with
    | nil => simp [joined?, leading, trailing]
    | cons d cs =>
      rw [List.map_cons, List.map_cons, joined?]
      simp only [leading, trailing, Bool.false_eq_true, if_false]
      rw [← List.map_cons, ih]
      simp

theorem next_quote (rest : List Char) :
    Json.Token.next? ('"' :: rest) = (codePoints? rest).bind fun (units, rest) =>
      some (.string ((joined? units).map String.ofList), rest) := rfl

theorem lone_surrogate : quoted none = ['"', '\\', 'u', 'd', '8', '0', '0', '"'] := rfl

theorem quoted_text (s : String) : quoted (some s) = '"' :: (s.toList.flatMap escaped ++ ['"']) := rfl

theorem next_string (text : Option String) (rest : List Char) :
    Json.Token.next? (quoted text ++ rest) = some (.string text, rest) := by
  cases text with
  | none =>
    rw [lone_surrogate, List.cons_append, next_quote]
    simp only [List.cons_append, List.nil_append]
    rw [escaped_unit 'd' '8' '0' '0' 0xd800 ('"' :: rest) rfl]
    rfl
  | some s =>
    rw [quoted_text, List.cons_append, next_quote, List.append_assoc, List.singleton_append, text_read]
    simp [joined_characters]

end PlanarLP
