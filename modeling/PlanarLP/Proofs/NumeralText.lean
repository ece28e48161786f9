import PlanarLP.Json.Printer

set_option autoImplicit false

namespace PlanarLP

def NoDigit (rest : List Char) : Prop := ∀ c ∈ rest.head?, c.isDigit = false

def Stops (rest : List Char) : Prop := ∀ c ∈ rest.head?, c.isDigit = false ∧ c ≠ '.' ∧ c ≠ 'e' ∧ c ≠ 'E'

structure Numeral.Proper (n : Numeral) : Prop where
  whole : n.whole ≠ []
  wholeDigits : ∀ c ∈ n.whole, c.isDigit = true
  leading : n.whole.head? = some '0' → n.whole.length = 1
  fraction : ∀ f, n.fraction = some f → f ≠ [] ∧ ∀ c ∈ f, c.isDigit = true

theorem numeral_digits (n : Nat) : ∀ c ∈ Decimal.numeral n, c.isDigit = true := by
  intro c member
  exact Nat.isDigit_of_mem_toDigits (by decide) (by decide) member

theorem numeral_nonempty (n : Nat) : Decimal.numeral n ≠ [] := Nat.toDigits_ne_nil

theorem digits_value_numeral (n : Nat) : digitsValue (Decimal.numeral n) = n := by
  have read := Nat.ofDigitChars_ten_toDigits (n := n)
  rwa [Nat.ofDigitChars_eq_foldl] at read

theorem numeral_leading (n : Nat) (positive : 0 < n) : (Decimal.numeral n).head? ≠ some '0' := by
  unfold Decimal.numeral
  induction n using Nat.strongRecOn with
  | _ n ih =>
    rw [Nat.toDigits_eq_if (by decide)]
    by_cases short : n < 10
    · have nonzero : ∀ m < 10, 0 < m → [Nat.digitChar m].head? ≠ some '0' := by decide
      rw [if_pos short]
      exact nonzero n short positive
    · rw [if_neg short, List.head?_append, Option.or_of_isSome (by simp [Nat.toDigits_ne_nil])]
      exact ih (n / 10) (by omega) (by omega)

theorem stops_no_digit (rest : List Char) (stops : Stops rest) : NoDigit rest := fun c member => (stops c member).1

theorem digits_append (shown rest : List Char) (digits : ∀ c ∈ shown, c.isDigit = true) (ends : NoDigit rest) :
    Numeral.digits (shown ++ rest) = (shown, rest) := by
  unfold Numeral.digits
  rw [List.takeWhile_append_of_pos digits, List.dropWhile_append_of_pos digits]
  cases rest with
  | nil => simp
  | cons c rest => simp [ends c rfl]

theorem whole_text (whole rest : List Char) (nonempty : whole ≠ []) (digits : ∀ c ∈ whole, c.isDigit = true)
    (leading : whole.head? = some '0' → whole.length = 1) (ends : NoDigit rest) :
    Json.Token.whole? (whole ++ rest) = some (whole, rest) := by
  unfold Json.Token.whole?
  rw [digits_append whole rest digits ends]
  by_cases zero : whole.head? = some '0'
  · simp [nonempty, leading zero]
  · simp [nonempty, zero]

theorem fraction_text (fraction : Option (List Char)) (rest : List Char)
    (proper : ∀ f, fraction = some f → f ≠ [] ∧ ∀ c ∈ f, c.isDigit = true) (ends : NoDigit rest)
    (noPoint : rest.head? ≠ some '.') :
    Json.Token.fraction? (fraction.elim rest fun f => '.' :: f ++ rest) = some (fraction, rest) := by
  cases fraction with
  | some f =>
    obtain ⟨nonempty, digits⟩ := proper f rfl
    simp [Json.Token.fraction?, digits_append f rest digits ends, nonempty]
  | none =>
    rw [Option.elim_none]
    unfold Json.Token.fraction?
    split
    · exact absurd rfl noPoint
    · rfl

theorem exponent_part_text (exponent : Int) (rest : List Char) (ends : NoDigit rest) :
    Numeral.exponentPart? ((if exponent < 0 then '-' else '+') :: Decimal.numeral exponent.natAbs ++ rest) =
      some (exponent, rest) := by
  have shown := digits_append _ rest (numeral_digits exponent.natAbs) ends
  have value := digits_value_numeral exponent.natAbs
  have nonempty := numeral_nonempty exponent.natAbs
  by_cases negative : exponent < 0
  · have size : -(exponent.natAbs : Int) = exponent := by omega
    simp only [negative, if_true, List.cons_append, Numeral.exponentPart?, Numeral.sign, shown, value, List.isEmpty_iff,
      nonempty, if_false, size]
  · have size : (exponent.natAbs : Int) = exponent := by omega
    simp only [negative, List.cons_append, Numeral.exponentPart?, Numeral.sign, shown, value, List.isEmpty_iff,
      nonempty, Bool.false_eq_true, if_false, size]

theorem exponent_text (exponent : Option Int) (rest : List Char) (stops : Stops rest) :
    Json.Token.exponent? (exponent.elim rest fun e =>
      'e' :: (if e < 0 then '-' else '+') :: Decimal.numeral e.natAbs ++ rest) = some (exponent, rest) := by
  cases exponent with
  | some e =>
    have part := exponent_part_text e rest (stops_no_digit rest stops)
    simp only [List.cons_append] at part
    simp [Json.Token.exponent?, part]
  | none =>
    cases rest with
    | nil => rfl
    | cons c rest => simp [Json.Token.exponent?, (stops c rfl).2.2]

namespace Numeral

def exponentText (n : Numeral) (rest : List Char) : List Char :=
  n.exponent.elim rest fun e => 'e' :: (if e < 0 then '-' else '+') :: Decimal.numeral e.natAbs ++ rest

def fractionText (n : Numeral) (rest : List Char) : List Char := n.fraction.elim rest fun f => '.' :: f ++ rest

end Numeral

theorem numeral_text_append (n : Numeral) (rest : List Char) :
    n.text ++ rest = (if n.negative then ['-'] else []) ++ (n.whole ++ n.fractionText (n.exponentText rest)) := by
  unfold Numeral.text Numeral.fractionText Numeral.exponentText
  cases n.fraction <;> cases n.exponent <;> simp

theorem exponent_text_ends (n : Numeral) (rest : List Char) (stops : Stops rest) :
    NoDigit (n.exponentText rest) ∧ (n.exponentText rest).head? ≠ some '.' := by
  unfold Numeral.exponentText
  cases n.exponent with
  | some e => exact ⟨by simp [NoDigit], by simp⟩
  | none => exact ⟨stops_no_digit rest stops, fun point => (stops '.' point).2.1 rfl⟩

theorem fraction_text_ends (n : Numeral) (rest : List Char) (ends : NoDigit rest) : NoDigit (n.fractionText rest) := by
  unfold Numeral.fractionText
  cases n.fraction with
  | some f => simp [NoDigit]
  | none => exact ends

theorem number_text (n : Numeral) (rest : List Char) (proper : n.Proper) (stops : Stops rest) :
    Json.Token.number? n.negative (n.whole ++ n.fractionText (n.exponentText rest)) = some (.number n, rest) := by
  obtain ⟨ends, noPoint⟩ := exponent_text_ends n rest stops
  have whole := whole_text n.whole _ proper.whole proper.wholeDigits proper.leading (fraction_text_ends n _ ends)
  have fraction : Json.Token.fraction? (n.fractionText (n.exponentText rest)) =
      some (n.fraction, n.exponentText rest) := fraction_text n.fraction _ proper.fraction ends noPoint
  have exponent : Json.Token.exponent? (n.exponentText rest) = some (n.exponent, rest) :=
    exponent_text n.exponent rest stops
  simp [Json.Token.number?, whole, fraction, exponent]

theorem next_digit (c : Char) (rest : List Char) (digit : c.isDigit = true) :
    Json.Token.next? (c :: rest) = Json.Token.number? false (c :: rest) := by
  unfold Json.Token.next?
  split <;> simp_all

theorem next_numeral (n : Numeral) (rest : List Char) (proper : n.Proper) (stops : Stops rest) :
    Json.Token.next? (n.text ++ rest) = some (.number n, rest) := by
  have read := number_text n rest proper stops
  rw [numeral_text_append]
  by_cases negative : n.negative = true
  · rw [negative] at read
    simpa [negative, Json.Token.next?] using read
  · rw [Bool.not_eq_true] at negative
    rw [negative] at read
    have nonempty := proper.whole
    have digits := proper.wholeDigits
    generalize n.whole = whole at read nonempty digits
    cases whole with
    | nil => exact absurd rfl nonempty
    | cons c whole =>
      simp only [negative, Bool.false_eq_true, if_false, List.nil_append, List.cons_append] at read ⊢
      rw [next_digit c _ (digits c List.mem_cons_self)]
      exact read

end PlanarLP
