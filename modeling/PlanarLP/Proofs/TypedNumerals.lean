import Mathlib.Data.List.Induction
import PlanarLP.Decimal.Reader
import PlanarLP.Proofs.DecimalValue

set_option autoImplicit false

namespace PlanarLP

def Numeral.value (n : Numeral) : Rat := if n.negative then -n.decimal.value else n.decimal.value

def numberRead? (text : List Char) : Option Rat :=
  (Numeral.ofUnsigned? (Numeral.sign text).1 (Numeral.sign text).2).map Numeral.value

theorem numeral_rounded (n : Numeral) : n.toFloat.isNaN = false ∧ doubleValue n.toFloat = rounded n.value := by
  obtain ⟨number, value⟩ := decimal_value n.decimal
  unfold Numeral.toFloat Numeral.value
  dsimp only
  split
  · rw [double_neg_value, rounded_neg, value]
    exact ⟨(double_neg_number _).trans number, rfl⟩
  · exact ⟨number, value⟩

theorem typed_rounded (text : List Char) (q : Rat) (unnamed : namedNumber? (Numeral.sign text).2 = none)
    (read : numberRead? text = some q) :
    ∃ x, readNumber text = .ok x ∧ x.isNaN = false ∧ doubleValue x = rounded q := by
  obtain ⟨numeral, parsed, rfl⟩ := Option.map_eq_some_iff.mp read
  refine ⟨numeral.toFloat, ?_, numeral_rounded numeral⟩
  unfold readNumber
  split
  · rename_i empty
    rw [List.isEmpty_iff.mp empty] at parsed
    cases parsed
  · dsimp only
    rw [unnamed, parsed]

section Digits

def fractionValue (digits : List Char) : Rat := digitsValue digits / 10 ^ digits.length

theorem digits_value_append (front back : List Char) :
    digitsValue (front ++ back) = 10 ^ back.length * digitsValue front + digitsValue back := by
  induction back using List.reverseRecOn with
  | nil => simp [digitsValue]
  | append_singleton back c ih =>
      unfold digitsValue at ih ⊢
      rw [← List.append_assoc, List.foldl_concat, List.foldl_concat, ih, List.length_append, List.length_singleton]
      ring

end Digits

namespace Report

def pointed (fraction : List Char) : List Char := if fraction.isEmpty then [] else '.' :: fraction

end Report

theorem pointed_no_digit (fraction : List Char) : NoDigit (Report.pointed fraction) := by
  intro c first
  cases fraction with
  | nil => cases first
  | cons d rest =>
      cases first
      rfl

section Signed

variable (negative : Bool) (whole fraction : List Char) (nonempty : whole ≠ [])
  (wholeDigits : ∀ c ∈ whole, c.isDigit = true) (digits : ∀ c ∈ fraction, c.isDigit = true)

theorem numeral_value :
    (⟨negative, whole, if fraction.isEmpty then none else some fraction, none⟩ : Numeral).value =
      if negative then -(digitsValue whole + fractionValue fraction)
      else digitsValue whole + fractionValue fraction := by
  have places : (if fraction.isEmpty then none else some fraction).getD [] = fraction := by
    cases fraction <;> rfl
  have size : Decimal.value ⟨digitsValue (whole ++ fraction), 0 - fraction.length⟩ =
      digitsValue whole + fractionValue fraction := by
    unfold Decimal.value fractionValue
    rw [digits_value_append, zero_sub, zpow_neg, zpow_natCast, ← div_eq_mul_inv]
    push_cast
    field_simp
  unfold Numeral.value Numeral.decimal
  dsimp only
  rw [places, Option.getD_none, size]

include nonempty wholeDigits

theorem sign_read (rest : List Char) :
    Numeral.sign ((if negative then ['-'] else []) ++ (whole ++ rest)) = (negative, whole ++ rest) := by
  cases negative with
  | true => rfl
  | false =>
      obtain ⟨d, more, shown⟩ := List.exists_cons_of_ne_nil nonempty
      have digit := wholeDigits d (shown ▸ List.mem_cons_self)
      rw [shown]
      simp only [Bool.false_eq_true, if_false, List.nil_append, List.cons_append]
      unfold Numeral.sign
      split
      · rename_i same
        rw [(List.cons.inj same).1] at digit
        cases digit
      · rename_i same
        rw [(List.cons.inj same).1] at digit
        cases digit
      · rfl

include digits

theorem mantissa_read :
    Numeral.mantissa? (whole ++ Report.pointed fraction) =
      some (whole, if fraction.isEmpty then none else some fraction, []) := by
  have front := digits_append _ _ wholeDigits (pointed_no_digit fraction)
  have shown : whole.isEmpty = false := by simp [nonempty]
  unfold Numeral.mantissa?
  rw [front]
  cases fraction with
  | nil => exact if_neg (by rw [shown]; exact Bool.false_ne_true)
  | cons d rest =>
      have behind := digits_append (d :: rest) [] digits (fun c first => nomatch first)
      rw [List.append_nil] at behind
      simp only [Report.pointed, List.isEmpty_cons, Bool.false_eq_true, if_false, behind, shown, Bool.false_and]

theorem number_read :
    numberRead? ((if negative then ['-'] else []) ++ (whole ++ Report.pointed fraction)) =
      some (if negative then -(digitsValue whole + fractionValue fraction)
        else digitsValue whole + fractionValue fraction) := by
  unfold numberRead? Numeral.ofUnsigned?
  rw [sign_read negative whole nonempty wholeDigits, mantissa_read whole fraction nonempty wholeDigits digits,
    ← numeral_value]
  rfl

end Signed

end PlanarLP
