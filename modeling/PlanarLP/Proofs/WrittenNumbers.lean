import PlanarLP.Json.Number
import PlanarLP.Proofs.DoubleParts
import PlanarLP.Proofs.NumeralText

set_option autoImplicit false

namespace PlanarLP

theorem zeros_digits (n : Nat) : ∀ c ∈ Decimal.zeros n, c.isDigit = true := by
  intro c member
  rw [List.eq_of_mem_replicate member]
  decide

section

variable (d : Decimal) (nonzero : 0 < d.digits ∨ d.exponent = 0)

theorem whole_digits : ∀ c ∈ d.whole, c.isDigit = true := by
  intro c member
  unfold Decimal.whole at member
  dsimp only at member
  split_ifs at member
  · rcases List.mem_append.mp member with shown | zero
    · exact numeral_digits d.digits c shown
    · exact zeros_digits _ c zero
  · exact numeral_digits d.digits c (List.mem_of_mem_take member)
  · rw [List.mem_singleton.mp member]
    decide

theorem fraction_digits : ∀ c ∈ d.fraction, c.isDigit = true := by
  intro c member
  unfold Decimal.fraction at member
  dsimp only at member
  split_ifs at member
  · exact absurd member List.not_mem_nil
  · exact numeral_digits d.digits c (List.mem_of_mem_drop member)
  · rcases List.mem_append.mp member with zero | shown
    · exact zeros_digits _ c zero
    · exact numeral_digits d.digits c shown

theorem whole_nonempty : d.whole ≠ [] := by
  have shown := numeral_nonempty d.digits
  unfold Decimal.whole
  dsimp only
  split_ifs with large mixed
  · simp [shown]
  · simp only [ne_eq, List.take_eq_nil_iff, not_or]
    exact ⟨by omega, shown⟩
  · simp

include nonzero

theorem whole_leading : d.whole.head? = some '0' → d.whole.length = 1 := by
  unfold Decimal.whole
  dsimp only
  split_ifs with large mixed
  · by_cases positive : 0 < d.digits
    · intro zero
      rw [List.head?_append, Option.or_of_isSome (by simp [numeral_nonempty])] at zero
      exact absurd zero (numeral_leading d.digits positive)
    · have digits : d.digits = 0 := Nat.eq_zero_of_not_pos positive
      have exponent : d.exponent = 0 := nonzero.resolve_left positive
      rw [digits, exponent]
      decide
  · intro zero
    rw [List.head?_take, if_neg (by omega)] at zero
    exact absurd zero (numeral_leading d.digits (nonzero.resolve_right (by omega)))
  · simp

theorem json_numeral_proper (negative : Bool) : (d.jsonNumeral negative).Proper := by
  have shown := numeral_digits d.digits
  have nonempty := numeral_nonempty d.digits
  unfold Decimal.jsonNumeral
  split
  · refine ⟨whole_nonempty d, whole_digits d, whole_leading d nonzero, ?_⟩
    rintro f ⟨⟩
    by_cases none : d.fraction = []
    · simp [none]
    · simp only [List.isEmpty_iff, none, if_false]
      exact ⟨none, fraction_digits d⟩
  · refine ⟨by simp [nonempty], fun c member => shown c (List.mem_of_mem_take member), ?_, ?_⟩
    · intro _
      simpa using Nat.succ_le_of_lt (List.length_pos_of_ne_nil nonempty)
    · intro f
      dsimp only
      split
      · exact nofun
      · rintro ⟨⟩
        have long := List.length_pos_of_ne_nil nonempty
        refine ⟨?_, fun c member => shown c (List.mem_of_mem_drop member)⟩
        rw [ne_eq, List.drop_eq_nil_iff]
        omega

end

theorem of_bits_finite (bits : Nat) (negative : Bool) (mantissa : Nat) (exponent : Int)
    (finite : Binary64.ofBits bits = .finite negative mantissa exponent) :
    mantissa < 2 ^ 53 ∧ -1074 ≤ exponent ∧ exponent ≤ 971 := by
  have range : bits / Binary64.leadingBit % 0x800 < 0x800 := Nat.mod_lt _ (by decide)
  have fraction : bits % Binary64.leadingBit < Binary64.leadingBit := Nat.mod_lt _ (by decide)
  have leading : Binary64.leadingBit = 2 ^ 52 := by decide
  unfold Binary64.ofBits at finite
  dsimp only at finite
  split_ifs at finite with special none subnormal <;> cases finite <;> omega

theorem double_written (x : Float) :
    (∃ n : Numeral, n.Proper ∧ Json.ofDouble x = .number n) ∨ Json.ofDouble x = .null := by
  unfold Json.ofDouble
  split
  · rename_i negative mantissa exponent finite
    left
    refine ⟨_, json_numeral_proper _ ?_ negative, rfl⟩
    obtain ⟨bits, low, high⟩ := of_bits_finite _ _ _ _ finite
    by_cases positive : 0 < mantissa
    · left
      exact shortest_positive mantissa exponent positive bits low high .toEven
    · right
      rw [Nat.eq_zero_of_not_pos positive]
      rfl
  · right
    rfl

theorem infinite_written (x : Float) (infinite : x.isFinite = false) : Json.ofDouble x = .null := by
  change x.toModel.unpack.isFinite = false at infinite
  unfold Json.ofDouble
  rw [of_float_unpacked]
  generalize x.toModel.unpack = u at infinite
  cases u with
  | notANumber | infinity => rfl
  | zero | finite => cases infinite

theorem index_proper (n : Nat) : (Numeral.ofNat n).Proper := by
  refine ⟨numeral_nonempty n, numeral_digits n, ?_, nofun⟩
  by_cases positive : 0 < n
  · exact fun zero => absurd zero (numeral_leading n positive)
  · rw [Nat.eq_zero_of_not_pos positive]
    decide

theorem index_recovered (n : Nat) (fits : n < UInt64.size) : (Json.ofIndex n).index? = some n := by
  have value := digits_value_numeral n
  simp [Json.ofIndex, Json.index?, Numeral.index?, Numeral.ofNat, value, fits]

end PlanarLP
