import PlanarLP.Decimal.Shortest
import PlanarLP.Proofs.ShortestReads
import PlanarLP.Proofs.TypedNumerals
import PlanarLP.Proofs.WrittenNumbers

set_option autoImplicit false

namespace PlanarLP

section Positional

theorem digits_value_zeros (n : Nat) : digitsValue (Decimal.zeros n) = 0 := by
  unfold Decimal.zeros
  induction n with
  | zero => rfl
  | succ n ih =>
      rw [List.replicate_succ', digits_value_append, ih]
      rfl

variable (d : Decimal)

theorem leading_zeros (n : Nat) (shown : List Char) : digitsValue (Decimal.zeros n ++ shown) = digitsValue shown := by
  rw [digits_value_append, digits_value_zeros, Nat.mul_zero, Nat.zero_add]

theorem pointed_digits (fine : d.exponent < 0) :
    digitsValue (d.whole ++ d.fraction) = d.digits ∧ (d.fraction.length : Int) = -d.exponent := by
  have value := digits_value_numeral d.digits
  have parted : ¬ 0 ≤ d.exponent := by omega
  unfold Decimal.whole Decimal.fraction
  dsimp only
  rw [if_neg parted, if_neg parted]
  by_cases mixed : 0 < d.pointPlace
  · rw [if_pos mixed, if_pos mixed, List.take_append_drop, List.length_drop]
    refine ⟨value, ?_⟩
    unfold Decimal.pointPlace at mixed ⊢
    omega
  · rw [if_neg mixed, if_neg mixed, List.length_append, Decimal.zeros, List.length_replicate]
    refine ⟨?_, ?_⟩
    · exact (leading_zeros (-d.pointPlace).toNat.succ _).trans value
    · unfold Decimal.pointPlace at mixed ⊢
      omega

theorem positional_value : digitsValue d.whole + fractionValue d.fraction = d.value := by
  rcases lt_or_ge d.exponent 0 with fine | natural
  · obtain ⟨digits, length⟩ := pointed_digits d fine
    have exponent : d.exponent = -(d.fraction.length : Int) := by omega
    rw [digits_value_append] at digits
    rw [Decimal.value, exponent, ← digits, fractionValue, zpow_neg, zpow_natCast]
    push_cast
    field_simp
  · obtain ⟨k, exponent⟩ := Int.eq_ofNat_of_zero_le natural
    have whole : d.whole = Decimal.numeral d.digits ++ Decimal.zeros k := by
      unfold Decimal.whole
      rw [if_pos natural, exponent, Int.toNat_natCast]
    have fraction : d.fraction = [] := if_pos natural
    rw [whole, fraction, digits_value_append, digits_value_numeral, digits_value_zeros, Decimal.zeros,
      List.length_replicate, Decimal.value, exponent, zpow_natCast, fractionValue]
    simp [digitsValue, mul_comm]

theorem positional_read (negative : Bool) :
    numberRead? ((if negative then ['-'] else []) ++ d.positional) = some (if negative then -d.value else d.value) := by
  have read := number_read negative d.whole d.fraction (whole_nonempty d) (whole_digits d) (fraction_digits d)
  rw [positional_value] at read
  exact read

end Positional

theorem digit_lower (d : Char) (digit : d.isDigit = true) : d.toLower = d := by
  unfold Char.isDigit at digit
  unfold Char.toLower
  refine dif_neg fun upper => ?_
  simp only [ge_iff_le, Bool.and_eq_true, decide_eq_true_eq] at digit
  exact absurd (UInt32.le_trans upper.1 digit.2) (by decide)

theorem digits_unnamed (d : Char) (rest : List Char) (digit : d.isDigit = true) : namedNumber? (d :: rest) = none := by
  have other (name : String) (c : Char) (letters : List Char) (shown : name.toList = c :: letters)
      (letter : c.isDigit = false) : String.ofList ((d :: rest).map Char.toLower) ≠ name := by
    rintro rfl
    rw [String.toList_ofList, List.map_cons, digit_lower d digit] at shown
    rw [(List.cons.inj shown).1, letter] at digit
    cases digit
  unfold namedNumber?
  dsimp only
  rw [if_neg, if_neg]
  · exact other "nan" 'n' _ rfl rfl
  · exact not_or.mpr ⟨other "inf" 'i' _ rfl rfl, other "infinity" 'i' _ rfl rfl⟩

theorem zero_positional (tie : Tie) (e : Int) : (Decimal.shortest tie 0 e).positional = ['0'] := by
  have zero : Decimal.shortest tie 0 e = ⟨0, 0⟩ := if_pos rfl
  rw [zero]
  decide

theorem unpacked_zero (x : Float) (negative : Bool) (e : Int) (parts : Binary64.ofFloat x = .finite negative 0 e) :
    x = if negative then -0 else 0 := by
  rw [of_float_unpacked] at parts
  generalize unpacked : x.toModel.unpack = u at parts
  cases u with
  | notANumber | infinity => cases parts
  | zero s =>
      cases parts
      cases s <;> exact double_eq_of_unpacked x _ unpacked
  | finite s m f positive =>
      cases parts
      exact absurd positive (Nat.lt_irrefl 0)

theorem finite_full (x : Float) (negative : Bool) (m : Nat) (e : Int)
    (parts : Binary64.ofFloat x = .finite negative m e) : 2 ^ 52 ≤ m ∨ e = -1074 := by
  have normal : Normal x.toModel.unpack := (unpack_normal x.toModel.toBits.toBitVec).1
  rw [of_float_unpacked] at parts
  generalize x.toModel.unpack = u at normal parts
  cases u with
  | notANumber | infinity => cases parts
  | zero s =>
      cases parts
      exact .inr rfl
  | finite s m e positive =>
      cases parts
      exact normal.2.2

theorem positional_unnamed (negative : Bool) (d : Decimal) :
    namedNumber? (Numeral.sign ((if negative then ['-'] else []) ++ d.positional)).2 = none := by
  unfold Decimal.positional
  rw [sign_read negative d.whole (whole_nonempty d) (whole_digits d)]
  obtain ⟨c, rest, shown⟩ := List.exists_cons_of_ne_nil (whole_nonempty d)
  rw [shown]
  exact digits_unnamed c _ (whole_digits d c (shown ▸ List.mem_cons_self))

-- The two zeros have the same value, so their sign is read apart.
theorem finite_plain_read (x : Float) (negative : Bool) (m : Nat) (e : Int)
    (parts : Binary64.ofFloat x = .finite negative m e) :
    readNumber ((if negative then ['-'] else []) ++ (Decimal.shortest .up m e).positional) = .ok x := by
  by_cases zero : m = 0
  · subst zero
    rw [unpacked_zero x negative e parts, zero_positional]
    cases negative <;> decide +kernel
  · obtain ⟨finite, size⟩ := parts_value x negative m e parts
    obtain ⟨bits, low, high⟩ := of_bits_finite _ _ _ _ parts
    have value := shortest_rounded .up m e bits low high (finite_full x negative m e parts)
    obtain ⟨y, given, number, same⟩ := typed_rounded _ _ (positional_unnamed negative _)
      (positional_read (Decimal.shortest .up m e) negative)
    have equal : doubleValue y = doubleValue x := by
      rw [same, size, ← value]
      split
      · exact rounded_neg _
      · rfl
    have nonzero : doubleValue x ≠ 0 := by
      have above := magnitude_positive m e (Nat.pos_of_ne_zero zero)
      rw [size]
      split <;> linarith
    rw [given, value_determines y x number (finite_number x finite) equal nonzero]

theorem plain_read (x : Float) (number : x.isNaN = false) : readNumber (PlanarLP.plainText x).toList = .ok x := by
  unfold PlanarLP.plainText
  rw [String.toList_ofList]
  by_cases finite : x.isFinite = true
  · obtain ⟨s, m, e, parts, _⟩ := finite_parts x finite
    rw [parts]
    exact finite_plain_read x _ m e parts
  · rcases infinite_cases x number finite with rfl | rfl <;> decide +kernel

end PlanarLP
