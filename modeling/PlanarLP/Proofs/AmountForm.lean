import PlanarLP.Proofs.AmountText
import PlanarLP.Proofs.TypedNumerals

set_option autoImplicit false

namespace PlanarLP

open Float.Model.UnpackedFloat (Sign)

namespace Report

-- Digits with a comma at every fourth place from the right; no zero stands in front of other digits.
structure Grouped (text : List Char) : Prop where
  marks : ∀ i c, text.reverse[i]? = some c → if i % 4 = 3 then c = ',' else c.isDigit = true
  start : ∃ c rest, text = c :: rest ∧ c.isDigit = true ∧ (c = '0' → rest = [])

def IsFraction (text : List Char) : Prop :=
  text = [] ∨ ∃ tenths last, text = '.' :: (tenths ++ [last]) ∧ tenths.length ≤ 1 ∧
    (∀ c ∈ tenths ++ [last], c.isDigit = true) ∧ last ≠ '0'

def withoutCommas (text : List Char) : List Char := text.filter (· != ',')

def fixedChars (x : Float) : List Char :=
  match Binary64.ofFloat x with
  | .finite negative mantissa exponent =>
      let hundredths := Binary64.nearestHundredth mantissa exponent
      (if negative then ['-'] else []) ++ (Decimal.numeral (hundredths / 100) ++ '.' :: twoPlaces (hundredths % 100))
  | .infinite negative => if negative then "-inf".toList else "inf".toList
  | .nan => "NaN".toList

end Report

section Grouping

theorem grouped_cons (d : Char) (rest : List Char) :
    Report.grouped (d :: rest) =
      d :: ((if rest.length % 3 = 0 ∧ 0 < rest.length then [','] else []) ++ Report.grouped rest) := by
  simp only [Report.grouped, ne_eq, ← List.length_pos_iff]
  split <;> rfl

theorem grouped_length (digits : List Char) :
    (Report.grouped digits).length = digits.length + (digits.length - 1) / 3 := by
  induction digits with
  | nil => rfl
  | cons d rest ih =>
      rw [grouped_cons, List.length_cons, List.length_cons, List.length_append, ih]
      split
      · rw [List.length_singleton]
        omega
      · rw [List.length_nil]
        omega

-- A further digit never lands on every fourth place, since a comma is put there in front of it.
theorem grouped_marks (digits : List Char) (all : ∀ c ∈ digits, c.isDigit = true) :
    ∀ i c, (Report.grouped digits).reverse[i]? = some c → if i % 4 = 3 then c = ',' else c.isDigit = true := by
  induction digits with
  | nil => exact fun i c found => by simp [Report.grouped] at found
  | cons d rest ih =>
      obtain ⟨digit, others⟩ := List.forall_mem_cons.mp all
      have places : (Report.grouped rest).reverse.length = rest.length + (rest.length - 1) / 3 := by
        rw [List.length_reverse, grouped_length]
      intro i c found
      rw [grouped_cons, List.reverse_cons, List.reverse_append, List.append_assoc] at found
      rcases lt_or_ge i (Report.grouped rest).reverse.length with earlier | later
      · rw [List.getElem?_append_left earlier] at found
        exact ih others i c found
      · obtain ⟨k, rfl⟩ := Nat.exists_eq_add_of_le later
        rw [List.getElem?_append_right later, Nat.add_sub_cancel_left] at found
        by_cases third : rest.length % 3 = 0 ∧ 0 < rest.length
        · rw [if_pos third] at found
          change [',', d][k]? = some c at found
          rcases k with _ | _ | k
          · cases found
            rw [if_pos (by omega)]
          · cases found
            rwa [if_neg (by omega)]
          · cases found
        · rw [if_neg third] at found
          change [d][k]? = some c at found
          rcases k with _ | k
          · cases found
            rwa [if_neg (by omega)]
          · cases found

theorem numeral_grouped (n : Nat) : Report.Grouped (Report.grouped (Decimal.numeral n)) where
  marks := grouped_marks _ (numeral_digits n)
  start := by
    obtain ⟨d, rest, shown⟩ := List.exists_cons_of_ne_nil (numeral_nonempty n)
    have digit := numeral_digits n d (shown ▸ List.mem_cons_self)
    rw [shown, grouped_cons]
    refine ⟨d, _, rfl, digit, ?_⟩
    rintro rfl
    rcases n.eq_zero_or_pos with zero | positive
    · rw [zero] at shown
      obtain ⟨_, none⟩ := List.cons.inj shown
      rw [← none]
      rfl
    · exact absurd (congrArg List.head? shown) (numeral_leading n positive)

end Grouping

section Fractions

theorem trimmed_append (digits : List Char) (c : Char) :
    Report.withoutTrailingZeros (digits ++ [c]) =
      if c = '0' then Report.withoutTrailingZeros digits else digits ++ [c] := by
  unfold Report.withoutTrailingZeros
  rw [List.reverse_append, List.reverse_singleton, List.singleton_append, List.dropWhile_cons]
  by_cases zero : c = '0' <;> simp [zero]

theorem two_places_digits (n : Nat) : ∀ c ∈ Report.twoPlaces n, c.isDigit = true := by
  have digit (d : Nat) : (Nat.digitChar (d % 10)).isDigit = true := by
    rw [Nat.isDigit_digitChar, decide_eq_true (Nat.mod_lt d (by decide))]
  exact List.forall_mem_cons.mpr ⟨digit _, List.forall_mem_singleton.mpr (digit _)⟩

theorem trimmed_mem (digits : List Char) : ∀ c ∈ Report.withoutTrailingZeros digits, c ∈ digits := by
  intro c member
  have kept := (List.dropWhile_sublist _).subset (List.mem_reverse.mp member)
  exact List.mem_reverse.mp kept

theorem trimmed_form (digits : List Char) :
    Report.withoutTrailingZeros digits = [] ∨ ∃ front last, Report.withoutTrailingZeros digits = front ++ [last] ∧
      last ≠ '0' ∧ front.length < digits.length := by
  induction digits using List.reverseRecOn with
  | nil => exact .inl rfl
  | append_singleton digits c ih =>
      have longer : digits.length < (digits ++ [c]).length := by simp
      rw [trimmed_append]
      by_cases zero : c = '0'
      · rw [if_pos zero]
        refine ih.imp_right fun ⟨front, last, shown, nonzero, short⟩ => ?_
        exact ⟨front, last, shown, nonzero, short.trans longer⟩
      · rw [if_neg zero]
        exact .inr ⟨digits, c, rfl, zero, longer⟩

theorem fraction_form (n : Nat) : Report.IsFraction (Report.fractionText n) := by
  have digits : ∀ c ∈ Report.withoutTrailingZeros (Report.twoPlaces (n % 100)), c.isDigit = true :=
    fun c member => two_places_digits _ c (trimmed_mem _ c member)
  unfold Report.fractionText
  dsimp only
  rcases trimmed_form (Report.twoPlaces (n % 100)) with none | ⟨tenths, last, shown, nonzero, short⟩
  · exact .inl (if_pos (List.isEmpty_iff.mpr none))
  · rw [shown] at digits ⊢
    exact .inr ⟨tenths, last, if_neg (by simp), Nat.lt_succ_iff.mp short, digits, nonzero⟩

end Fractions

section Reading

theorem fraction_value_zero (digits : List Char) : fractionValue (digits ++ ['0']) = fractionValue digits := by
  have shifted : digitsValue (digits ++ ['0']) = 10 * digitsValue digits := digits_value_append digits ['0']
  unfold fractionValue
  rw [shifted, List.length_append, List.length_singleton, pow_succ']
  push_cast
  exact mul_div_mul_left _ _ (by norm_num)

theorem fraction_value_trimmed (digits : List Char) :
    fractionValue (Report.withoutTrailingZeros digits) = fractionValue digits := by
  induction digits using List.reverseRecOn with
  | nil => rfl
  | append_singleton digits c ih =>
      rw [trimmed_append]
      by_cases zero : c = '0'
      · rw [if_pos zero, ih, zero, fraction_value_zero]
      · rw [if_neg zero]

theorem two_places_value (n : Nat) (below : n < 100) : fractionValue (Report.twoPlaces n) = n / 100 := by
  have tens := Nat.toNat_digitChar_sub_48_of_lt_ten (Nat.mod_lt (n / 10) (by decide : 0 < 10))
  have units := Nat.toNat_digitChar_sub_48_of_lt_ten (Nat.mod_lt n (by decide : 0 < 10))
  have digits : digitsValue (Report.twoPlaces n) = n := by
    unfold digitsValue Report.twoPlaces
    simp only [List.foldl_cons, List.foldl_nil]
    change 10 * (10 * 0 + ((n / 10 % 10).digitChar.toNat - 48)) + ((n % 10).digitChar.toNat - 48) = n
    rw [tens, units]
    omega
  unfold fractionValue
  rw [digits]
  norm_num [Report.twoPlaces]

theorem hundredths_number_read (negative : Bool) (n : Nat) (fraction : List Char)
    (digits : ∀ c ∈ fraction, c.isDigit = true) (value : fractionValue fraction = (n % 100 : Nat) / 100) :
    numberRead? ((if negative then ['-'] else []) ++ (Decimal.numeral (n / 100) ++ Report.pointed fraction)) =
      some (if negative then -((n : Rat) / 100) else n / 100) := by
  have whole : ((n / 100 : Nat) : Rat) + (n % 100 : Nat) / 100 = n / 100 := by
    rw [← mul_div_cancel_left₀ ((n / 100 : Nat) : Rat) (by norm_num : (100 : Rat) ≠ 0), ← add_div]
    exact_mod_cast congrArg (fun k : Nat => (k : Rat) / 100) (Nat.div_add_mod n 100)
  rw [number_read negative _ fraction (numeral_nonempty _) (numeral_digits _) digits, digits_value_numeral, value,
    whole]

end Reading

section Rounded

def nearestHundredths (q : Rat) : Rat := nearestEven (100 * q) / 100

theorem nearest_hundredths_signed (s : Sign) (q : Rat) :
    nearestHundredths (signed s q) = if isNegative s then -nearestHundredths q else nearestHundredths q := by
  cases s with
  | positive => rfl
  | negative =>
      change ((nearestEven (100 * -q) : Int) : Rat) / 100 = -(nearestEven (100 * q) / 100)
      rw [mul_neg, nearest_even_neg, Int.cast_neg, neg_div]

theorem nearest_hundredths_abs (q : Rat) :
    (if q < 0 then -nearestHundredths |q| else nearestHundredths |q|) = nearestHundredths q := by
  split
  · rename_i negative
    have turned := nearest_hundredths_signed .negative |q|
    rw [abs_of_neg negative] at turned ⊢
    exact turned.symm.trans (congrArg nearestHundredths (neg_neg q))
  · rename_i other
    rw [abs_of_nonneg (not_lt.mp other)]

theorem fixed_read (x : Float) (finite : x.isFinite = true) :
    numberRead? (Report.fixedChars x) = some (nearestHundredths (doubleValue x)) := by
  obtain ⟨s, m, e, parts, value⟩ := finite_parts x finite
  have size := nearest_hundredth_value m e
  have places := two_places_value (Binary64.nearestHundredth m e % 100) (Nat.mod_lt _ (by decide))
  have read := hundredths_number_read (isNegative s) (Binary64.nearestHundredth m e) _ (two_places_digits _) places
  have shown : Report.fixedChars x = (if isNegative s then ['-'] else []) ++
      (Decimal.numeral (Binary64.nearestHundredth m e / 100) ++
        Report.pointed (Report.twoPlaces (Binary64.nearestHundredth m e % 100))) := by
    unfold Report.fixedChars
    rw [parts]
    rfl
  have hundredths : ((Binary64.nearestHundredth m e : Nat) : Rat) / 100 = nearestHundredths (m * 2 ^ e) := by
    rw [nearestHundredths, ← size, Int.cast_natCast]
  rw [shown, read, value, hundredths, nearest_hundredths_signed]

-- A hundredth can be read off the nearest double, so what is not zero is not shown as zero.
theorem hundredths_nonzero (q : Rat) (sized : HundredthsSize q) (small : q < beyond) (nonzero : q ≠ 0) :
    0 < (nearestEven (100 * q)).toNat := by
  obtain ⟨_, n, rfl⟩ := sized.resolve_right small.ne
  have counted : 1 ≤ n := by
    refine Nat.one_le_iff_ne_zero.mpr fun zero => nonzero ?_
    rw [zero, Nat.cast_zero, zero_div, on_grid_zero]
  have fine : gridExponent ((1 : Nat) / 100) ≤ -7 := by
    have coarse := (coarse_iff ((1 : Nat) / 100 : Rat) (by norm_num)).not.mpr (by norm_num)
    omega
  have one := fine_hundredth 1 fine
  have order : onGrid ((1 : Nat) / 100) ≤ onGrid (n / 100) := by
    exact on_grid_mono _ _ (div_le_div_of_nonneg_right (Nat.cast_le.mpr counted) (by norm_num))
  have above := nearest_even_mono (100 * onGrid ((1 : Nat) / 100)) (100 * onGrid (n / 100)) (by linarith)
  rw [one] at above
  omega

end Rounded

section Text

theorem digit_no_comma (c : Char) (digit : c.isDigit = true) : (c != ',') = true :=
  bne_iff_ne.mpr fun comma => by simp [comma] at digit

theorem without_commas (n : Nat) :
    Report.withoutCommas (Report.hundredthsText n) = Decimal.numeral (n / 100) ++
      Report.pointed (Report.withoutTrailingZeros (Report.twoPlaces (n % 100))) := by
  have whole : Report.withoutCommas (Report.grouped (Decimal.numeral (n / 100))) = Decimal.numeral (n / 100) := by
    refine (List.filter_congr fun c member => ?_).trans (grouped_digits _ (numeral_digits (n / 100)))
    rcases grouped_numeral _ c member with digit | rfl
    · rw [digit, digit_no_comma c digit]
    · rfl
  have behind : ∀ c ∈ Report.pointed (Report.withoutTrailingZeros (Report.twoPlaces (n % 100))), (c != ',') = true := by
    unfold Report.pointed
    split
    · exact List.forall_mem_nil _
    · exact List.forall_mem_cons.mpr
        ⟨rfl, fun c member => digit_no_comma c (two_places_digits _ c (trimmed_mem _ c member))⟩
  exact (List.filter_append _ _).trans (congrArg₂ (· ++ ·) whole (List.filter_eq_self.mpr behind))

variable (x : Float)

def shownHundredths : Nat := (nearestEven (100 * |doubleValue (Report.rounded x)|)).toNat

theorem shown_value : (shownHundredths x : Rat) / 100 = nearestHundredths |doubleValue (Report.rounded x)| := by
  have nonnegative := le_nearest_even (100 * |doubleValue (Report.rounded x)|) 0 (by positivity)
  unfold nearestHundredths shownHundredths
  rw [← Int.cast_natCast, Int.toNat_of_nonneg nonnegative]

variable (fits : (x * 100).isFinite = true)

include fits

theorem fitting_chars :
    Report.amountChars x =
      (if Report.rounded x < 0 then ['-'] else []) ++ Report.hundredthsText (shownHundredths x) := by
  obtain ⟨finite, _⟩ := rounded_hundredths x fits
  refine congrArg _ ((size_chars_value _ (finite_number _ finite)).trans ?_)
  exact if_pos (finite_value _ finite)

theorem fitting_negative : Report.rounded x < 0 ↔ doubleValue (Report.rounded x) < 0 :=
  double_lt_value _ 0 (finite_number _ (rounded_hundredths x fits).1) rfl

theorem amount_read :
    numberRead? (Report.withoutCommas (Report.amountChars x)) =
      some (nearestHundredths (doubleValue (Report.rounded x))) := by
  have places : fractionValue (Report.withoutTrailingZeros (Report.twoPlaces (shownHundredths x % 100))) =
      (shownHundredths x % 100 : Nat) / 100 :=
    (fraction_value_trimmed _).trans (two_places_value _ (Nat.mod_lt _ (by decide)))
  have read := hundredths_number_read (decide (Report.rounded x < 0)) (shownHundredths x) _
    (fun c member => two_places_digits _ c (trimmed_mem _ c member)) places
  have signs : (if decide (Report.rounded x < 0) then ['-'] else []).filter (· != ',') =
      if decide (Report.rounded x < 0) then ['-'] else [] := by split <;> rfl
  have shown : Report.withoutCommas (Report.amountChars x) = (if decide (Report.rounded x < 0) then ['-'] else []) ++
      (Decimal.numeral (shownHundredths x / 100) ++
        Report.pointed (Report.withoutTrailingZeros (Report.twoPlaces (shownHundredths x % 100)))) := by
    rw [fitting_chars x fits, ← without_commas, ← signs]
    simp only [decide_eq_true_eq]
    exact List.filter_append _ _
  have negative := fitting_negative x fits
  rw [shown, read, shown_value, ← nearest_hundredths_abs (doubleValue (Report.rounded x))]
  simp only [decide_eq_true_eq, negative]

theorem amount_unsigned : '-' ∈ Report.amountChars x ↔ Report.rounded x < 0 := by
  have free : '-' ∉ Report.hundredthsText (shownHundredths x) := by
    intro member
    rcases hundredths_text_letters _ '-' member with digit | comma | point
    · cases digit
    · cases comma
    · cases point
  rw [fitting_chars x fits, List.mem_append, or_iff_left free]
  split
  · rename_i negative
    simp [negative]
  · rename_i other
    simp [other]

theorem amount_not_minus_zero : Report.amountChars x ≠ ['-', '0'] := by
  have number := finite_number x (mul_operands x 100 fits).1
  have small := finite_value _ (rounded_hundredths x fits).1
  intro same
  have negative := (amount_unsigned x fits).mp (same ▸ List.mem_cons_self)
  rw [fitting_chars x fits, if_pos negative] at same
  have single : Report.hundredthsText (shownHundredths x) = ['0'] := (List.cons.inj same).2
  have zero : shownHundredths x = 0 := by
    rw [← hundredths_read (shownHundredths x), single]
    rfl
  have nonzero := abs_ne_zero.mpr ((fitting_negative x fits).mp negative).ne
  exact (hundredths_nonzero _ (rounded_size x number) small nonzero).ne' zero

end Text

theorem amount_form (x : Float) (fits : (x * 100).isFinite = true) :
    let text := (Report.amount x).toList
    (∃ whole fraction, text = (if Report.rounded x < 0 then ['-'] else []) ++ (whole ++ fraction) ∧
        Report.Grouped whole ∧ Report.IsFraction fraction) ∧
      ('-' ∈ text ↔ Report.rounded x < 0) ∧ text ≠ ['-', '0'] ∧
      numberRead? (Report.withoutCommas text) = numberRead? (Report.fixedChars (Report.rounded x)) ∧
      numberRead? (Report.withoutCommas text) = some (nearestHundredths (doubleValue (Report.rounded x))) := by
  have shown : (Report.amount x).toList = Report.amountChars x := String.toList_ofList
  have fixed := fixed_read (Report.rounded x) (rounded_hundredths x fits).1
  have read := amount_read x fits
  rw [shown]
  refine ⟨⟨_, Report.fractionText (shownHundredths x % 100), ?_, numeral_grouped (shownHundredths x / 100),
    fraction_form _⟩, amount_unsigned x fits, amount_not_minus_zero x fits, read.trans fixed.symm, read⟩
  rw [← hundredths_text_parts]
  exact fitting_chars x fits

theorem amount_form_millions :
    (((-1234567.895 : Float) * 100).isFinite = true ∧ ((-0.004 : Float) * 100).isFinite = true) ∧
      (Report.amount (-1234567.895)).toList = "-1,234,567.9".toList ∧ (Report.amount (-0.004)).toList = ['0'] ∧
      numberRead? (Report.withoutCommas "-1,234,567.9".toList) =
        numberRead? (Report.fixedChars (Report.rounded (-1234567.895))) ∧
      ('-' ∈ ['0'] ↔ Report.rounded (-0.004) < 0) := by
  have large : ((-1234567.895 : Float) * 100).isFinite = true := by decide +kernel
  have small : ((-0.004 : Float) * 100).isFinite = true := by decide +kernel
  have shown : (Report.amount (-1234567.895)).toList = "-1,234,567.9".toList := by decide +kernel
  have zero : (Report.amount (-0.004)).toList = ['0'] := by decide +kernel
  obtain ⟨_, _, _, read, _⟩ := amount_form (-1234567.895) large
  obtain ⟨_, sign, _⟩ := amount_form (-0.004) small
  rw [shown] at read
  rw [zero] at sign
  exact ⟨⟨large, small⟩, shown, zero, read, sign⟩

end PlanarLP
