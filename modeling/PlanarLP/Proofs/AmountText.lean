import PlanarLP.Proofs.Hundredths
import PlanarLP.Proofs.NumeralText

set_option autoImplicit false

namespace PlanarLP

open Float.Model (UnpackedFloat)
open Float.Model.UnpackedFloat (Sign)

namespace Report

def hundredthsRead (text : List Char) : Nat :=
  let whole := (text.takeWhile (· != '.')).filter Char.isDigit
  let fraction := (text.dropWhile (· != '.')).drop 1
  100 * digitsValue whole + digitsValue ((fraction ++ ['0', '0']).take 2)

def fractionText (hundredths : Nat) : List Char :=
  let fraction := withoutTrailingZeros (twoPlaces (hundredths % 100))
  if fraction.isEmpty then [] else '.' :: fraction

end Report

section Characters

theorem grouped_mem (digits : List Char) : ∀ c ∈ Report.grouped digits, c ∈ digits ∨ c = ',' := by
  induction digits with
  | nil => exact List.forall_mem_nil _
  | cons d rest ih =>
      have later : ∀ c ∈ Report.grouped rest, c ∈ d :: rest ∨ c = ',' := fun c member =>
        (ih c member).imp_left (List.mem_cons_of_mem d)
      unfold Report.grouped
      split
      · exact List.forall_mem_cons.mpr ⟨.inl List.mem_cons_self, List.forall_mem_cons.mpr ⟨.inr rfl, later⟩⟩
      · exact List.forall_mem_cons.mpr ⟨.inl List.mem_cons_self, later⟩

theorem grouped_digits (digits : List Char) (all : ∀ c ∈ digits, c.isDigit = true) :
    (Report.grouped digits).filter Char.isDigit = digits := by
  induction digits with
  | nil => rfl
  | cons d rest ih =>
      obtain ⟨digit, others⟩ := List.forall_mem_cons.mp all
      unfold Report.grouped
      split
      · rw [List.filter_cons_of_pos digit, List.filter_cons_of_neg (by decide), ih others]
      · rw [List.filter_cons_of_pos digit, ih others]

theorem grouped_numeral (n : Nat) : ∀ c ∈ Report.grouped (Decimal.numeral n), c.isDigit = true ∨ c = ',' :=
  fun c member => (grouped_mem _ c member).imp_left (numeral_digits n c)

def Report.FractionReads (n : Nat) : Prop :=
  ((fractionText n).takeWhile (· != '.') = [] ∧ (fractionText n).dropWhile (· != '.') = fractionText n) ∧
    digitsValue (((fractionText n).drop 1 ++ ['0', '0']).take 2) = n ∧
    (fractionText n).all (fun c => c.isDigit || c == '.') = true

instance (n : Nat) : Decidable (Report.FractionReads n) := inferInstanceAs (Decidable (_ ∧ _))

theorem fraction_reads (n : Nat) (below : n < 100) : Report.FractionReads n := by
  have all : ∀ n ∈ List.range 100, Report.FractionReads n := by decide +kernel
  exact all n (List.mem_range.mpr below)

theorem fraction_below (n : Nat) : Report.fractionText (n % 100) = Report.fractionText n := by
  unfold Report.fractionText
  rw [Nat.mod_mod]

theorem hundredths_text_parts (n : Nat) :
    Report.hundredthsText n = Report.grouped (Decimal.numeral (n / 100)) ++ Report.fractionText (n % 100) := by
  rw [fraction_below]
  rfl

theorem hundredths_read (n : Nat) : Report.hundredthsRead (Report.hundredthsText n) = n := by
  obtain ⟨⟨before, after⟩, places, _⟩ := fraction_reads (n % 100) (Nat.mod_lt n (by decide))
  have whole : ∀ c ∈ Report.grouped (Decimal.numeral (n / 100)), (c != '.') = true := by
    intro c member
    rcases grouped_numeral _ c member with digit | rfl
    · exact bne_iff_ne.mpr fun point => by simp [point] at digit
    · rfl
  unfold Report.hundredthsRead
  dsimp only
  rw [hundredths_text_parts, List.takeWhile_append_of_pos whole, List.dropWhile_append_of_pos whole, before, after,
    places, List.append_nil, grouped_digits _ (numeral_digits _), digits_value_numeral]
  exact Nat.div_add_mod n 100

theorem hundredths_text_injective : Function.Injective Report.hundredthsText :=
  Function.LeftInverse.injective hundredths_read

theorem hundredths_text_letters (n : Nat) :
    ∀ c ∈ Report.hundredthsText n, c.isDigit = true ∨ c = ',' ∨ c = '.' := by
  rw [hundredths_text_parts]
  refine List.forall_mem_append.mpr ⟨fun c member => ?_, fun c member => ?_⟩
  · exact (grouped_numeral _ c member).imp_right .inl
  · have letters := List.all_eq_true.mp (fraction_reads (n % 100) (Nat.mod_lt n (by decide))).2.2 c member
    rw [Bool.or_eq_true, beq_iff_eq] at letters
    exact letters.imp_right .inr

end Characters

section Values

theorem on_grid_abs (q : Rat) : |onGrid q| = onGrid |q| := by
  rcases le_total 0 q with nonnegative | nonpositive
  · rw [abs_of_nonneg nonnegative, abs_of_nonneg (on_grid_nonnegative q nonnegative)]
  · have turned := on_grid_nonnegative (-q) (neg_nonneg.mpr nonpositive)
    rw [on_grid_neg] at turned
    rw [abs_of_nonpos nonpositive, abs_of_nonpos (neg_nonneg.mp turned), on_grid_neg]

-- The text of a number of the given size, infinite from `beyond` on.
def Report.sizeChars (q : Rat) : List Char :=
  if q < beyond then hundredthsText (nearestEven (100 * q)).toNat else "inf".toList

def Report.valueChars (q : Rat) : List Char := (if q < 0 then ['-'] else []) ++ sizeChars |q|

theorem size_chars_value (x : Float) (number : x.isNaN = false) :
    (match Binary64.ofFloat x with
      | .finite _ mantissa exponent => Report.hundredthsText (Binary64.nearestHundredth mantissa exponent)
      | .infinite _ => "inf".toList
      | .nan => "NaN".toList) = Report.sizeChars |doubleValue x| := by
  unfold Report.sizeChars
  by_cases finite : x.isFinite = true
  · obtain ⟨s, m, e, parts, value⟩ := finite_parts x finite
    have size : |doubleValue x| = m * 2 ^ e := by
      rw [value, signed_abs, abs_of_nonneg (mul_nonneg (Nat.cast_nonneg m) (zpow_nonneg zero_le_two e))]
    rw [if_pos (finite_value x finite), parts, size, ← nearest_hundredth_value]
    rfl
  · have reached : ¬ |doubleValue x| < beyond := fun small => finite ((finite_iff x).mpr ⟨number, small⟩)
    rw [if_neg reached]
    rcases infinite_cases x number finite with rfl | rfl <;> decide +kernel

theorem amount_chars_value (x : Float) (number : x.isNaN = false) :
    Report.amountChars x = Report.valueChars (doubleValue (Report.rounded x)) := by
  have known := rounded_number x number
  have sign : Report.rounded x < 0 ↔ doubleValue (Report.rounded x) < 0 := double_lt_value _ 0 known rfl
  refine congrArg₂ (· ++ ·) ?_ (size_chars_value _ known)
  simp only [sign]

def HundredthsSize (q : Rat) : Prop := q < beyond ∧ (∃ n : Nat, q = onGrid (n / 100)) ∨ q = beyond

theorem rounded_size (x : Float) (number : x.isNaN = false) : HundredthsSize |doubleValue (Report.rounded x)| := by
  have sized (n : Int) : |onGrid ((n : Rat) / 100)| = onGrid ((n.natAbs : Rat) / 100) := by
    rw [Nat.cast_natAbs, Int.cast_abs, ← abs_of_pos (by norm_num : (0 : Rat) < 100), ← abs_div, on_grid_abs]
    norm_num
  rcases rounded_is_hundredths x number with ⟨finite, n, value⟩ | same | same
  · exact .inl ⟨finite_value _ finite, n.natAbs, (congrArg abs value).trans (sized n)⟩
  · rw [same]
    exact .inr (by decide +kernel)
  · rw [same]
    exact .inr (by decide +kernel)

theorem hundredths_nonnegative (n : Nat) : 0 ≤ nearestEven (100 * onGrid ((n : Rat) / 100)) := by
  have grid := on_grid_nonnegative ((n : Rat) / 100) (by positivity)
  refine le_nearest_even _ 0 ?_
  rw [Int.cast_zero]
  exact mul_nonneg (by norm_num) grid

theorem size_hundredths (q r : Rat) (first : HundredthsSize q) (second : HundredthsSize r) (left : q < beyond)
    (right : r < beyond) (same : (nearestEven (100 * q)).toNat = (nearestEven (100 * r)).toNat) : q = r := by
  obtain ⟨_, m, rfl⟩ := first.resolve_right left.ne
  obtain ⟨_, n, rfl⟩ := second.resolve_right right.ne
  have below := hundredths_nonnegative m
  have also := hundredths_nonnegative n
  exact nearest_hundredth_injective m n (by omega)

theorem hundredths_text_start (n : Nat) : ∃ c rest, Report.hundredthsText n = c :: rest ∧ c.isDigit = true := by
  obtain ⟨c, rest, shown⟩ := List.exists_cons_of_ne_nil (numeral_nonempty (n / 100))
  have digit := numeral_digits (n / 100) c (shown ▸ List.mem_cons_self)
  rw [hundredths_text_parts, shown, Report.grouped]
  split
  · exact ⟨c, _, rfl, digit⟩
  · exact ⟨c, _, rfl, digit⟩

theorem size_chars_start (q : Rat) : ∃ c rest, Report.sizeChars q = c :: rest ∧ c ≠ '-' := by
  unfold Report.sizeChars
  split
  · obtain ⟨c, rest, shown, digit⟩ := hundredths_text_start (nearestEven (100 * q)).toNat
    exact ⟨c, rest, shown, fun minus => by simp [minus] at digit⟩
  · exact ⟨'i', _, rfl, by decide⟩

theorem hundredths_text_finite (n : Nat) : Report.hundredthsText n ≠ "inf".toList := by
  obtain ⟨c, rest, shown, digit⟩ := hundredths_text_start n
  intro same
  rw [(List.cons.inj (shown.symm.trans same)).1] at digit
  cases digit

theorem size_chars_injective (q r : Rat) (first : HundredthsSize q) (second : HundredthsSize r)
    (same : Report.sizeChars q = Report.sizeChars r) : q = r := by
  unfold Report.sizeChars at same
  by_cases left : q < beyond
  · by_cases right : r < beyond
    · rw [if_pos left, if_pos right] at same
      exact size_hundredths q r first second left right (hundredths_text_injective same)
    · rw [if_pos left, if_neg right] at same
      exact absurd same (hundredths_text_finite _)
  · by_cases right : r < beyond
    · rw [if_neg left, if_pos right] at same
      exact absurd same.symm (hundredths_text_finite _)
    · exact (first.resolve_left fun small => left small.1).trans (second.resolve_left fun small => right small.1).symm

theorem value_chars_injective (q r : Rat) (first : HundredthsSize |q|) (second : HundredthsSize |r|)
    (same : Report.valueChars q = Report.valueChars r) : q = r := by
  have sizes := size_chars_injective |q| |r| first second
  obtain ⟨c, left, shown, plain⟩ := size_chars_start |q|
  obtain ⟨d, right, also, unsigned⟩ := size_chars_start |r|
  unfold Report.valueChars at same
  by_cases below : q < 0
  · by_cases under : r < 0
    · rw [if_pos below, if_pos under] at same
      have equal := sizes (List.append_cancel_left same)
      rw [abs_of_neg below, abs_of_neg under] at equal
      exact neg_injective equal
    · rw [if_pos below, if_neg under, also] at same
      exact absurd (List.cons.inj same).1.symm unsigned
  · by_cases under : r < 0
    · rw [if_neg below, if_pos under, shown] at same
      exact absurd (List.cons.inj same).1 plain
    · rw [if_neg below, if_neg under] at same
      have equal := sizes (List.append_cancel_left same)
      rwa [abs_of_nonneg (not_lt.mp below), abs_of_nonneg (not_lt.mp under)] at equal

theorem amount_equal (x y : Float) (number : x.isNaN = false) (other : y.isNaN = false) :
    Report.amountChars x = Report.amountChars y ↔ (Report.rounded x == Report.rounded y) = true := by
  have left := rounded_number x number
  have right := rounded_number y other
  rw [amount_chars_value x number, amount_chars_value y other]
  constructor
  · intro same
    exact double_equal_value _ _ left right
      (value_chars_injective _ _ (rounded_size x number) (rounded_size y other) same)
  · intro equal
    exact congrArg _ (alike_value _ _ (.inl equal)).2

end Values

end PlanarLP
