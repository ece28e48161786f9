import PlanarLP.Proofs.DoubleValue

set_option autoImplicit false

namespace PlanarLP

open Float.Model (UnpackedFloat Format totalExponent)
open Float.Model.UnpackedFloat (Sign Accuracy ExtendedMantissa)

-- A number in units of the last bit of the mantissa, and where it stands within its unit.
def Describes (em : ExtendedMantissa) (r : Rat) : Prop :=
  match em.roundBit, em.stickyBit with
  | false, false => r = em.mantissa
  | false, true => em.mantissa < r ∧ r < em.mantissa + 1 / 2
  | true, false => r = em.mantissa + 1 / 2
  | true, true => em.mantissa + 1 / 2 < r ∧ r < em.mantissa + 1

theorem described_unit (em : ExtendedMantissa) (r : Rat) (describes : Describes em r) :
    (em.mantissa : Rat) ≤ r ∧ r < em.mantissa + 1 := by
  obtain ⟨m, round, sticky⟩ := em
  cases round <;> cases sticky <;> simp only [Describes] at describes <;> constructor <;> linarith

theorem described_rounded (em : ExtendedMantissa) (r : Rat) (describes : Describes em r) :
    nearestEven r = em.roundedMantissa := by
  have floor : ⌊r⌋ = (em.mantissa : Int) := Int.floor_eq_iff.mpr (by exact_mod_cast described_unit em r describes)
  obtain ⟨m, round, sticky⟩ := em
  have cast : ((⌊r⌋ : Int) : Rat) = m := by rw [floor]; rfl
  unfold nearestEven
  rw [cast, floor]
  cases round <;> cases sticky <;> simp only [Describes] at describes
  · rw [if_pos (by linarith)]
    rfl
  · rw [if_pos (by linarith)]
    rfl
  · rw [if_neg (by linarith), if_neg (by linarith)]
    rfl
  · rw [if_neg (by linarith), if_pos (by linarith)]
    rfl

theorem described_half (em : ExtendedMantissa) (r : Rat) (describes : Describes em r) :
    Describes em.shiftRightOne (r / 2) := by
  obtain ⟨m, round, sticky⟩ := em
  have halves : (m : Rat) = 2 * (m / 2 : Nat) + (m % 2 : Nat) := by exact_mod_cast (Nat.div_add_mod m 2).symm
  rcases Nat.mod_two_eq_zero_or_one m with even | odd
  · rw [even, Nat.cast_zero] at halves
    cases round <;> cases sticky <;>
      simp only [Describes, ExtendedMantissa.shiftRightOne, even, Bool.or_false, Bool.or_true, bne_self_eq_false]
        at describes ⊢ <;>
      (try constructor) <;> linarith
  · rw [odd, Nat.cast_one] at halves
    have last : (1 != 0) = true := rfl
    cases round <;> cases sticky <;>
      simp only [Describes, ExtendedMantissa.shiftRightOne, odd, Bool.or_false, Bool.or_true, last] at describes ⊢ <;>
      (try constructor) <;> linarith

theorem described_shift (em : ExtendedMantissa) (r : Rat) (n : Nat) (describes : Describes em r) :
    Describes (em >>> n) (r / 2 ^ n) := by
  induction n with
  | zero =>
      rw [pow_zero, div_one]
      exact describes
  | succ n ih =>
      rw [pow_succ, ← div_div]
      exact described_half _ _ ih

theorem described_exact (m : Nat) : Describes (.ofMantissaAndAccuracy m .exact) m := rfl

theorem target_exponent (m : Nat) (e : Int) :
    Format.binary64.targetExponent (totalExponent m e) = max (m.log2 + e - 52) (-1074) := by
  change max ((m.log2 : Int) + 1 + e - 53) (-1074) = _
  congr 1
  ring

theorem log_described (m : Nat) (e : Int) (r : Rat) (nonzero : m ≠ 0) (low : (m : Rat) ≤ r) (high : r < m + 1) :
    Int.log 2 (r * 2 ^ e) = m.log2 + e := by
  have reached : (2 : Rat) ^ (m.log2 : Int) ≤ m := by exact_mod_cast Nat.log2_self_le nonzero
  have short : (m : Rat) + 1 ≤ 2 ^ ((m.log2 : Int) + 1) := by exact_mod_cast Nat.lt_log2_self
  have positive : 0 < r * 2 ^ e := mul_pos ((zpow_pos two_pos _).trans_le (reached.trans low)) (zpow_pos two_pos e)
  refine le_antisymm (Int.lt_add_one_iff.mp ?_) ?_
  · rw [← Int.lt_zpow_iff_log_lt (by norm_num) positive, add_right_comm]
    push_cast
    rw [zpow_add₀ two_ne_zero]
    exact mul_lt_mul_of_pos_right (high.trans_le short) (zpow_pos two_pos e)
  · rw [← Int.zpow_le_iff_le_log (by norm_num) positive]
    push_cast
    rw [zpow_add₀ two_ne_zero]
    exact mul_le_mul_of_nonneg_right (reached.trans low) (zpow_nonneg zero_le_two e)

theorem grid_exponent_leading (m : Nat) (e : Int) (r : Rat) (nonzero : m ≠ 0) (low : (m : Rat) ≤ r) (high : r < m + 1) :
    gridExponent (r * 2 ^ e) = max (m.log2 + e - 52) (-1074) := by
  have positive : 0 < r := (Nat.cast_pos.mpr (Nat.pos_of_ne_zero nonzero)).trans_le low
  rw [gridExponent, abs_of_pos (mul_pos positive (zpow_pos two_pos e)), log_described m e r nonzero low high]

-- An empty mantissa has all its bits below the least spacing.
theorem grid_exponent_described (m : Nat) (e : Int) (r : Rat) (positive : 0 < r) (low : (m : Rat) ≤ r)
    (high : r < m + 1) (enough : e ≤ gridExponent (r * 2 ^ e)) :
    gridExponent (r * 2 ^ e) = max (m.log2 + e - 52) (-1074) := by
  by_cases zero : m = 0
  · subst zero
    have above := mul_pos positive (zpow_pos two_pos e)
    have fraction : r * 2 ^ e < ((2 : Nat) : Rat) ^ e :=
      mul_lt_of_lt_one_left (zpow_pos two_pos e) (by simpa using high)
    have log := (Int.lt_zpow_iff_log_lt (by norm_num) above).mp fraction
    rw [gridExponent, abs_of_pos above] at enough ⊢
    change _ = max (((0 : Nat) : Int) + e - 52) (-1074)
    omega
  · exact grid_exponent_leading m e r zero low high

theorem shift_to_exponent (m : Nat) (e t : Int) (accuracy : Accuracy) (order : e ≤ t) :
    UnpackedFloat.shiftToExponent m e accuracy t =
      (ExtendedMantissa.ofMantissaAndAccuracy m accuracy >>> (t - e).toNat, t) := by
  have reached : e + ((t - e).toNat : Int) = t := by omega
  exact congrArg (Prod.mk _) reached

structure Reads (u : UnpackedFloat) (q : Rat) : Prop where
  normal : Normal u
  number : u.isNaN = false
  value : unpackedValue u = q

def settled (s : Sign) (m : Nat) (e : Int) : UnpackedFloat :=
  if nonzero : m = 0 then .zero s else .finite s m e (Nat.pos_of_ne_zero nonzero)

theorem settled_reads (s : Sign) (m : Nat) (e : Int) (bits : m < 2 ^ 53) (low : -1074 ≤ e)
    (full : 2 ^ 52 ≤ m ∨ e = -1074) : Reads (settled s m e) (signed s (m * 2 ^ e)) := by
  unfold settled
  by_cases zero : m = 0
  · rw [dif_pos zero, zero, Nat.cast_zero, zero_mul]
    refine ⟨trivial, rfl, ?_⟩
    cases s with
    | positive => rfl
    | negative => exact neg_zero.symm
  · rw [dif_neg zero]
    exact ⟨⟨bits, low, full⟩, rfl, rfl⟩

-- Rounding up may fill one bit too many, which the second shift drops: it is a zero.
theorem carried_reads (s : Sign) (m : Nat) (e : Int) (bits : m ≤ 2 ^ 53) (low : -1074 ≤ e)
    (full : 2 ^ 52 ≤ m ∨ e = -1074) :
    Reads
      (settled s (UnpackedFloat.shiftToTargetExponent Format.binary64 m e .exact).1.mantissa
        (UnpackedFloat.shiftToTargetExponent Format.binary64 m e .exact).2)
      (signed s (m * 2 ^ e)) := by
  unfold UnpackedFloat.shiftToTargetExponent
  rw [target_exponent]
  rcases bits.lt_or_eq with short | carry
  · have small : m.log2 ≤ 52 := by
      by_cases zero : m = 0
      · rw [zero]
        decide
      · exact Nat.lt_succ_iff.mp ((Nat.log2_lt zero).mpr short)
    have stays : (max ((m.log2 : Int) + e - 52) (-1074) - e).toNat = 0 := by omega
    have unchanged : UnpackedFloat.shiftToExponent m e .exact (max (m.log2 + e - 52) (-1074)) =
        (⟨m, false, false⟩, e) := by
      unfold UnpackedFloat.shiftToExponent
      rw [stays]
      simp only [Nat.cast_zero, add_zero]
      rfl
    rw [unchanged]
    exact settled_reads s m e short low full
  · subst carry
    have exponent : max (((2 ^ 53 : Nat).log2 : Int) + e - 52) (-1074) = e + 1 := by
      rw [Nat.log2_two_pow]
      omega
    rw [exponent, shift_to_exponent _ _ _ _ (by omega), add_sub_cancel_left]
    have halved := settled_reads s (2 ^ 52) (e + 1) (by norm_num) (by omega) (.inl le_rfl)
    have same : ((2 ^ 52 : Nat) : Rat) * 2 ^ (e + 1) = ((2 ^ 53 : Nat) : Rat) * 2 ^ e := by
      rw [zpow_add₀ two_ne_zero]
      push_cast
      ring
    rw [same] at halved
    exact halved

theorem round_accuracy_settled (s : Sign) (m : Nat) (e t : Int) (accuracy : Accuracy) (order : e ≤ t)
    (target : Format.binary64.targetExponent (totalExponent m e) = t) (k : Nat)
    (rounded : (ExtendedMantissa.ofMantissaAndAccuracy m accuracy >>> (t - e).toNat).roundedMantissa = k) :
    UnpackedFloat.roundWithAccuracy Format.binary64 s m e accuracy =
      settled s (UnpackedFloat.shiftToTargetExponent Format.binary64 k t .exact).1.mantissa
        (UnpackedFloat.shiftToTargetExponent Format.binary64 k t .exact).2 := by
  have first : UnpackedFloat.shiftToTargetExponent Format.binary64 m e accuracy =
      (ExtendedMantissa.ofMantissaAndAccuracy m accuracy >>> (t - e).toNat, t) := by
    unfold UnpackedFloat.shiftToTargetExponent
    rw [target, shift_to_exponent m e t accuracy order]
  unfold UnpackedFloat.roundWithAccuracy
  rw [first, ← rounded]
  rfl

theorem scaled_bounds (q : Rat) (positive : 0 < q) :
    q / 2 ^ gridExponent q ≤ (2 ^ 53 : Int) ∧ ((2 ^ 52 : Int) ≤ q / 2 ^ gridExponent q ∨ gridExponent q = -1074) := by
  have magnitude : |q| = q := abs_of_pos positive
  constructor
  · have under : q < 2 ^ (Int.log 2 q + 1) := Int.lt_zpow_succ_log_self (by norm_num) q
    have exponent : Int.log 2 q + 1 ≤ 53 + gridExponent q := by
      rw [gridExponent, magnitude]
      omega
    have wide := under.le.trans (zpow_le_zpow_right₀ one_le_two exponent)
    rw [zpow_add₀ two_ne_zero 53] at wide
    rw [div_le_iff₀ (zpow_pos two_pos _)]
    exact_mod_cast wide
  · by_cases least : gridExponent q = -1074
    · exact .inr least
    · left
      have exponent : 52 + gridExponent q = Int.log 2 q := by
        rw [gridExponent, magnitude] at least ⊢
        omega
      have above : (2 : Rat) ^ Int.log 2 q ≤ q := Int.zpow_log_le_self (by norm_num) positive
      rw [← exponent, zpow_add₀ two_ne_zero] at above
      rw [le_div_iff₀ (zpow_pos two_pos _)]
      exact_mod_cast above

theorem round_accuracy_reads (s : Sign) (m : Nat) (e : Int) (accuracy : Accuracy) (r : Rat) (positive : 0 < r)
    (describes : Describes (.ofMantissaAndAccuracy m accuracy) r) (enough : e ≤ gridExponent (r * 2 ^ e)) :
    Reads (UnpackedFloat.roundWithAccuracy Format.binary64 s m e accuracy) (signed s (onGrid (r * 2 ^ e))) := by
  have start : (ExtendedMantissa.ofMantissaAndAccuracy m accuracy).mantissa = m := by
    cases accuracy with
    | exact => rfl
    | inexact place => cases place <;> rfl
  obtain ⟨low, high⟩ := described_unit _ r describes
  rw [start] at low high
  have target := grid_exponent_described m e r positive low high enough
  obtain ⟨short, full⟩ := scaled_bounds _ (mul_pos positive (zpow_pos two_pos e))
  obtain ⟨q, quantity⟩ : ∃ q, q = r * 2 ^ e := ⟨_, rfl⟩
  rw [← quantity] at enough target short full ⊢
  have shifted := described_shift _ r (gridExponent q - e).toNat describes
  have scaled : r / 2 ^ (gridExponent q - e).toNat = q / 2 ^ gridExponent q := by
    have split : (2 : Rat) ^ gridExponent q = 2 ^ e * 2 ^ (gridExponent q - e).toNat := by
      rw [← zpow_natCast, ← zpow_add₀ two_ne_zero]
      congr 1
      omega
    rw [split, ← div_div, ← eq_div_of_mul_eq (zpow_ne_zero e two_ne_zero) quantity.symm]
  rw [scaled] at shifted
  have nearest := described_rounded _ _ shifted
  obtain ⟨k, mantissa⟩ : ∃ k,
      (ExtendedMantissa.ofMantissaAndAccuracy m accuracy >>> (gridExponent q - e).toNat).roundedMantissa = k := ⟨_, rfl⟩
  rw [mantissa] at nearest
  have reads : onGrid q = k * 2 ^ gridExponent q := by
    rw [onGrid, nearest]
    rfl
  rw [round_accuracy_settled s m e _ accuracy enough ((target_exponent m e).trans target.symm) k mantissa, reads]
  refine carried_reads s k _ ?_ (le_max_right _ _) ?_
  · have bound := nearest_even_le _ _ short
    rw [nearest] at bound
    exact_mod_cast bound
  · refine full.imp_left fun large => ?_
    have bound := le_nearest_even _ _ large
    rw [nearest] at bound
    exact_mod_cast bound

theorem round_reads (s : Sign) (m : Nat) (e : Int) (positive : 0 < m) :
    Reads (UnpackedFloat.round Format.binary64 s m e) (signed s (onGrid (m * 2 ^ e))) := by
  have target := grid_exponent_leading m e m positive.ne' le_rfl (by linarith)
  rw [← target_exponent] at target
  have rescaled : ((m <<< (e - gridExponent (m * 2 ^ e)).toNat : Nat) : Rat) *
      2 ^ (e - ((e - gridExponent (m * 2 ^ e)).toNat : Int)) = m * 2 ^ e := by
    rw [Nat.shiftLeft_eq]
    push_cast
    rw [mul_assoc, ← zpow_natCast, ← zpow_add₀ two_ne_zero]
    congr 2
    omega
  have wide : 0 < m <<< (e - gridExponent (m * 2 ^ e)).toNat := by
    rw [Nat.shiftLeft_eq]
    positivity
  have reads := round_accuracy_reads s _ (e - ((e - gridExponent (m * 2 ^ e)).toNat : Int)) .exact _
    (by exact_mod_cast wide) (described_exact _) (by rw [rescaled]; omega)
  rw [rescaled] at reads
  unfold UnpackedFloat.round UnpackedFloat.decreaseExponent
  rw [← target]
  exact reads

theorem normalize_reads (n e : Int) (zero : Sign) :
    Reads (UnpackedFloat.normalize Format.binary64 n e zero) (onGrid (n * 2 ^ e)) := by
  unfold UnpackedFloat.normalize
  rcases lt_trichotomy n 0 with negative | none | positive
  · rw [Int.compare_eq_lt.mpr negative]
    have reads := round_reads .negative (-n).toNat e (by omega)
    have magnitude : (((-n).toNat : Nat) : Rat) = -n := by exact_mod_cast Int.toNat_of_nonneg (by omega)
    rw [magnitude, neg_mul, on_grid_neg] at reads
    change Reads _ (- -_) at reads
    rwa [neg_neg] at reads
  · rw [none, Int.compare_eq_eq.mpr rfl, Int.cast_zero, zero_mul, on_grid_zero]
    exact ⟨trivial, rfl, rfl⟩
  · rw [Int.compare_eq_gt.mpr positive]
    have reads := round_reads .positive n.toNat e (by omega)
    have magnitude : ((n.toNat : Nat) : Rat) = n := by exact_mod_cast Int.toNat_of_nonneg positive.le
    rw [magnitude] at reads
    exact reads

end PlanarLP
