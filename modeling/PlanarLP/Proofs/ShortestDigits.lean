import PlanarLP.Decimal.Shortest
import PlanarLP.Proofs.NearestEven

set_option autoImplicit false

namespace PlanarLP

theorem multiple_cases (n : Neighbourhood) (tie : Tie) (step digits : Nat) (hit : n.multiple? tie step = some digits) :
    n.within (n.value % step) n.below = true ∧ digits = n.value / step ∨
      n.within (step - n.value % step) n.above = true ∧ digits = n.value / step + 1 := by
  unfold Neighbourhood.multiple? at hit
  dsimp only at hit
  split at hit
  · exact .inl ⟨‹_›, (Option.some.inj hit).symm⟩
  · exact .inr ⟨‹_›, (Option.some.inj hit).symm⟩
  · cases hit
  · split_ifs at hit
    · exact .inl ⟨‹_›, (Option.some.inj hit).symm⟩
    · exact .inr ⟨‹_›, (Option.some.inj hit).symm⟩
    · exact .inl ⟨‹_›, (Option.some.inj hit).symm⟩
    · exact .inr ⟨‹_›, (Option.some.inj hit).symm⟩

theorem multiple_positive (n : Neighbourhood) (tie : Tie) (step digits : Nat) (far : n.below < n.value)
    (hit : n.multiple? tie step = some digits) : 0 < digits := by
  rcases multiple_cases n tie step digits hit with ⟨near, rfl⟩ | ⟨_, rfl⟩
  · by_contra none
    have short : n.value % step = n.value := by
      have parts := Nat.div_add_mod n.value step
      rw [Nat.eq_zero_of_not_pos none] at parts
      simpa using parts
    rw [short] at near
    simp [Neighbourhood.within, far.not_gt, far.ne'] at near
  · exact Nat.succ_pos _

theorem search_positive (n : Neighbourhood) (tie : Tie) (level : Nat) (far : n.below < n.value)
    (coarse : 0 < n.value / n.unit) : 0 < (n.search tie level).digits := by
  induction level with
  | zero =>
    unfold Neighbourhood.search
    cases hit : n.multiple? tie n.unit with
    | none => exact coarse
    | some digits => exact multiple_positive n tie n.unit digits far hit
  | succ level ih =>
    unfold Neighbourhood.search
    split
    · exact multiple_positive n tie _ _ far ‹_›
    · exact ih

theorem power_toNat (base : Rat) (nonzero : base ≠ 0) (e : Int) :
    base ^ e.toNat = base ^ e * base ^ (-e).toNat := by
  rw [← zpow_natCast, ← zpow_natCast base (-e).toNat, ← zpow_add₀ nonzero]
  congr 1
  omega

section Powers

variable (n : Nat)

-- Blocks of 59 digits fit in 196 bits, and blocks of 93 bits in 28 digits; the last block is shorter.
theorem digits_in_bits : 10 ^ n ≤ 2 ^ (n * 196 / 59 + 1) := by
  have rest : ∀ r < 59, 10 ^ r ≤ 2 ^ (r * 196 / 59 + 1) := by decide
  have block : 10 ^ 59 ≤ 2 ^ 196 := by norm_num
  calc 10 ^ n = (10 ^ 59) ^ (n / 59) * 10 ^ (n % 59) := by rw [← pow_mul, ← pow_add, Nat.div_add_mod]
    _ ≤ (2 ^ 196) ^ (n / 59) * 2 ^ (n % 59 * 196 / 59 + 1) :=
        Nat.mul_le_mul (Nat.pow_le_pow_left block _) (rest _ (Nat.mod_lt n (by decide)))
    _ = 2 ^ (n * 196 / 59 + 1) := by
        rw [← pow_mul, ← pow_add]
        congr 1
        omega

theorem bits_in_digits : 2 ^ n ≤ 10 ^ (n * 28 / 93 + 1) := by
  have rest : ∀ r < 93, 2 ^ r ≤ 10 ^ (r * 28 / 93 + 1) := by decide
  have block : 2 ^ 93 ≤ 10 ^ 28 := by norm_num
  calc 2 ^ n = (2 ^ 93) ^ (n / 93) * 2 ^ (n % 93) := by rw [← pow_mul, ← pow_add, Nat.div_add_mod]
    _ ≤ (10 ^ 28) ^ (n / 93) * 10 ^ (n % 93 * 28 / 93 + 1) :=
        Nat.mul_le_mul (Nat.pow_le_pow_left block _) (rest _ (Nat.mod_lt n (by decide)))
    _ = 10 ^ (n * 28 / 93 + 1) := by
        rw [← pow_mul, ← pow_add]
        congr 1
        omega

end Powers

theorem ten_power_le (f e : Int) (positive : 0 ≤ f) (enough : f * 196 / 59 + 1 ≤ e) : (10 : Rat) ^ f ≤ 2 ^ e := by
  obtain ⟨n, rfl⟩ := Int.eq_ofNat_of_zero_le positive
  have blocks : (10 : Rat) ^ n ≤ 2 ^ (n * 196 / 59 + 1) := by exact_mod_cast digits_in_bits n
  rw [zpow_natCast]
  refine blocks.trans ?_
  rw [← zpow_natCast]
  exact zpow_le_zpow_right₀ one_le_two (by push_cast; exact enough)

theorem two_power_le (e f : Int) (positive : 0 ≤ e) (enough : e * 28 / 93 + 1 ≤ f) : (2 : Rat) ^ e ≤ 10 ^ f := by
  obtain ⟨n, rfl⟩ := Int.eq_ofNat_of_zero_le positive
  have blocks : (2 : Rat) ^ n ≤ 10 ^ (n * 28 / 93 + 1) := by exact_mod_cast bits_in_digits n
  rw [zpow_natCast]
  refine blocks.trans ?_
  rw [← zpow_natCast]
  exact zpow_le_zpow_right₀ (by norm_num) (by push_cast; exact enough)

-- The rounded logarithm and the seventeen places after the leading one leave a quarter of the last place.
theorem finest_fine (bits : Nat) (e : Int) (short : bits ≤ 52) (low : -1074 ≤ e) (high : e ≤ 971) :
    (10 : Rat) ^ (((bits : Int) + e + 1) * 30103 / 100000 + 1 - 18) ≤ 2 ^ (e - 2) := by
  generalize floor : ((bits : Int) + e + 1) * 30103 / 100000 + 1 - 18 = f
  rcases lt_or_ge f 0 with fine | large
  · rcases lt_or_ge (e - 2) 0 with small | whole
    · have inverse := two_power_le (-(e - 2)) (-f) (by omega) (by omega)
      rw [zpow_neg, zpow_neg] at inverse
      exact (inv_le_inv₀ (zpow_pos two_pos _) (zpow_pos (by norm_num) _)).mp inverse
    · calc (10 : Rat) ^ f ≤ 10 ^ (0 : Int) := zpow_le_zpow_right₀ (by norm_num) fine.le
        _ = 2 ^ (0 : Int) := by norm_num
        _ ≤ 2 ^ (e - 2) := zpow_le_zpow_right₀ one_le_two whole
  · exact ten_power_le f _ large (by omega)

section Scale

variable (m : Nat) (e : Int)

theorem quarters_whole : (4 : Rat) * 2 ^ (e - 2) = 2 ^ e := by
  have four : (2 : Rat) ^ (2 : Int) = 4 := by norm_num
  rw [← four, ← zpow_add₀ two_ne_zero]
  congr 1
  omega

def Neighbourhood.scale : Rat := 2 ^ (2 - e).toNat * 10 ^ (-(Neighbourhood.ofDouble m e).finest).toNat

theorem scale_positive : 0 < Neighbourhood.scale m e := mul_pos (pow_pos two_pos _) (pow_pos (by norm_num) _)

theorem grain_scaled :
    ((Nat.pow 2 (e - 2).toNat * Nat.pow 10 (-(Neighbourhood.ofDouble m e).finest).toNat : Nat) : Rat) =
      2 ^ (e - 2) * Neighbourhood.scale m e := by
  have two := power_toNat 2 two_ne_zero (e - 2)
  rw [neg_sub] at two
  unfold Neighbourhood.scale
  simp only [Nat.pow_eq]
  push_cast
  rw [two, mul_assoc]

theorem neighbourhood_value : ((Neighbourhood.ofDouble m e).value : Rat) = m * 2 ^ e * Neighbourhood.scale m e := by
  change ((4 * m * (Nat.pow 2 (e - 2).toNat * Nat.pow 10 (-(Neighbourhood.ofDouble m e).finest).toNat) : Nat) : Rat) = _
  rw [Nat.cast_mul, grain_scaled, ← quarters_whole e]
  push_cast
  ring

theorem neighbourhood_below : ((Neighbourhood.ofDouble m e).below : Rat) =
    (if m = Binary64.leadingBit ∧ -1074 < e then 1 else 2) * (2 ^ (e - 2) * Neighbourhood.scale m e) := by
  change (((if m = Binary64.leadingBit ∧ -1074 < e then 1 else 2) *
    (Nat.pow 2 (e - 2).toNat * Nat.pow 10 (-(Neighbourhood.ofDouble m e).finest).toNat) : Nat) : Rat) = _
  rw [Nat.cast_mul, grain_scaled]
  split <;> norm_num

theorem neighbourhood_above :
    ((Neighbourhood.ofDouble m e).above : Rat) = 2 * (2 ^ (e - 2) * Neighbourhood.scale m e) := by
  change ((2 * (Nat.pow 2 (e - 2).toNat * Nat.pow 10 (-(Neighbourhood.ofDouble m e).finest).toNat) : Nat) : Rat) = _
  rw [Nat.cast_mul, grain_scaled, Nat.cast_ofNat]

theorem neighbourhood_unit : ((Neighbourhood.ofDouble m e).unit : Rat) =
    10 ^ (Neighbourhood.ofDouble m e).finest * Neighbourhood.scale m e := by
  have ten := power_toNat 10 (by norm_num) (Neighbourhood.ofDouble m e).finest
  change ((Nat.pow 2 (2 - e).toNat * Nat.pow 10 (Neighbourhood.ofDouble m e).finest.toNat : Nat) : Rat) = _
  unfold Neighbourhood.scale
  simp only [Nat.pow_eq]
  push_cast
  rw [ten]
  ring

variable (positive : 0 < m) (bits : m < 2 ^ 53) (low : -1074 ≤ e) (high : e ≤ 971)

include positive bits low high

theorem unit_fine : ((Neighbourhood.ofDouble m e).unit : Rat) ≤ 2 ^ (e - 2) * Neighbourhood.scale m e := by
  have short := (Nat.log2_lt positive.ne').mpr bits
  rw [neighbourhood_unit]
  exact mul_le_mul_of_nonneg_right (finest_fine m.log2 e (by omega) low high) (scale_positive m e).le

theorem unit_le_value : (Neighbourhood.ofDouble m e).unit ≤ (Neighbourhood.ofDouble m e).value := by
  have quarter : (2 : Rat) ^ (e - 2) ≤ m * 2 ^ e := by
    have one : (1 : Rat) ≤ m := by exact_mod_cast positive
    have least := mul_le_mul_of_nonneg_right one (zpow_nonneg zero_le_two e)
    have smaller : (2 : Rat) ^ (e - 2) ≤ 2 ^ e := zpow_le_zpow_right₀ one_le_two (by omega)
    linarith
  have scaled := (unit_fine m e positive bits low high).trans
    (mul_le_mul_of_nonneg_right quarter (scale_positive m e).le)
  rw [← neighbourhood_value] at scaled
  exact_mod_cast scaled

theorem shortest_positive (tie : Tie) : 0 < (Decimal.shortest tie m e).digits := by
  have grain : 0 < Nat.pow 2 (e - 2).toNat * Nat.pow 10 (-(Neighbourhood.ofDouble m e).finest).toNat :=
    Nat.mul_pos (Nat.pow_pos (by decide)) (Nat.pow_pos (by decide))
  have far : (Neighbourhood.ofDouble m e).below < (Neighbourhood.ofDouble m e).value := by
    refine Nat.mul_lt_mul_of_pos_right ?_ grain
    split <;> omega
  have step : 0 < (Neighbourhood.ofDouble m e).unit := Nat.mul_pos (Nat.pow_pos (by decide)) (Nat.pow_pos (by decide))
  unfold Decimal.shortest
  rw [if_neg positive.ne']
  exact search_positive _ tie 18 far (Nat.div_pos (unit_le_value m e positive bits low high) step)

end Scale

end PlanarLP
