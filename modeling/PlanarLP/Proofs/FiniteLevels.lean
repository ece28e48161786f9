import PlanarLP.Plot
import PlanarLP.Proofs.DoubleArithmetic

set_option autoImplicit false

namespace PlanarLP

theorem relative_half_small : relativeHalf ≤ 1 / 1000 := by
  rw [relativeHalf]
  norm_num

theorem rounded_loosely (q : Rat) (nonnegative : 0 ≤ q) : rounded q ≤ q * (1001 / 1000) + fineHalf := by
  have upper := rounded_upper q nonnegative
  have relative : q * relativeHalf ≤ q * (1 / 1000) := mul_le_mul_of_nonneg_left relative_half_small nonnegative
  linarith

theorem coarse_half_small : coarseHalf ≤ beyond / 1000 := by
  have unit := beyond_relative
  have relative : beyond * relativeHalf ≤ beyond * (1 / 1000) :=
    mul_le_mul_of_nonneg_left relative_half_small beyond_positive.le
  have positive := coarse_half_positive
  linarith

theorem fine_half_small : 50 * fineHalf < coarseHalf := by
  have less := fine_less_coarse
  have fewer : 50 * fineHalf ≤ 2 ^ (64 : Int) * fineHalf :=
    mul_le_mul_of_nonneg_right (by norm_num) fine_half_positive.le
  linarith

section Steps

variable (n i : Nat) (inside : i < n) (few : n ≤ 40)

def stepped (gap : Rat) : Rat := rounded (rounded (rounded gap / n) * i)

theorem stepped_neg (gap : Rat) : stepped n i (-gap) = -stepped n i gap := by
  rw [stepped, rounded_neg, neg_div, rounded_neg, neg_mul, rounded_neg, stepped]

include inside few

-- The last step taken is one short of the whole gap, which outweighs three roundings.
theorem stepped_short (gap : Rat) (nonnegative : 0 ≤ gap) :
    0 ≤ stepped n i gap ∧ stepped n i gap ≤ gap * (99 / 100) + 50 * fineHalf := by
  have count : (0 : Rat) < n := by exact_mod_cast Nat.zero_lt_of_lt inside
  have index : (0 : Rat) ≤ i := i.cast_nonneg
  have last : (i : Rat) ≤ 39 := by exact_mod_cast (by omega : i ≤ 39)
  have share : (i : Rat) / n ≤ 39 / 40 := by
    have below : (i : Rat) + 1 ≤ n := by exact_mod_cast inside
    have most : (n : Rat) ≤ 40 := by exact_mod_cast few
    rw [div_le_div_iff₀ count (by norm_num)]
    linarith
  have whole := rounded_nonnegative gap nonnegative
  have part := rounded_nonnegative _ (div_nonneg whole count.le)
  have wholeUpper := rounded_loosely gap nonnegative
  have partUpper := rounded_loosely _ (div_nonneg whole count.le)
  have product : rounded (rounded gap / n) * i ≤ rounded gap * (1001 / 1000) * (39 / 40) + 39 * fineHalf := by
    calc rounded (rounded gap / n) * i
        ≤ (rounded gap / n * (1001 / 1000) + fineHalf) * i := mul_le_mul_of_nonneg_right partUpper index
      _ = rounded gap * (1001 / 1000) * (i / n) + i * fineHalf := by ring
      _ ≤ rounded gap * (1001 / 1000) * (39 / 40) + 39 * fineHalf :=
          add_le_add (mul_le_mul_of_nonneg_left share (by linarith))
            (mul_le_mul_of_nonneg_right last fine_half_positive.le)
  have final := rounded_loosely _ (mul_nonneg part index)
  have fine := fine_half_positive
  refine ⟨rounded_nonnegative _ (mul_nonneg part index), final.trans ?_⟩
  linarith

theorem level_between (start stop : Rat) (order : start ≤ stop) (first : |start| ≤ beyond - 2 * coarseHalf)
    (last : |stop| ≤ beyond - 2 * coarseHalf) (finite : |rounded (stop - start)| < beyond) :
    |stepped n i (stop - start)| < beyond ∧ |rounded (start + stepped n i (stop - start))| < beyond := by
  have nonnegative : 0 ≤ stop - start := sub_nonneg.mpr order
  obtain ⟨low, high⟩ := stepped_short n i inside few (stop - start) nonnegative
  have gap : stop - start < beyond := by
    by_contra large
    have carried := rounded_mono _ _ (not_lt.mp large)
    rw [rounded_beyond] at carried
    linarith [(abs_lt.mp finite).2]
  have fine := fine_half_small
  have coarse := coarse_half_small
  have positive := coarse_half_positive
  have bottom := (abs_le.mp first).1
  have top := (abs_le.mp last).2
  refine ⟨?_, rounded_finite _ ?_⟩
  · rw [abs_of_nonneg low]
    linarith
  · rw [abs_lt]
    constructor <;> linarith

theorem level_finite (start stop : Rat) (first : |start| ≤ beyond - 2 * coarseHalf)
    (last : |stop| ≤ beyond - 2 * coarseHalf) (finite : |rounded (stop - start)| < beyond) :
    |stepped n i (stop - start)| < beyond ∧ |rounded (start + stepped n i (stop - start))| < beyond := by
  rcases le_total start stop with order | order
  · exact level_between n i inside few start stop order first last finite
  · have turned : -stop - -start = -(stop - start) := by ring
    have mirrored := level_between n i inside few (-start) (-stop) (neg_le_neg order) (by rwa [abs_neg])
      (by rwa [abs_neg]) (by rwa [turned, rounded_neg, abs_neg])
    rw [turned, stepped_neg, abs_neg, ← neg_add, rounded_neg, abs_neg] at mirrored
    exact mirrored

end Steps

theorem level_count_few (goal : Goal) : goal.levelCount ≤ 40 := by
  cases goal <;> decide

theorem few_natural (n : Nat) (few : n ≤ 40) :
    (Scalar.natural n : Float).isFinite = true ∧ doubleValue (Scalar.natural n) = n := by
  obtain ⟨finite, value⟩ := natural_value n (by omega)
  exact ⟨finite, value.trans (whole_rounded n (by omega))⟩

theorem even_level_finite (start stop : Float) (n i : Nat) (inside : i < n) (few : n ≤ 40)
    (finite : ((stop - start) / Scalar.natural n).isFinite = true) :
    (start + (stop - start) / Scalar.natural n * Scalar.natural i).isFinite = true := by
  have gapFinite := div_dividend _ _ finite
  obtain ⟨stopFinite, startFinite⟩ := sub_operands stop start gapFinite
  obtain ⟨countFinite, count⟩ := few_natural n few
  obtain ⟨indexFinite, index⟩ := few_natural i (by omega)
  have nonzero : doubleValue (Scalar.natural n) ≠ 0 := by
    rw [count]
    exact_mod_cast (Nat.zero_lt_of_lt inside).ne'
  have gap := (sub_value stop start stopFinite startFinite).2
  have step := (div_value _ _ gapFinite countFinite nonzero).2
  have product := mul_value _ _ finite indexFinite
  have small := finite_value _ gapFinite
  rw [gap] at small step
  rw [count] at step
  rw [step, index] at product
  obtain ⟨steppedSmall, levelSmall⟩ := level_finite n i inside few (doubleValue start) (doubleValue stop)
    (finite_top start startFinite) (finite_top stop stopFinite) small
  have steppedFinite := read_finite _ _ product steppedSmall
  have sum := add_value start _ startFinite steppedFinite
  rw [product.2] at sum
  exact read_finite _ _ sum levelSmall

theorem isoline_levels_finite (goal : Goal) (o : Objective Float) (b : Bounds Float) (target : Float) :
    ∀ level ∈ isolineLevels goal o b target, level.isFinite = true := by
  intro level member
  unfold isolineLevels at member
  dsimp only at member
  split at member
  · cases member
  · rename_i drawn
    rw [Bool.or_eq_true, not_or, Bool.not_eq_true', Bool.not_eq_false] at drawn
    obtain ⟨i, inside, rfl⟩ := List.mem_map.mp member
    exact even_level_finite _ _ goal.levelCount i (List.mem_range.mp inside) (level_count_few goal) drawn.2

end PlanarLP
