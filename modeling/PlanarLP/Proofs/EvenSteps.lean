import PlanarLP.Plot
import PlanarLP.Proofs.Exact

set_option autoImplicit false

namespace PlanarLP

theorem natural_exactly (n : Nat) : (Scalar.natural n : Rat) = n := by
  change mkRat n 1 = n
  rw [Rat.mkRat_one]
  rfl

def walk (start step : Rat) (n : Nat) : List Rat := (List.range n).map fun (i : Nat) => start + step * i

section Walk

variable (start step : Rat) (n : Nat)

theorem walk_length : (walk start step n).length = n := by simp [walk]

theorem walk_entry (i : Nat) (inside : i < n) : (walk start step n)[i]? = some (start + step * i) := by
  simp [walk, inside]

theorem walk_first (several : 0 < n) : (walk start step n).head? = some start := by
  rw [List.head?_eq_getElem?, walk_entry start step n 0 several, Nat.cast_zero, mul_zero, add_zero]

theorem walk_even (i : Nat) (x y : Rat) (here : (walk start step n)[i]? = some x)
    (next : (walk start step n)[i + 1]? = some y) : y - x = step := by
  have inside : i + 1 < n := by
    simpa [walk_length] using (List.getElem?_eq_some_iff.mp next).1
  rw [walk_entry start step n i (Nat.lt_of_succ_lt inside), Option.some_inj] at here
  rw [walk_entry start step n (i + 1) inside, Option.some_inj] at next
  rw [← here, ← next, Nat.cast_succ]
  ring

theorem walk_onward : (walk start step n).Pairwise fun x y => ∃ k : Rat, 0 < k ∧ y = x + k * step := by
  rw [walk, List.pairwise_map]
  refine List.pairwise_lt_range.imp fun {i j} order => ⟨j - i, ?_, by ring⟩
  exact sub_pos.mpr (by exact_mod_cast order)

theorem walk_rising (positive : 0 < step) : (walk start step n).Pairwise (· < ·) := by
  refine (walk_onward start step n).imp fun ⟨k, ahead, same⟩ => ?_
  rw [same]
  exact lt_add_of_pos_right _ (mul_pos ahead positive)

theorem walk_falling (negative : step < 0) : (walk start step n).Pairwise (· > ·) := by
  refine (walk_onward start step n).imp fun ⟨k, ahead, same⟩ => ?_
  rw [same]
  exact add_lt_of_neg_right _ (mul_neg_of_pos_of_neg ahead negative)

theorem walk_share (stop : Rat) (z : Rat) (member : z ∈ walk start ((stop - start) / n) n) :
    ∃ t : Rat, 0 ≤ t ∧ t < 1 ∧ z = start + t * (stop - start) := by
  obtain ⟨i, listed, rfl⟩ := List.mem_map.mp member
  have inside : (i : Rat) < n := by exact_mod_cast List.mem_range.mp listed
  have count : (0 : Rat) < n := i.cast_nonneg.trans_lt inside
  exact ⟨i / n, div_nonneg i.cast_nonneg count.le, (div_lt_one count).mpr inside, by ring⟩

end Walk

structure EvenlySpaced (top : Rat) (n : Nat) (xs : List Rat) : Prop where
  count : xs.length = n
  first : xs.head? = some 0
  last : xs.getLast? = some top
  rising : xs.Pairwise (· < ·)
  even : ∃ step, ∀ i x y, xs[i]? = some x → xs[i + 1]? = some y → y - x = step

section Grid

variable (top : Rat) (samples : Nat)

theorem grid_walk : grid top samples = walk 0 (top / (max samples 2 - 1 : Nat)) (max samples 2) := by
  unfold grid walk
  simp only [natural_exactly, zero_add]

theorem grid_steps_positive : (0 : Rat) < (max samples 2 - 1 : Nat) := by
  exact_mod_cast Nat.sub_pos_of_lt (le_max_right samples 2)

theorem grid_evenly_spaced (positive : 0 < top) : EvenlySpaced top (max samples 2) (grid top samples) := by
  have steps := grid_steps_positive samples
  have several : 2 ≤ max samples 2 := le_max_right samples 2
  rw [grid_walk]
  generalize max samples 2 = n at steps several ⊢
  refine ⟨walk_length _ _ n, walk_first _ _ n (by omega), ?_, walk_rising _ _ n (div_pos positive steps), _,
    walk_even _ _ n⟩
  rw [List.getLast?_eq_getElem?, walk_length, walk_entry _ _ n (n - 1) (by omega), zero_add,
    div_mul_cancel₀ _ steps.ne']

theorem grid_within (nonnegative : 0 ≤ top) (x : Rat) (member : x ∈ grid top samples) : 0 ≤ x ∧ x ≤ top := by
  have steps := grid_steps_positive samples
  rw [grid_walk] at member
  generalize max samples 2 = n at steps member
  obtain ⟨i, listed, rfl⟩ := List.mem_map.mp member
  have index : (i : Rat) ≤ (n - 1 : Nat) := by exact_mod_cast Nat.le_sub_one_of_lt (List.mem_range.mp listed)
  have step := div_nonneg nonnegative steps.le
  rw [zero_add]
  refine ⟨mul_nonneg step i.cast_nonneg, ?_⟩
  calc top / (n - 1 : Nat) * i
    _ ≤ top / (n - 1 : Nat) * (n - 1 : Nat) := mul_le_mul_of_nonneg_left index step
    _ = top := div_mul_cancel₀ top steps.ne'

end Grid

section Levels

variable (goal : Goal) (o : Objective Rat) (b : Bounds Rat) (target : Rat)

theorem level_count_positive : (0 : Rat) < goal.levelCount := by
  cases goal <;> norm_num [Goal.levelCount]

theorem levels_walk (start stop : Rat) (span : goal.levelSpan o b target = (start, stop)) :
    isolineLevels goal o b target =
      if start = stop then [] else walk start ((stop - start) / goal.levelCount) goal.levelCount := by
  have halted : ((stop - start) / (goal.levelCount : Rat) == 0) = true ↔ start = stop := by
    rw [beq_iff_eq, div_eq_zero_iff, or_iff_left (level_count_positive goal).ne', sub_eq_zero, eq_comm]
  have finite (step : Rat) : Scalar.isFinite step = true := rfl
  unfold isolineLevels
  rw [span]
  simp only [natural_exactly, finite, Bool.not_true, Bool.or_false]
  by_cases same : start = stop
  · rw [if_pos same]
    exact if_pos (halted.mpr same)
  · rw [if_neg same]
    exact if_neg fun zero => same (halted.mp zero)

end Levels

end PlanarLP
