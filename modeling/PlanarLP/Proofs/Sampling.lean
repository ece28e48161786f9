import PlanarLP.Plot
import PlanarLP.Proofs.FiniteSolution

set_option autoImplicit false

namespace PlanarLP

theorem top_nonnegative (problem : Problem Float) (axis : Axis) : 0 ≤ doubleValue (problem.bounds.top axis) := by
  have order := double_top_nonnegative problem axis
  obtain ⟨zero, number⟩ := double_le_number _ _ order
  exact (double_le_value _ _ zero number).mp order

def gridLast (samples : Nat) : Nat := Nat.max samples 2 - 1

theorem grid_last_bounds (samples : Nat) (fits : samples < 2 ^ 64) :
    1 ≤ gridLast samples ∧ gridLast samples < 2 ^ 64 := by
  have larger : gridLast samples = max samples 2 - 1 := rfl
  omega

def gridStep (top : Float) (last : Nat) : Float := top / Scalar.natural last

def gridPoint (top : Float) (last i : Nat) : Float := gridStep top last * Scalar.natural i

theorem grid_points (top : Float) (samples : Nat) :
    grid top samples = (List.range (gridLast samples + 1)).map (gridPoint top (gridLast samples)) := by
  have count : gridLast samples + 1 = Nat.max samples 2 := by
    have larger : Nat.max samples 2 = max samples 2 := rfl
    have last : gridLast samples = max samples 2 - 1 := rfl
    omega
  rw [count]
  rfl

theorem count_bounds (n : Nat) (positive : 1 ≤ n) (small : n < 2 ^ 64) :
    1 ≤ rounded n ∧ rounded n ≤ 2 ^ (64 : Int) := by
  have low := rounded_mono 1 n (by exact_mod_cast positive)
  have high := rounded_mono n ((1 : Int) * 2 ^ (64 : Int)) (by rw [Int.cast_one, one_mul]; exact_mod_cast small.le)
  have one := whole_rounded 1 (by norm_num)
  rw [Nat.cast_one] at one
  rw [one] at low
  rw [rounded_fixed 1 64 (by norm_num) (by norm_num) (by norm_num), Int.cast_one, one_mul] at high
  exact ⟨low, high⟩

section Grid

variable (top : Float) (last : Nat) (nonempty : 1 ≤ last) (most : last < 2 ^ 64) (finite : top.isFinite = true)
  (nonnegative : 0 ≤ doubleValue top)

include nonempty most finite nonnegative

theorem grid_step_value :
    (gridStep top last).isFinite = true ∧
      doubleValue (gridStep top last) = rounded (doubleValue top / rounded last) := by
  obtain ⟨low, _⟩ := count_bounds last nonempty most
  have positive : 0 < rounded last := by linarith
  obtain ⟨countFinite, count⟩ := natural_value last most
  have read := div_value top _ finite countFinite (by rw [count]; exact positive.ne')
  rw [count] at read
  have reached := rounded_mono _ _ (div_le_self nonnegative low)
  rw [rounded_value top finite] at reached
  refine ⟨read_finite _ _ read ?_, read.2⟩
  rw [abs_of_nonneg (rounded_nonnegative _ (div_nonneg nonnegative positive.le))]
  exact reached.trans_lt (abs_lt.mp (finite_value top finite)).2

theorem grid_step_nonnegative : 0 ≤ doubleValue (gridStep top last) := by
  obtain ⟨low, _⟩ := count_bounds last nonempty most
  rw [(grid_step_value top last nonempty most finite nonnegative).2]
  exact rounded_nonnegative _ (div_nonneg nonnegative (by linarith))

-- Dividing and multiplying back overshoots by at most a step and a half of the largest doubles.
theorem grid_overshoot : doubleValue (gridStep top last) * rounded last < doubleValue top + 3 * coarseHalf := by
  obtain ⟨low, high⟩ := count_bounds last nonempty most
  rw [(grid_step_value top last nonempty most finite nonnegative).2]
  generalize rounded last = n at low high ⊢
  have positive : 0 < n := by linarith
  have limit := (abs_lt.mp (finite_value top finite)).2
  have upper := rounded_upper _ (div_nonneg nonnegative positive.le)
  have whole : doubleValue top / n * n = doubleValue top := div_mul_cancel₀ _ positive.ne'
  have relative : doubleValue top * relativeHalf ≤ 2 * coarseHalf := by
    rw [← beyond_relative]
    exact mul_le_mul_of_nonneg_right limit.le relative_half_positive.le
  have absolute : n * fineHalf ≤ 2 ^ (64 : Int) * fineHalf := mul_le_mul_of_nonneg_right high fine_half_positive.le
  have small := fine_less_coarse
  calc rounded (doubleValue top / n) * n
      ≤ (doubleValue top / n + (doubleValue top / n * relativeHalf + fineHalf)) * n :=
        mul_le_mul_of_nonneg_right upper positive.le
    _ = doubleValue top / n * n + (doubleValue top / n * n * relativeHalf + n * fineHalf) := by ring
    _ < doubleValue top + 3 * coarseHalf := by
        rw [whole]
        linarith

theorem grid_point_value (i : Nat) (inside : i ≤ last) :
    (gridPoint top last i).isNaN = false ∧
      doubleValue (gridPoint top last i) = rounded (doubleValue (gridStep top last) * rounded i) := by
  obtain ⟨stepFinite, _⟩ := grid_step_value top last nonempty most finite nonnegative
  obtain ⟨indexFinite, index⟩ := natural_value i (inside.trans_lt most)
  rw [← index]
  exact mul_value _ _ stepFinite indexFinite

theorem grid_order (i j : Nat) (order : i ≤ j) (inside : j ≤ last) :
    0 ≤ doubleValue (gridPoint top last i) ∧
      doubleValue (gridPoint top last i) ≤ doubleValue (gridPoint top last j) := by
  have step := grid_step_nonnegative top last nonempty most finite nonnegative
  have index := rounded_mono i j (by exact_mod_cast order)
  have low := rounded_nonnegative i i.cast_nonneg
  rw [(grid_point_value top last nonempty most finite nonnegative i (order.trans inside)).2,
    (grid_point_value top last nonempty most finite nonnegative j inside).2]
  exact ⟨rounded_nonnegative _ (mul_nonneg step low), rounded_mono _ _ (mul_le_mul_of_nonneg_left index step)⟩

theorem grid_point_finite (i : Nat) (inside : i ≤ last) (reached : (gridPoint top last last).isFinite = true) :
    (gridPoint top last i).isFinite = true := by
  obtain ⟨low, high⟩ := grid_order top last nonempty most finite nonnegative i last inside le_rfl
  have number := (grid_point_value top last nonempty most finite nonnegative i inside).1
  refine (finite_iff _).mpr ⟨number, ?_⟩
  rw [abs_of_nonneg low]
  exact high.trans_lt ((le_abs_self _).trans_lt (finite_value _ reached))

theorem grid_last_finite (below : doubleValue top ≤ beyond - 4 * coarseHalf) :
    (gridPoint top last last).isFinite = true := by
  have step := grid_step_nonnegative top last nonempty most finite nonnegative
  have bound := grid_overshoot top last nonempty most finite nonnegative
  have read := grid_point_value top last nonempty most finite nonnegative last le_rfl
  refine read_finite _ _ read (rounded_finite _ ?_)
  rw [abs_of_nonneg (mul_nonneg step (rounded_nonnegative _ (Nat.cast_nonneg _)))]
  linarith

end Grid

def largestDouble : Float := Float.ofBits 0x7FEFFFFFFFFFFFFF

theorem largest_value : doubleValue largestDouble = beyond - 2 * coarseHalf := by
  have unpacked : largestDouble.toModel.unpack = .finite .positive (2 ^ 53 - 1) 971 (by norm_num) := rfl
  rw [doubleValue, unpacked, beyond_units]
  change ((2 ^ 53 - 1 : Nat) : Rat) * 2 ^ (971 : Int) = _
  rw [coarse_unit]
  norm_num
  ring

theorem below_largest (x : Float) (finite : x.isFinite = true) (below : x < largestDouble) :
    doubleValue x ≤ beyond - 4 * coarseHalf := by
  have order := (double_lt_value x largestDouble (finite_number x finite) rfl).mp below
  rw [largest_value] at order
  rcases finite_largest x finite with largest | smaller
  · have unit := coarse_half_positive
    have units := beyond_units
    rcases abs_cases (doubleValue x) with ⟨same, _⟩ | ⟨same, _⟩ <;> linarith
  · exact (le_abs_self _).trans smaller

theorem grid_finite (problem : Problem Float) (samples : Nat) (fits : samples < 2 ^ 64)
    (ends : problem.bounds.xMax < largestDouble ∨
      ∀ x, (grid problem.bounds.xMax samples).getLast? = some x → x.isFinite = true) :
    ∀ x ∈ grid problem.bounds.xMax samples, x.isFinite = true := by
  obtain ⟨nonempty, most⟩ := grid_last_bounds samples fits
  have top : problem.bounds.xMax.isFinite = true := (problem_top problem .x).1
  have nonnegative : 0 ≤ doubleValue problem.bounds.xMax := top_nonnegative problem .x
  have reached : (gridPoint problem.bounds.xMax (gridLast samples) (gridLast samples)).isFinite = true := by
    rcases ends with below | last
    · exact grid_last_finite _ _ nonempty most top nonnegative (below_largest _ top below)
    · refine last _ ?_
      rw [grid_points, List.getLast?_map, List.getLast?_range, if_neg (Nat.succ_ne_zero _)]
      rfl
  intro x member
  rw [grid_points] at member
  obtain ⟨i, listed, rfl⟩ := List.mem_map.mp member
  exact grid_point_finite _ _ nonempty most top nonnegative i (Nat.lt_succ_iff.mp (List.mem_range.mp listed)) reached

section Lines

theorem sum_between (a p q r : Float) (finite : q.isFinite = true) (below : doubleValue p ≤ doubleValue q)
    (above : doubleValue q ≤ doubleValue r) (low : (a + p).isFinite = true) (high : (a + r).isFinite = true) :
    (a + q).isFinite = true := by
  obtain ⟨base, lowFinite⟩ := add_operands a p low
  obtain ⟨_, highFinite⟩ := add_operands a r high
  have first := finite_value _ low
  have last := finite_value _ high
  rw [(add_value a p base lowFinite).2] at first
  rw [(add_value a r base highFinite).2] at last
  exact read_finite _ _ (add_value a q base finite)
    (rounded_between _ _ _ (add_le_add_right below _) (add_le_add_right above _) first last)

theorem product_between (s x y z : Float) (finite : y.isFinite = true) (below : doubleValue x ≤ doubleValue y)
    (above : doubleValue y ≤ doubleValue z) (low : (s * x).isFinite = true) (high : (s * z).isFinite = true) :
    (s * y).isFinite = true ∧
      (doubleValue (s * x) ≤ doubleValue (s * y) ∧ doubleValue (s * y) ≤ doubleValue (s * z) ∨
        doubleValue (s * z) ≤ doubleValue (s * y) ∧ doubleValue (s * y) ≤ doubleValue (s * x)) := by
  obtain ⟨slope, lowFinite⟩ := mul_operands s x low
  obtain ⟨_, highFinite⟩ := mul_operands s z high
  have first := finite_value _ low
  have last := finite_value _ high
  have read := mul_value s y slope finite
  rw [(mul_value s x slope lowFinite).2] at first ⊢
  rw [(mul_value s z slope highFinite).2] at last ⊢
  rw [read.2]
  rcases le_total 0 (doubleValue s) with rising | falling
  · have left := mul_le_mul_of_nonneg_left below rising
    have right := mul_le_mul_of_nonneg_left above rising
    have small := rounded_between _ _ _ left right first last
    exact ⟨read_finite _ _ read small, .inl ⟨rounded_mono _ _ left, rounded_mono _ _ right⟩⟩
  · have left := mul_le_mul_of_nonpos_left below falling
    have right := mul_le_mul_of_nonpos_left above falling
    have small := rounded_between _ _ _ right left last first
    exact ⟨read_finite _ _ read small, .inr ⟨rounded_mono _ _ right, rounded_mono _ _ left⟩⟩

theorem ordinate_between (l : Line Float) (x y z : Float) (finite : y.isFinite = true)
    (below : doubleValue x ≤ doubleValue y) (above : doubleValue y ≤ doubleValue z)
    (first : (l.yAt x).isFinite = true) (last : (l.yAt z).isFinite = true) : (l.yAt y).isFinite = true := by
  unfold Line.yAt at first last ⊢
  cases shape : l.shape with
  | vertical | empty =>
      change (0 : Float).isFinite = true
      rfl
  | graph intercept slope =>
      rw [shape] at first last
      obtain ⟨_, low⟩ := add_operands intercept _ first
      obtain ⟨_, high⟩ := add_operands intercept _ last
      obtain ⟨product, ⟨up, down⟩ | ⟨up, down⟩⟩ := product_between slope x y z finite below above low high
      · exact sum_between intercept _ _ _ product up down first last
      · exact sum_between intercept _ _ _ product up down last first

def Polyline.EndsFinite (line : Polyline Float) : Prop :=
  ∀ p, line.points.head? = some p ∨ line.points.getLast? = some p → p.Finite

theorem sample_finite (l : Line Float) (top : Float) (samples : Nat) (fits : samples < 2 ^ 64)
    (finite : top.isFinite = true) (nonnegative : 0 ≤ doubleValue top)
    (ends : (l.sample (grid top samples)).EndsFinite) : ∀ p ∈ (l.sample (grid top samples)).points, p.Finite := by
  obtain ⟨nonempty, most⟩ := grid_last_bounds samples fits
  have points : (l.sample (grid top samples)).points = (List.range (gridLast samples + 1)).map fun i =>
      ⟨gridPoint top (gridLast samples) i, l.yAt (gridPoint top (gridLast samples) i)⟩ := by
    rw [grid_points]
    exact List.map_map
  unfold Polyline.EndsFinite at ends
  rw [points, List.head?_map, List.getLast?_map, List.head?_range, List.getLast?_range, if_neg (Nat.succ_ne_zero _),
    if_neg (Nat.succ_ne_zero _)] at ends
  have first := ends _ (.inl rfl)
  have last := ends _ (.inr rfl)
  intro p member
  rw [points] at member
  obtain ⟨i, listed, rfl⟩ := List.mem_map.mp member
  have inside : i ≤ gridLast samples := Nat.lt_succ_iff.mp (List.mem_range.mp listed)
  have x := grid_point_finite top _ nonempty most finite nonnegative i inside last.1
  have below := (grid_order top _ nonempty most finite nonnegative 0 i (Nat.zero_le i) inside).2
  have above := (grid_order top _ nonempty most finite nonnegative i _ inside le_rfl).2
  exact ⟨x, ordinate_between l _ _ _ x below above first.2 last.2⟩

end Lines

end PlanarLP
