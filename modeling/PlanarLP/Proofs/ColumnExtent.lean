import PlanarLP.Plot
import PlanarLP.Proofs.Corner

set_option autoImplicit false

namespace PlanarLP

def Spans (extent : Rat × Rat) (y : Rat) : Prop := extent.1 ≤ y ∧ y ≤ extent.2

theorem spans_below (extent : Rat × Rat) (top y : Rat) :
    Spans (extent.1, Scalar.min extent.2 top) y ↔ Spans extent y ∧ y ≤ top := by
  unfold Spans
  rw [min_exactly, le_min_iff, and_assoc]

theorem spans_above (extent : Rat × Rat) (bottom y : Rat) :
    Spans (Scalar.max extent.1 bottom, extent.2) y ↔ Spans extent y ∧ bottom ≤ y := by
  unfold Spans
  rw [max_exactly, max_le_iff, and_right_comm]

section Height

variable (l : Line Rat) (sloped : l.b ≠ 0)

include sloped

theorem shape_sloped : l.shape = .graph (l.c / l.b) (-l.a / l.b) := if_pos (bne_iff_ne.mpr sloped)

theorem y_at_sloped (x : Rat) : l.yAt x = l.c / l.b + -l.a / l.b * x := by
  rw [Line.yAt, shape_sloped l sloped]

theorem on_line_iff (p : Point Rat) : l.value p = l.c ↔ p.y = l.yAt p.x := by
  have solved : l.yAt p.x = (l.c - l.a * p.x) / l.b := by
    rw [y_at_sloped l sloped]
    ring
  rw [solved, value_exactly, eq_div_iff sloped, eq_sub_iff_add_eq, add_comm, mul_comm l.b]

end Height

def Point.upward : Point Rat := ⟨0, 1⟩

section Column

variable (c : Constraint Rat) (x y : Rat)

theorem column_along (base : Rat) : (⟨x, base⟩ : Point Rat).along .upward (y - base) = ⟨x, y⟩ := by
  simp [Point.along, Point.upward]

theorem slack_over (base : Rat) : c.slack ⟨x, y⟩ = c.slack ⟨x, base⟩ + (y - base) * c.rate .upward := by
  rw [← slack_along, column_along]

theorem upward_value (l : Line Rat) : l.value .upward = l.b := by
  simp [value_exactly, Point.upward]

theorem slack_constant (steep : c.boundary.b = 0) : c.slack ⟨x, y⟩ = c.slack ⟨x, 0⟩ := by
  have still : c.rate .upward = 0 := by rw [rate_zero_iff, upward_value, steep]
  rw [slack_over c x y 0, still, mul_zero, add_zero]

theorem caps_falling (sloped : c.boundary.b ≠ 0) : c.capsY = true ↔ c.rate .upward < 0 := by
  obtain ⟨l, direction⟩ := c
  change l.b ≠ 0 at sloped
  cases direction with
  | le =>
      change (true == decide (0 < l.b)) = true ↔ -l.value .upward < 0
      rw [upward_value, neg_lt_zero, beq_iff_eq, eq_comm, decide_eq_true_iff]
  | ge =>
      change (false == decide (0 < l.b)) = true ↔ l.value .upward < 0
      rw [upward_value, beq_iff_eq, eq_comm, decide_eq_false_iff_not, not_lt, sloped.le_iff_lt]

theorem boundary_height (sloped : c.boundary.b ≠ 0) : c.slack ⟨x, c.boundary.yAt x⟩ = 0 :=
  (slack_zero_iff c _).mpr ((on_line_iff c.boundary sloped _).mpr rfl)

theorem slack_beside (height : Rat) (sloped : c.boundary.b ≠ 0) (met : c.slack ⟨x, height⟩ = 0) :
    0 ≤ c.slack ⟨x, y⟩ ↔ if c.capsY then y ≤ height else height ≤ y := by
  have moves : c.rate .upward ≠ 0 := by rwa [Ne, rate_zero_iff, upward_value]
  rw [slack_over c x y height, met, zero_add]
  by_cases caps : c.capsY = true
  · have falling := (caps_falling c sloped).mp caps
    rw [if_pos caps, ← neg_mul_neg, neg_sub, mul_nonneg_iff_of_pos_right (neg_pos.mpr falling), sub_nonneg]
  · have rising := moves.lt_or_gt.resolve_left fun falling => caps ((caps_falling c sloped).mpr falling)
    rw [if_neg caps, mul_nonneg_iff_of_pos_right rising, sub_nonneg]

theorem restrict_sloped (extent : Rat × Rat) (sloped : c.boundary.b ≠ 0) :
    c.restrict? x extent = some
      (if c.capsY then (extent.1, Scalar.min extent.2 (c.boundary.yAt x))
        else (Scalar.max extent.1 (c.boundary.yAt x), extent.2)) := by
  rw [y_at_sloped c.boundary sloped]
  unfold Constraint.restrict?
  rw [shape_sloped c.boundary sloped]

theorem restrict_steep (extent : Rat × Rat) (steep : c.boundary.b = 0) :
    c.restrict? x extent = if c.slack ⟨x, 0⟩ < 0 then none else some extent := by
  have shape : c.boundary.shape =
      if c.boundary.a != 0 then .vertical (c.boundary.c / c.boundary.a) else .empty :=
    if_neg fun sloped => bne_iff_ne.mp sloped steep
  unfold Constraint.restrict?
  rw [shape]
  by_cases flat : (c.boundary.a != 0) = true
  · rw [if_pos flat]
  · rw [if_neg flat]

theorem restrict_spans (extent : Rat × Rat) :
    (∃ left, c.restrict? x extent = some left ∧ Spans left y) ↔ Spans extent y ∧ 0 ≤ c.slack ⟨x, y⟩ := by
  by_cases steep : c.boundary.b = 0
  · rw [slack_constant c x y steep, restrict_steep c x extent steep]
    by_cases excluded : c.slack ⟨x, 0⟩ < 0
    · simp [if_pos excluded, not_le.mpr excluded]
    · simp [if_neg excluded, not_lt.mp excluded]
  · rw [slack_beside c x y _ steep (boundary_height c x steep), restrict_sloped c x extent steep]
    by_cases caps : c.capsY = true
    · simp only [if_pos caps, Option.some.injEq, exists_eq_left']
      exact spans_below extent _ y
    · simp only [if_neg caps, Option.some.injEq, exists_eq_left']
      exact spans_above extent _ y

end Column

section Extent

variable (cs : List (Constraint Rat)) (bounds : Bounds Rat) (x y : Rat)

theorem restricted_spans (extent : Rat × Rat) :
    (∃ final, cs.foldlM (fun extent (c : Constraint Rat) => c.restrict? x extent) extent = some final ∧
      Spans final y) ↔ Spans extent y ∧ Inside cs ⟨x, y⟩ := by
  induction cs generalizing extent with
  | nil => simp [Inside]
  | cons c rest ih =>
      have step := restrict_spans c x y extent
      have inside : Inside (c :: rest) ⟨x, y⟩ ↔ 0 ≤ c.slack ⟨x, y⟩ ∧ Inside rest ⟨x, y⟩ := List.forall_mem_cons
      rw [List.foldlM_cons, inside, ← and_assoc, ← step]
      cases left : c.restrict? x extent with
      | none => simp
      | some next => simpa using ih next

theorem extent_spans :
    (∃ extent, extent? cs bounds x = some extent ∧ Spans extent y) ↔
      (0 ≤ y ∧ y ≤ bounds.yMax) ∧ Inside cs ⟨x, y⟩ := by
  have column : Spans (0, bounds.yMax) y ↔ 0 ≤ y ∧ y ≤ bounds.yMax := Iff.rfl
  rw [← column, ← restricted_spans]
  unfold extent?
  refine exists_congr fun extent => and_congr_left fun spans => ?_
  rw [Option.filter_eq_some_iff]
  exact and_iff_left (decide_eq_true (spans.1.trans spans.2))

theorem extent_ordered (extent : Rat × Rat) (found : extent? cs bounds x = some extent) : extent.1 ≤ extent.2 :=
  of_decide_eq_true (Option.filter_eq_some_iff.mp found).2

theorem feasible_column :
    ((0 ≤ y ∧ y ≤ bounds.yMax) ∧ (∀ c ∈ cs, 0 ≤ c.slack ⟨x, y⟩) ↔
        ∃ lower upper, extent? cs bounds x = some (lower, upper) ∧ lower ≤ y ∧ y ≤ upper) ∧
      (extent? cs bounds x = none ↔ ¬ ∃ y, (0 ≤ y ∧ y ≤ bounds.yMax) ∧ ∀ c ∈ cs, 0 ≤ c.slack ⟨x, y⟩) := by
  have spanned (y : Rat) := extent_spans cs bounds x y
  refine ⟨(spanned y).symm.trans Prod.exists, ?_, fun empty => ?_⟩
  · rintro none ⟨y, feasible⟩
    obtain ⟨extent, found, _⟩ := (spanned y).mpr feasible
    cases none.symm.trans found
  · -- an extent that is found spans its own lower end
    refine Option.eq_none_iff_forall_ne_some.mpr fun extent found => empty ⟨extent.1, ?_⟩
    exact (spanned extent.1).mp ⟨extent, found, le_rfl, extent_ordered cs bounds x extent found⟩

-- A negative `b` turns its constraint round: over x = 3 the first one says y ≥ 1.
example :
    extent? [⟨⟨1, -1, 2⟩, .le⟩, ⟨⟨1, 1, 7⟩, .le⟩] ⟨10, 10⟩ (3 : Rat) = some (1, 4) ∧
      extent? [⟨⟨1, -1, 2⟩, .le⟩, ⟨⟨1, 0, 2⟩, .le⟩] ⟨10, 10⟩ (3 : Rat) = none := by
  decide +kernel

end Extent

end PlanarLP
