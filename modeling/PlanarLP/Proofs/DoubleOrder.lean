import PlanarLP.Scalar

set_option autoImplicit false

namespace PlanarLP

open Float.Model (UnpackedFloat)

def ordering? (a b : Float) : Option Ordering := a.toModel.unpack.compare b.toModel.unpack

theorem double_lt_iff (a b : Float) : a < b ↔ ordering? a b = some .lt := by
  change a.lt b = true ↔ _
  simp only [Float.lt, decide_eq_true_eq]
  change (a.toModel.unpack.compare b.toModel.unpack == some .lt) = true ↔ _
  rw [beq_iff_eq]
  rfl

theorem double_le_iff (a b : Float) : a ≤ b ↔ ordering? a b = some .lt ∨ ordering? a b = some .eq := by
  change a.le b = true ↔ _
  simp only [Float.le, decide_eq_true_eq]
  change (a.toModel.unpack.compare b.toModel.unpack).any (·.isLE) = true ↔ _
  rw [ordering?]
  cases a.toModel.unpack.compare b.toModel.unpack with
  | none => simp
  | some order => cases order <;> simp

theorem ordering_swap (a b : Float) : ordering? b a = (ordering? a b).map Ordering.swap := by
  unfold ordering?
  generalize a.toModel.unpack = u
  generalize b.toModel.unpack = v
  cases u with
  | notANumber => cases v <;> rfl
  | infinity s =>
      cases v with
      | infinity t => cases s <;> cases t <;> rfl
      | notANumber | zero | finite => cases s <;> rfl
  | zero s =>
      cases v with
      | infinity t => cases t <;> rfl
      | finite t => cases t <;> rfl
      | notANumber | zero => rfl
  | finite s m e _ =>
      cases v with
      | finite t n f _ =>
          have swapped : (compare f e).then (compare n m) = ((compare e f).then (compare m n)).swap := by
            rw [Ordering.swap_then, ← Int.compare_swap, ← Nat.compare_swap]
          -- the order of the magnitudes is turned round for two negative numbers
          cases s with
          | positive =>
              cases t with
              | positive => exact congrArg some swapped
              | negative => rfl
          | negative =>
              cases t with
              | positive => rfl
              | negative => exact congrArg (fun order => some order.swap) swapped
      | infinity t => cases s <;> cases t <;> rfl
      | notANumber | zero => cases s <;> rfl

theorem ordering_none_iff (a b : Float) : ordering? a b = none ↔ a.isNaN = true ∨ b.isNaN = true := by
  unfold ordering?
  change _ ↔ a.toModel.unpack.isNaN = true ∨ b.toModel.unpack.isNaN = true
  generalize a.toModel.unpack = u
  generalize b.toModel.unpack = v
  constructor
  · intro unordered
    cases u with
    | notANumber => exact .inl rfl
    | infinity s =>
        cases v with
        | notANumber => exact .inr rfl
        | infinity | zero | finite => cases s <;> cases unordered
    | zero s =>
        cases v with
        | notANumber => exact .inr rfl
        | zero => cases unordered
        | infinity t | finite t => cases t <;> cases unordered
    | finite s =>
        cases v with
        | notANumber => exact .inr rfl
        | zero => cases s <;> cases unordered
        | infinity t | finite t => cases s <;> cases t <;> cases unordered
  · rintro (left | right)
    · cases u with
      | notANumber => rfl
      | infinity | zero | finite => cases left
    · cases v with
      | notANumber => cases u <;> rfl
      | infinity | zero | finite => cases right

theorem numbers_ordered (a b : Float) (left : a.isNaN = false) (right : b.isNaN = false) : ordering? a b ≠ none := by
  intro unordered
  rcases (ordering_none_iff a b).mp unordered with undefined | undefined
  · rw [left] at undefined
    cases undefined
  · rw [right] at undefined
    cases undefined

theorem double_le_number (a b : Float) (le : a ≤ b) : a.isNaN = false ∧ b.isNaN = false := by
  have ordered : ordering? a b ≠ none := by
    intro unordered
    simp [double_le_iff, unordered] at le
  simpa [ordering_none_iff] using ordered

theorem double_le_of_not_lt (a b : Float) (left : a.isNaN = false) (right : b.isNaN = false) (notLess : ¬ a < b) :
    b ≤ a := by
  have ordered := numbers_ordered a b left right
  rw [double_lt_iff] at notLess
  rw [double_le_iff, ordering_swap]
  cases order : ordering? a b with
  | none => exact absurd order ordered
  | some o => cases o <;> simp_all

theorem double_lt_of_not_le (a b : Float) (left : a.isNaN = false) (right : b.isNaN = false) (notLe : ¬ a ≤ b) :
    b < a := by
  have ordered := numbers_ordered a b left right
  rw [double_le_iff] at notLe
  rw [double_lt_iff, ordering_swap]
  cases order : ordering? a b with
  | none => exact absurd order ordered
  | some o => cases o <;> simp_all

theorem double_le_of_lt (a b : Float) (less : a < b) : a ≤ b :=
  (double_le_iff a b).mpr (.inl ((double_lt_iff a b).mp less))

theorem double_le_refl (a : Float) (number : a.isNaN = false) : a ≤ a := by
  by_cases less : a < a
  · exact double_le_of_lt a a less
  · exact double_le_of_not_lt a a number number less

theorem finite_number (a : Float) (finite : a.isFinite = true) : a.isNaN = false := by
  change a.toModel.unpack.isFinite = true at finite
  change a.toModel.unpack.isNaN = false
  cases unpacked : a.toModel.unpack with
  | notANumber =>
      rw [unpacked] at finite
      cases finite
  | infinity | zero | finite => rfl

theorem double_clamp_within (top v : Float) (nonnegative : 0 ≤ top) (number : v.isNaN = false) :
    0 ≤ Scalar.clamp top v ∧ Scalar.clamp top v ≤ top := by
  have topNumber := (double_le_number _ _ nonnegative).2
  have zeroNumber := (double_le_number _ _ nonnegative).1
  unfold Scalar.clamp
  by_cases below : v < 0
  · rw [if_pos below]
    exact ⟨double_le_refl 0 zeroNumber, nonnegative⟩
  · rw [if_neg below]
    by_cases above : top < v
    · rw [if_pos above]
      exact ⟨nonnegative, double_le_refl top topNumber⟩
    · rw [if_neg above]
      exact ⟨double_le_of_not_lt v 0 number zeroNumber below, double_le_of_not_lt top v topNumber number above⟩

end PlanarLP
