import PlanarLP.Proofs.DoubleEquality
import PlanarLP.Proofs.Screening

set_option autoImplicit false

namespace PlanarLP

open Float.Model (UnpackedFloat Format)

theorem clamp_alike (top a b : Float) (alike : Alike a b) : Alike (Scalar.clamp top a) (Scalar.clamp top b) := by
  have below : a < 0 ↔ b < 0 := lt_alike alike (alike_refl 0)
  have above : top < a ↔ top < b := lt_alike (alike_refl top) alike
  unfold Scalar.clamp
  by_cases low : a < 0
  · rw [if_pos low, if_pos (below.mp low)]
    exact alike_refl 0
  · rw [if_neg low, if_neg fun less => low (below.mpr less)]
    by_cases high : top < a
    · rw [if_pos high, if_pos (above.mp high)]
      exact alike_refl top
    · rw [if_neg high, if_neg fun less => high (above.mpr less)]
      exact alike

theorem sum_not_negative_zero (x : Float) : x + 0 ≠ -0 := by
  intro same
  have unpacked := congrArg (fun y => y.toModel.unpack) same
  change (Float.Model.pack (UnpackedFloat.add _ x.toModel.unpack (.zero .positive))).unpack =
    .zero .negative at unpacked
  obtain ⟨normal, fits⟩ := unpack_normal x.toModel.toBits.toBitVec
  change Normal x.toModel.unpack at normal
  change Fits x.toModel.unpack at fits
  generalize x.toModel.unpack = u at unpacked normal fits
  cases u with
  | notANumber => cases unpacked
  | infinity s | zero s => cases s <;> cases unpacked
  | finite s m e positive =>
      have kept := packed_fits (.finite s m e positive) normal fits
      cases kept.symm.trans unpacked

theorem hundredths_unsigned (a b : Float) (alike : Alike (Scalar.hundredths a) (Scalar.hundredths b)) :
    Scalar.hundredths a = Scalar.hundredths b := by
  have unsigned (x : Float) : Scalar.hundredths x ≠ -0 := sum_not_negative_zero _
  rcases alike_cases _ _ alike with same | ⟨first, second⟩
  · exact same
  · exact (first.resolve_right (unsigned a)).trans (second.resolve_right (unsigned b)).symm

def Point.Alike (p q : Point Float) : Prop := PlanarLP.Alike p.x q.x ∧ PlanarLP.Alike p.y q.y

theorem point_alike_refl (p : Point Float) : p.Alike p := ⟨alike_refl p.x, alike_refl p.y⟩

theorem rounded_unsigned (p q : Point Float) (alike : p.rounded.Alike q.rounded) : p.rounded = q.rounded :=
  congrArg₂ Point.mk (hundredths_unsigned _ _ alike.1) (hundredths_unsigned _ _ alike.2)

theorem coincident_rounded (p q : Point Float) (same : p.coincides q = true) : p.rounded = q.rounded := by
  obtain ⟨xs, ys⟩ := Bool.and_eq_true_iff.mp same
  exact rounded_unsigned p q ⟨.inl xs, .inl ys⟩

theorem coincides_symm (p q : Point Float) : p.coincides q = q.coincides p :=
  congrArg₂ and (double_eq_comm _ _) (double_eq_comm _ _)

section Alike

variable (p q : Point Float) (alike : p.Alike q)

include alike

theorem rounded_alike : p.rounded = q.rounded :=
  rounded_unsigned p q ⟨hundredths_alike alike.1, hundredths_alike alike.2⟩

theorem coincides_alike (r s : Point Float) (other : r.Alike s) : p.coincides r = q.coincides s := by
  unfold Point.coincides
  rw [rounded_alike p q alike, rounded_alike r s other]

theorem objective_alike (o : Objective Float) : Alike (o.value p) (o.value q) :=
  add_alike (mul_alike (alike_refl o.g) alike.1) (mul_alike (alike_refl o.h) alike.2)

theorem line_alike (l : Line Float) : Alike (l.value p) (l.value q) :=
  add_alike (mul_alike (alike_refl l.a) alike.1) (mul_alike (alike_refl l.b) alike.2)

theorem slack_alike (c : Constraint Float) : Alike (c.slack p) (c.slack q) := by
  have values := line_alike p q alike c.boundary
  obtain ⟨boundary, direction⟩ := c
  cases direction with
  | le => exact sub_alike (alike_refl _) values
  | ge => exact sub_alike values (alike_refl _)

theorem contains_alike (b : Bounds Float) (tolerance : Float) : b.Contains tolerance p ↔ b.Contains tolerance q :=
  and_congr (and_congr (le_alike (alike_refl _) alike.1) (le_alike alike.1 (alike_refl _)))
    (and_congr (le_alike (alike_refl _) alike.2) (le_alike alike.2 (alike_refl _)))

theorem feasible_alike (problem : Problem Float) (tolerance : Float) :
    problem.Feasible tolerance p ↔ problem.Feasible tolerance q :=
  and_congr (contains_alike p q alike problem.bounds tolerance)
    (forall₂_congr fun c _ => le_alike (alike_refl (-tolerance)) (slack_alike p q alike c))

theorem box_alike (b : Bounds Float) : (b.clamp p).Alike (b.clamp q) :=
  ⟨clamp_alike b.xMax _ _ alike.1, clamp_alike b.yMax _ _ alike.2⟩

end Alike

end PlanarLP
