import Mathlib.Data.Finset.Max
import PlanarLP.Proofs.Exact

set_option autoImplicit false

namespace PlanarLP

def Point.origin : Point Rat := ⟨0, 0⟩

def Point.along (p d : Point Rat) (t : Rat) : Point Rat := ⟨p.x + t * d.x, p.y + t * d.y⟩

def Point.opposite (d : Point Rat) : Point Rat := ⟨-d.x, -d.y⟩

def Constraint.rate (c : Constraint Rat) (d : Point Rat) : Rat :=
  match c.direction with
  | .le => -c.boundary.value d
  | .ge => c.boundary.value d

def Inside (cs : List (Constraint Rat)) (p : Point Rat) : Prop := ∀ c ∈ cs, 0 ≤ c.slack p

theorem value_exactly (l : Line Rat) (p : Point Rat) : l.value p = l.a * p.x + l.b * p.y := rfl

theorem slack_along (c : Constraint Rat) (p d : Point Rat) (t : Rat) :
    c.slack (p.along d t) = c.slack p + t * c.rate d := by
  obtain ⟨l, direction⟩ := c
  cases direction with
  | le =>
      simp only [slack_le, Constraint.rate, value_exactly, Point.along]
      ring
  | ge =>
      simp only [slack_ge, Constraint.rate, value_exactly, Point.along]
      ring

theorem objective_along (o : Objective Rat) (p d : Point Rat) (t : Rat) :
    o.value (p.along d t) = o.value p + t * o.value d := by
  simp only [objective_value_exactly, Point.along]
  ring

theorem rate_opposite (c : Constraint Rat) (d : Point Rat) : c.rate d.opposite = -c.rate d := by
  obtain ⟨l, direction⟩ := c
  cases direction with
  | le =>
      simp only [Constraint.rate, value_exactly, Point.opposite]
      ring
  | ge =>
      simp only [Constraint.rate, value_exactly, Point.opposite]
      ring

theorem objective_opposite (o : Objective Rat) (d : Point Rat) : o.value d.opposite = -o.value d := by
  simp only [objective_value_exactly, Point.opposite]
  ring

theorem slack_zero_iff (c : Constraint Rat) (p : Point Rat) : c.slack p = 0 ↔ c.boundary.value p = c.boundary.c := by
  obtain ⟨l, direction⟩ := c
  cases direction with
  | le => exact sub_eq_zero.trans eq_comm
  | ge => exact sub_eq_zero

theorem rate_zero_iff (c : Constraint Rat) (d : Point Rat) : c.rate d = 0 ↔ c.boundary.value d = 0 := by
  obtain ⟨l, direction⟩ := c
  cases direction with
  | le => exact neg_eq_zero
  | ge => exact Iff.rfl

theorem inside_append (cs ds : List (Constraint Rat)) (p : Point Rat) :
    Inside (cs ++ ds) p ↔ Inside cs p ∧ Inside ds p :=
  List.forall_mem_append

-- A blocking half-plane is met after its slack divided by its loss of slack; the least time is the first meeting.
theorem ray_stops (cs : List (Constraint Rat)) (p d : Point Rat) (inside : Inside cs p)
    (blocked : ∃ c ∈ cs, c.rate d < 0) :
    ∃ t, 0 ≤ t ∧ Inside cs (p.along d t) ∧ ∃ c ∈ cs, c.rate d < 0 ∧ c.slack (p.along d t) = 0 := by
  obtain ⟨blocker, listed, against⟩ := blocked
  have nonempty : (cs.toFinset.filter fun c => c.rate d < 0).Nonempty := ⟨blocker, by simp [listed, against]⟩
  obtain ⟨first, found, least⟩ := Finset.exists_min_image _ (fun c => c.slack p / -c.rate d) nonempty
  obtain ⟨member, loses⟩ : first ∈ cs ∧ first.rate d < 0 := by simpa using found
  have positive : 0 < -first.rate d := neg_pos.mpr loses
  have later : 0 ≤ first.slack p / -first.rate d := div_nonneg (inside first member) positive.le
  refine ⟨first.slack p / -first.rate d, later, ?_, first, member, loses, ?_⟩
  · intro c present
    rw [slack_along]
    by_cases falls : c.rate d < 0
    · have order : first.slack p / -first.rate d ≤ c.slack p / -c.rate d := least c (by simp [present, falls])
      rw [le_div_iff₀ (neg_pos.mpr falls)] at order
      linarith
    · have gain := mul_nonneg later (not_lt.mp falls)
      have start := inside c present
      linarith
  · have product : first.slack p / -first.rate d * -first.rate d = first.slack p := div_mul_cancel₀ _ positive.ne'
    rw [slack_along]
    linarith

-- Every line through the region can be followed, without losing value, towards something that stops it.
def Confines (cs : List (Constraint Rat)) (o : Objective Rat) : Prop :=
  ∀ d : Point Rat, d ≠ .origin → ∃ e, (e = d ∨ e = d.opposite) ∧ 0 ≤ o.value e ∧ ∃ c ∈ cs, c.rate e < 0

theorem opposite_ne_origin (d : Point Rat) (nonzero : d ≠ .origin) : d.opposite ≠ .origin := by
  intro same
  apply nonzero
  obtain ⟨x, y⟩ := d
  simpa [Point.opposite, Point.origin] using same

theorem bounded_confines (cs : List (Constraint Rat)) (o : Objective Rat)
    (bounded : ∀ d : Point Rat, d ≠ .origin → ∃ c ∈ cs, c.rate d < 0) : Confines cs o := by
  intro d nonzero
  by_cases gains : 0 ≤ o.value d
  · exact ⟨d, .inl rfl, gains, bounded d nonzero⟩
  · refine ⟨d.opposite, .inr rfl, ?_, bounded _ (opposite_ne_origin d nonzero)⟩
    rw [objective_opposite]
    linarith

theorem ray_gains (cs : List (Constraint Rat)) (o : Objective Rat) (confined : Confines cs o) (p d : Point Rat)
    (inside : Inside cs p) (nonzero : d ≠ .origin) :
    ∃ e t, (e = d ∨ e = d.opposite) ∧ Inside cs (p.along e t) ∧ o.value p ≤ o.value (p.along e t) ∧
      ∃ c ∈ cs, c.rate e < 0 ∧ c.slack (p.along e t) = 0 := by
  obtain ⟨e, heading, gains, blocked⟩ := confined d nonzero
  obtain ⟨t, later, within, stop⟩ := ray_stops cs p e inside blocked
  refine ⟨e, t, heading, within, ?_, stop⟩
  rw [objective_along]
  linarith [mul_nonneg later gains]

def Constraint.tangent (c : Constraint Rat) : Point Rat := ⟨c.boundary.b, -c.boundary.a⟩

theorem tangent_zero_rate (c : Constraint Rat) (flat : c.tangent = .origin) (d : Point Rat) : c.rate d = 0 := by
  have zero : c.boundary.b = 0 ∧ c.boundary.a = 0 := by simpa [Constraint.tangent, Point.origin] using flat
  rw [rate_zero_iff, value_exactly, zero.1, zero.2]
  ring

theorem rate_tangent_self (c : Constraint Rat) : c.rate c.tangent = 0 := by
  rw [rate_zero_iff, value_exactly]
  simp only [Constraint.tangent]
  ring

theorem rate_tangent_determinant (c d : Constraint Rat) (moves : d.rate c.tangent ≠ 0) :
    c.boundary.determinant d.boundary ≠ 0 := by
  have formula : d.boundary.value c.tangent = -c.boundary.determinant d.boundary := by
    change d.boundary.a * c.boundary.b + d.boundary.b * -c.boundary.a =
      -(c.boundary.a * d.boundary.b - d.boundary.a * c.boundary.b)
    ring
  intro zero
  rw [zero, neg_zero] at formula
  exact moves ((rate_zero_iff d _).mpr formula)

def CornerOf (cs : List (Constraint Rat)) (q : Point Rat) : Prop :=
  ∃ c ∈ cs, ∃ d ∈ cs, c.slack q = 0 ∧ d.slack q = 0 ∧ c.boundary.determinant d.boundary ≠ 0

-- From a point of the region a ray without loss of value is followed to the first boundary,
-- and then that boundary, which cannot lose value both ways, to a second one.
theorem corner_reached (cs : List (Constraint Rat)) (o : Objective Rat) (confined : Confines cs o) (p : Point Rat)
    (inside : Inside cs p) : ∃ q, Inside cs q ∧ o.value p ≤ o.value q ∧ CornerOf cs q := by
  obtain ⟨e, t, _, within, gain, c, listed, moves, met⟩ :=
    ray_gains cs o confined p ⟨1, 0⟩ inside (by simp [Point.origin])
  obtain ⟨f, s, heading, final, more, d, present, leaves, reached⟩ :=
    ray_gains cs o confined (p.along e t) c.tangent within fun flat => moves.ne (tangent_zero_rate c flat e)
  have still : c.rate f = 0 := by
    rcases heading with same | same
    · rw [same, rate_tangent_self]
    · rw [same, rate_opposite, rate_tangent_self, neg_zero]
  have turns : d.rate c.tangent ≠ 0 := by
    rcases heading with same | same
    · rw [← same]
      exact leaves.ne
    · rw [same, rate_opposite] at leaves
      linarith
  refine ⟨_, final, gain.trans more, c, listed, d, present, ?_, reached, rate_tangent_determinant c d turns⟩
  rw [slack_along, met, still, mul_zero, add_zero]

end PlanarLP
