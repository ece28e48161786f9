import Mathlib.Order.Bounds.Basic
import PlanarLP.Proofs.AxisLimits

set_option autoImplicit false

namespace PlanarLP

-- The order in which limits are looked at: constraints by position, the edge of the box last.
def Limit.Precedes : Limit → Limit → Prop
  | .constraint i, .constraint j => i < j
  | .constraint _, .bound => True
  | .bound, _ => False

def LimitsAt (cs : List (Constraint Rat)) (axis : Axis) (v : Rat) (i : Nat) : Prop :=
  ∃ c, cs[i]? = some c ∧ 0 < c.boundary.coefficient axis ∧ c.boundary.crossing axis = v

def Limit.FirstAt (cs : List (Constraint Rat)) (axis : Axis) (v : Rat) : Limit → Prop
  | .constraint i => IsLeast {j | LimitsAt cs axis v j} i
  | .bound => ∀ j, ¬ LimitsAt cs axis v j

def LimitersHold (cs : List (Constraint Rat)) (axis : Axis) (x : Rat) : Prop :=
  ∀ c ∈ cs, 0 < c.boundary.coefficient axis → c.Holds 0 (.onAxis axis x)

section Naming

variable (cs : List (Constraint Rat)) (bounds : Bounds Rat) (axis : Axis)

theorem positions_increase {β : Type} (l : List β) (start : Nat) :
    (l.zipIdx start).Pairwise fun e f => e.2 < f.2 := by
  induction l generalizing start with
  | nil => exact .nil
  | cons head rest ih =>
      refine List.pairwise_cons.mpr ⟨fun entry member => ?_, ih (start + 1)⟩
      exact (List.mem_zipIdx member).1

theorem crossings_in_sequence : (axisCrossings cs axis).Pairwise fun e f => e.2.Precedes f.2 := by
  refine (positions_increase cs 0).filterMap _ ?_
  rintro ⟨c, i⟩ ⟨d, j⟩ earlier e first f second
  dsimp only at first second
  split_ifs at first second
  obtain ⟨v, _, rfl⟩ := Option.map_eq_some_iff.mp first
  obtain ⟨w, _, rfl⟩ := Option.map_eq_some_iff.mp second
  exact earlier

theorem limits_in_sequence :
    (axisCrossings cs axis ++ [(bounds.top axis, Limit.bound)]).Pairwise fun e f => e.2.Precedes f.2 := by
  refine List.pairwise_append.mpr ⟨crossings_in_sequence cs axis, List.pairwise_singleton _ _, ?_⟩
  intro entry crossing edge last
  obtain ⟨_, _, _, _, _, position⟩ := (axis_crossing_iff cs axis entry).mp crossing
  rw [List.mem_singleton.mp last, position]
  trivial

theorem limits_at_iff (v : Rat) (i : Nat) : LimitsAt cs axis v i ↔ (v, .constraint i) ∈ axisCrossings cs axis := by
  rw [axis_crossing_mem]
  constructor
  · rintro ⟨c, found, positive, crosses⟩
    exact ⟨i, c, found, positive, crosses.symm, rfl⟩
  · rintro ⟨j, c, found, positive, crosses, same⟩
    injection same with position
    exact ⟨c, position ▸ found, positive, crosses.symm⟩

theorem tightest_leads (direction : Direction) (v : Rat) (limit : Limit)
    (tightest : tightest? cs bounds direction axis = some (v, limit)) (j : Nat) (limits : LimitsAt cs axis v j) :
    limit = .constraint j ∨ limit.Precedes (.constraint j) := by
  have listed := (limits_at_iff cs axis v j).mp limits
  have led : (v, Limit.constraint j) = (v, limit) ∨ limit.Precedes (.constraint j) := by
    cases direction with
    | le =>
        exact first_best_leads (fun a b : Rat => decide (a ≤ b)) id _ (fun _ _ _ _ => decide_eq_true_iff) _
          (limits_in_sequence cs bounds axis) (v, limit) tightest _ (List.mem_append_left _ listed) rfl
    | ge =>
        exact first_best_leads (fun a b : Rat => decide (b ≤ a)) OrderDual.toDual _
          (fun _ _ _ _ => decide_eq_true_iff) _ (crossings_in_sequence cs axis) (v, limit) tightest _ listed rfl
  exact led.imp_left fun same => (congrArg Prod.snd same).symm

theorem tightest_first (direction : Direction) (v : Rat) (limit : Limit)
    (tightest : tightest? cs bounds direction axis = some (v, limit)) : limit.FirstAt cs axis v := by
  have leads := tightest_leads cs bounds axis direction v limit tightest
  cases limit with
  | bound => exact fun j limits => (leads j limits).elim nofun id
  | constraint i =>
      have source := tightest_source cs bounds direction axis _ tightest
      have crossing := source.resolve_right fun edge => nomatch congrArg Prod.snd edge.2
      refine ⟨(limits_at_iff cs axis v i).mpr crossing, fun j limits => ?_⟩
      rcases leads j limits with same | earlier
      · injection same with position
        exact position.le
      · exact Nat.le_of_lt earlier

theorem tightest_lower_source (entry : Rat × Limit) (tightest : tightest? cs bounds .ge axis = some entry) :
    entry ∈ axisCrossings cs axis :=
  (tightest_source cs bounds .ge axis entry tightest).resolve_right fun edge => nomatch edge.1

end Naming

section Stretches

variable (cs : List (Constraint Rat)) (bounds : Bounds Rat) (axis : Axis) (v x : Rat)

theorem below_upper_limit (upper : ∀ c ∈ cs, c.direction = .le) (limit : IsUpperLimit cs bounds axis v) :
    LimitersHold cs axis x ∧ x ≤ bounds.top axis ↔ x ≤ v := by
  have crossing (c : Constraint Rat) (member : c ∈ cs) (positive : 0 < c.boundary.coefficient axis) :
      c.Holds 0 (.onAxis axis x) ↔ x ≤ c.boundary.crossing axis := by
    obtain ⟨l, direction⟩ := c
    obtain rfl : direction = .le := upper _ member
    exact (holds_exactly _ _).trans (below_crossing l axis x positive)
  obtain ⟨⟨inside, least⟩, attained⟩ := limit
  constructor
  · rintro ⟨holds, within⟩
    rcases attained with edge | ⟨c, member, positive, same⟩
    · rw [edge]
      exact within
    · rw [same]
      exact (crossing c member positive).mp (holds c member positive)
  · intro below
    refine ⟨fun c member positive => ?_, below.trans inside⟩
    exact (crossing c member positive).mpr (below.trans (least c member positive))

theorem above_lower_limit (lower : ∀ c ∈ cs, c.direction = .ge) (limit : IsLowerLimit cs axis v) :
    LimitersHold cs axis x ↔ v ≤ x := by
  have crossing (c : Constraint Rat) (member : c ∈ cs) (positive : 0 < c.boundary.coefficient axis) :
      c.Holds 0 (.onAxis axis x) ↔ c.boundary.crossing axis ≤ x := by
    obtain ⟨l, direction⟩ := c
    obtain rfl : direction = .ge := lower _ member
    exact (holds_exactly _ _).trans (above_crossing l axis x positive)
  obtain ⟨greatest, c, member, positive, same⟩ := limit
  constructor
  · intro holds
    rw [same]
    exact (crossing c member positive).mp (holds c member positive)
  · intro above d present rises
    exact (crossing d present rises).mpr ((greatest d present rises).trans above)

theorem tightest_lower_none :
    tightest? cs bounds .ge axis = none ↔ ∀ c ∈ cs, ¬ 0 < c.boundary.coefficient axis := by
  constructor
  · intro none c member positive
    obtain ⟨v, limit, some, _⟩ := tightest_lower cs bounds axis ⟨c, member, positive⟩
    cases none.symm.trans some
  · intro flat
    refine Option.eq_none_iff_forall_ne_some.mpr fun entry some => ?_
    obtain ⟨c, member, positive, _⟩ :=
      axis_crossing_source cs axis entry (tightest_lower_source cs bounds axis entry some)
    exact flat c member positive

end Stretches

theorem tightest_limit (cs : List (Constraint Rat)) (bounds : Bounds Rat) (axis : Axis) :
    ((∀ c ∈ cs, c.direction = .le) → ∃ v limit, tightest? cs bounds .le axis = some (v, limit) ∧
      (∀ x, LimitersHold cs axis x ∧ x ≤ bounds.top axis ↔ x ≤ v) ∧ limit.FirstAt cs axis v ∧
      (limit = .bound → v = bounds.top axis)) ∧
    ((∀ c ∈ cs, c.direction = .ge) →
      (tightest? cs bounds .ge axis = none ↔ ∀ c ∈ cs, ¬ 0 < c.boundary.coefficient axis) ∧
      ∀ v limit, tightest? cs bounds .ge axis = some (v, limit) →
        (∀ x, LimitersHold cs axis x ↔ v ≤ x) ∧ limit.FirstAt cs axis v ∧ limit ≠ .bound) := by
  constructor
  · intro upper
    obtain ⟨v, limit, tightest, least⟩ := tightest_upper cs bounds axis
    have first := tightest_first cs bounds axis .le v limit tightest
    refine ⟨v, limit, tightest, fun x => below_upper_limit cs bounds axis v x upper least, first, ?_⟩
    rintro rfl
    refine least.2.resolve_right ?_
    rintro ⟨c, member, positive, same⟩
    obtain ⟨i, found⟩ := List.mem_iff_getElem?.mp member
    exact first i ⟨c, found, positive, same.symm⟩
  · intro lower
    refine ⟨tightest_lower_none cs bounds axis, fun v limit tightest => ?_⟩
    have listed := tightest_lower_source cs bounds axis _ tightest
    obtain ⟨c, member, positive, _⟩ := axis_crossing_source cs axis _ listed
    obtain ⟨w, other, result, greatest⟩ := tightest_lower cs bounds axis ⟨c, member, positive⟩
    obtain ⟨rfl, rfl⟩ := Prod.mk.inj (Option.some.inj (result.symm.trans tightest))
    refine ⟨fun x => above_lower_limit cs axis w x lower greatest,
      tightest_first cs bounds axis .ge w other tightest, ?_⟩
    rintro rfl
    obtain ⟨_, _, _, _, _, named⟩ := (axis_crossing_iff cs axis _).mp listed
    cases named

def tiedFloors : List (Constraint Rat) := [⟨⟨5, 3, 30⟩, .ge⟩, ⟨⟨-1, 1, -9⟩, .ge⟩, ⟨⟨4, 3, 24⟩, .ge⟩]

def capAtEdge : List (Constraint Rat) := [⟨⟨-1, 1, 2⟩, .le⟩, ⟨⟨2, 1, 20⟩, .le⟩]

theorem tightest_limit_tied :
    (∀ c ∈ capAtEdge, c.direction = .le) ∧ tightest? capAtEdge ⟨10, 10⟩ .le .x = some (10, .constraint 1) ∧
      (∀ x, LimitersHold capAtEdge .x x ∧ x ≤ 10 ↔ x ≤ 10) ∧
      (∀ c ∈ tiedFloors, c.direction = .ge) ∧ tightest? tiedFloors ⟨15, 15⟩ .ge .x = some (6, .constraint 0) ∧
      (∀ x, LimitersHold tiedFloors .x x ↔ 6 ≤ x) ∧ IsLeast {j | LimitsAt tiedFloors .x 6 j} 0 := by
  have upper : ∀ c ∈ capAtEdge, c.direction = .le := by decide +kernel
  have lower : ∀ c ∈ tiedFloors, c.direction = .ge := by decide +kernel
  have cap : tightest? capAtEdge ⟨10, 10⟩ .le .x = some (10, .constraint 1) := by decide +kernel
  have tied : tightest? tiedFloors ⟨15, 15⟩ .ge .x = some (6, .constraint 0) := by decide +kernel
  obtain ⟨v, limit, tightest, stretch, _⟩ := (tightest_limit capAtEdge ⟨10, 10⟩ .x).1 upper
  obtain ⟨rfl, rfl⟩ := Prod.mk.inj (Option.some.inj (cap.symm.trans tightest))
  obtain ⟨above, first, _⟩ := ((tightest_limit tiedFloors ⟨15, 15⟩ .x).2 lower).2 6 (.constraint 0) tied
  exact ⟨upper, cap, stretch, lower, tied, above, first⟩

end PlanarLP
