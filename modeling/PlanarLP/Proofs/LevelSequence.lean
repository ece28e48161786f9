import PlanarLP.Proofs.LevelCeiling

set_option autoImplicit false

namespace PlanarLP

namespace Goal

def baseline (goal : Goal) (target : Rat) : Rat :=
  match goal with
  | .maximize => 1 / 10 * target
  | .minimize => target
  | .both => 0

def destination (goal : Goal) (o : Objective Rat) (b : Bounds Rat) (target : Rat) : Rat :=
  match goal with
  | .minimize => max (max (o.g * b.xMax) (o.h * b.yMax)) (o.g * b.xMax + o.h * b.yMax)
  | .maximize | .both => target

end Goal

-- A difference that points the way from `start` to `stop`.
def Toward (start stop difference : Rat) : Prop :=
  (start < stop ∧ 0 < difference) ∨ (stop < start ∧ difference < 0)

structure ShortOf (start stop : Rat) (n : Nat) (zs : List Rat) : Prop where
  count : zs.length = n
  first : zs.head? = some start
  even : ∃ step, Toward start stop step ∧ ∀ i x y, zs[i]? = some x → zs[i + 1]? = some y → y - x = step
  ahead : ∀ z ∈ zs, Toward start stop (stop - z)
  distinct : zs.Nodup

section Shares

variable (start stop : Rat)

theorem toward_nonzero (difference : Rat) (toward : Toward start stop difference) : difference ≠ 0 := by
  rcases toward with ⟨_, positive⟩ | ⟨_, negative⟩
  · exact positive.ne'
  · exact negative.ne

theorem share_toward (apart : start ≠ stop) (share : Rat) (positive : 0 < share) :
    Toward start stop (share * (stop - start)) := by
  rcases lt_or_gt_of_ne apart with rising | falling
  · exact .inl ⟨rising, mul_pos positive (sub_pos.mpr rising)⟩
  · exact .inr ⟨falling, mul_neg_of_pos_of_neg positive (sub_neg.mpr falling)⟩

theorem walk_distinct (step : Rat) (n : Nat) (moves : step ≠ 0) : (walk start step n).Nodup := by
  refine (walk_onward start step n).imp fun {x y} ⟨k, ahead, same⟩ equal => ?_
  have still : k * step = 0 := left_eq_add.mp (equal.trans same)
  exact mul_ne_zero ahead.ne' moves still

-- What is left of the way after a share of it is again a share.
theorem walk_short (apart : start ≠ stop) (n : Nat) (several : 0 < n) :
    ShortOf start stop n (walk start ((stop - start) / n) n) := by
  have count : (0 : Rat) < n := Nat.cast_pos.mpr several
  have step : Toward start stop ((stop - start) / n) := by
    rw [div_eq_inv_mul]
    exact share_toward start stop apart _ (inv_pos.mpr count)
  refine ⟨walk_length start _ n, walk_first start _ n several, ⟨_, step, walk_even start _ n⟩, fun z listed => ?_,
    walk_distinct start _ n (toward_nonzero start stop _ step)⟩
  obtain ⟨t, _, short, rfl⟩ := walk_share start n stop z listed
  have left : stop - (start + t * (stop - start)) = (1 - t) * (stop - start) := by ring
  rw [left]
  exact share_toward start stop apart _ (sub_pos.mpr short)

end Shares

section Goals

variable (goal : Goal) (o : Objective Rat) (b : Bounds Rat) (target : Rat)

theorem level_span_exactly : goal.levelSpan o b target = (goal.baseline target, goal.destination o b target) := by
  cases goal with
  | maximize =>
      have tenth : (Scalar.ofDecimal 1 1 : Rat) = 1 / 10 := by decide +kernel
      rw [Goal.levelSpan, tenth]
      exact congrArg (Prod.mk · target) (mul_comm target (1 / 10))
  | minimize => exact congrArg (Prod.mk target) (ceiling_exactly o b)
  | both => rfl

theorem goal_levels_walk :
    isolineLevels goal o b target =
      if goal.baseline target = goal.destination o b target then []
      else walk (goal.baseline target)
        ((goal.destination o b target - goal.baseline target) / goal.levelCount) goal.levelCount :=
  levels_walk goal o b target _ _ (level_span_exactly goal o b target)

theorem goal_levels_short (apart : goal.baseline target ≠ goal.destination o b target) :
    ShortOf (goal.baseline target) (goal.destination o b target) goal.levelCount (isolineLevels goal o b target) := by
  rw [goal_levels_walk, if_neg apart]
  exact walk_short _ _ apart _ (Nat.cast_pos.mp (level_count_positive goal))

theorem goal_levels_none :
    isolineLevels goal o b target = [] ↔ goal.baseline target = goal.destination o b target := by
  constructor
  · intro none
    by_contra apart
    have first := (goal_levels_short goal o b target apart).first
    rw [none] at first
    cases first
  · intro same
    rw [goal_levels_walk, if_pos same]

theorem destination_unlisted : goal.destination o b target ∉ isolineLevels goal o b target := by
  intro listed
  by_cases same : goal.baseline target = goal.destination o b target
  · rw [(goal_levels_none goal o b target).mpr same] at listed
    cases listed
  · have ahead := (goal_levels_short goal o b target same).ahead _ listed
    exact toward_nonzero _ _ _ ahead (sub_self _)

end Goals

theorem levels_stop_short (goal : Goal) (o : Objective Rat) (b : Bounds Rat) (target : Rat) :
    (isolineLevels goal o b target = [] ↔ goal.baseline target = goal.destination o b target) ∧
      (goal.baseline target ≠ goal.destination o b target →
        ShortOf (goal.baseline target) (goal.destination o b target) goal.levelCount
          (isolineLevels goal o b target)) ∧
      (goal ≠ .minimize → target ∉ isolineLevels goal o b target) := by
  refine ⟨goal_levels_none goal o b target, goal_levels_short goal o b target, fun other => ?_⟩
  have optimal : goal.destination o b target = target := by
    cases goal with
    | minimize => exact absurd rfl other
    | maximize | both => rfl
  have unlisted := destination_unlisted goal o b target
  rwa [optimal] at unlisted

theorem levels_stop_short_falling :
    (-3 : Rat) ≠ -30 ∧ ShortOf (-3) (-30) 30 (isolineLevels .maximize ⟨-3, -2⟩ ⟨20, 20⟩ (-30)) ∧
      (-30 : Rat) ∉ isolineLevels .maximize ⟨-3, -2⟩ ⟨20, 20⟩ (-30) := by
  have start : Goal.maximize.baseline (-30) = -3 := by norm_num [Goal.baseline]
  have apart : (-3 : Rat) ≠ -30 := by norm_num
  obtain ⟨_, short, unlisted⟩ := levels_stop_short .maximize ⟨-3, -2⟩ ⟨20, 20⟩ (-30)
  rw [start] at short
  exact ⟨apart, short apart, unlisted nofun⟩

end PlanarLP
