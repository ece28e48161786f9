import PlanarLP.Proofs.FiniteLevels
import PlanarLP.Proofs.Sampling

set_option autoImplicit false

namespace PlanarLP

section Band

theorem self_equal_number (y : Float) (equal : (y == y) = true) : y.isNaN = false := by
  by_contra undefined
  have unordered := (ordering_none_iff y y).mpr (.inl (by simpa using undefined))
  change (ordering? y y == some .eq) = true at equal
  rw [unordered] at equal
  cases equal

theorem double_le_max (a y : Float) (number : a.isNaN = false) : a ≤ Scalar.max a y := by
  unfold Scalar.max
  by_cases below : y ≤ a
  · rw [if_pos below]
    exact double_le_refl a number
  · rw [if_neg below]
    split
    · rename_i equal
      exact double_le_of_lt _ _ (double_lt_of_not_le _ _ (self_equal_number y equal) number below)
    · exact double_le_refl a number

theorem double_min_le (a y : Float) (number : a.isNaN = false) : Scalar.min a y ≤ a := by
  unfold Scalar.min
  by_cases above : a ≤ y
  · rw [if_pos above]
    exact double_le_refl a number
  · rw [if_neg above]
    split
    · rename_i equal
      exact double_le_of_lt _ _ (double_lt_of_not_le _ _ number (self_equal_number y equal) above)
    · exact double_le_refl a number

def Within (top : Float) (extent : Float × Float) : Prop := 0 ≤ extent.1 ∧ extent.2 ≤ top

theorem restrict_within (c : Constraint Float) (x top : Float) (extent final : Float × Float)
    (within : Within top extent) (restricted : c.restrict? x extent = some final) : Within top final := by
  have lowNumber := (double_le_number _ _ within.1).2
  have highNumber := (double_le_number _ _ within.2).1
  unfold Constraint.restrict? at restricted
  cases shape : c.boundary.shape with
  | graph intercept slope =>
      rw [shape] at restricted
      dsimp only at restricted
      rw [Option.some_inj] at restricted
      rw [← restricted]
      split
      · exact ⟨within.1, double_le_trans _ _ _ (double_min_le extent.2 _ highNumber) within.2⟩
      · exact ⟨double_le_trans _ _ _ within.1 (double_le_max extent.1 _ lowNumber), within.2⟩
  | vertical | empty =>
      rw [shape] at restricted
      dsimp only at restricted
      split at restricted
      · cases restricted
      · cases restricted
        exact within

theorem restricted_within (constraints : List (Constraint Float)) (x top : Float) (extent final : Float × Float)
    (within : Within top extent)
    (restricted : constraints.foldlM (fun extent (c : Constraint Float) => c.restrict? x extent) extent = some final) :
    Within top final := by
  induction constraints generalizing extent with
  | nil =>
      cases restricted
      exact within
  | cons c rest ih =>
      rw [List.foldlM_cons] at restricted
      obtain ⟨next, first, later⟩ := Option.bind_eq_some_iff.mp restricted
      exact ih next (restrict_within c x top extent next within first) later

theorem extent_within (constraints : List (Constraint Float)) (bounds : Bounds Float) (x : Float)
    (extent : Float × Float) (nonnegative : 0 ≤ bounds.yMax) (found : extent? constraints bounds x = some extent) :
    Within bounds.yMax extent ∧ extent.1 ≤ extent.2 := by
  obtain ⟨restricted, ordered⟩ := Option.filter_eq_some_iff.mp found
  have top := double_le_refl bounds.yMax (double_le_number _ _ nonnegative).2
  have bottom := double_le_refl 0 (double_le_number _ _ nonnegative).1
  exact ⟨restricted_within constraints x _ (0, bounds.yMax) extent ⟨bottom, top⟩ restricted, of_decide_eq_true ordered⟩

theorem extent_finite (problem : Problem Float) (x : Float) (extent : Float × Float)
    (found : extent? problem.constraints problem.bounds x = some extent) :
    extent.1.isFinite = true ∧ extent.2.isFinite = true := by
  obtain ⟨⟨low, high⟩, ordered⟩ := extent_within _ _ x extent (double_top_nonnegative problem .y) found
  have top := (problem_top problem .y).1
  exact ⟨double_between_finite 0 _ _ low (double_le_trans _ _ _ ordered high) rfl top,
    double_between_finite 0 _ _ (double_le_trans _ _ _ low ordered) high rfl top⟩

end Band

section Drawing

variable {α : Type} [Scalar α]

def Plot.wholeLines (plot : Plot α) (goal : Goal) : List (Polyline α) :=
  plot.boundaries ++ plot.optimalLines.map (·.line) ++ if goal = .minimize then [] else plot.isolines.map (·.line)

def Plot.abscissae (plot : Plot α) : List α :=
  plot.band.map (·.x) ++
    (plot.boundaries ++ (plot.isolines ++ plot.optimalLines).map (·.line)).flatMap fun line => line.points.map (·.x)

variable (problem : Problem α) (solution : Solution α) (goal : Goal) (samples : Nat)

theorem clip_member (line : Polyline α) (extents : List (Option (α × α))) (p : Point α)
    (member : p ∈ (line.clip extents).points) :
    p ∈ line.points ∧ ∃ extent, some extent ∈ extents ∧ extent.1 ≤ p.y ∧ p.y ≤ extent.2 := by
  obtain ⟨⟨q, extent⟩, paired, kept⟩ := List.mem_filterMap.mp member
  obtain ⟨limits, present, inside⟩ := Option.bind_eq_some_iff.mp kept
  subst present
  change (if limits.1 ≤ q.y ∧ q.y ≤ limits.2 then some q else none) = some p at inside
  obtain ⟨between, same⟩ := Option.ite_none_right_eq_some.mp inside
  rw [← Option.some_inj.mp same]
  exact ⟨(List.of_mem_zip paired).1, limits, (List.of_mem_zip paired).2, between⟩

theorem band_member (c : Column α) (member : c ∈ (problem.plot solution goal samples).band) :
    c.x ∈ grid problem.bounds.xMax samples ∧
      extent? problem.constraints problem.bounds c.x = some (c.lower, c.upper) := by
  obtain ⟨x, listed, found⟩ := List.mem_filterMap.mp member
  obtain ⟨extent, present, rfl⟩ := Option.map_eq_some_iff.mp found
  exact ⟨listed, present⟩

theorem isoline_member (i : Isoline α) (member : i ∈ (problem.plot solution goal samples).isolines) :
    (∃ target, i.level ∈ isolineLevels goal problem.objective problem.bounds target) ∧
      i.line = if goal = .minimize then
          ((problem.objective.isoline i.level).sample (grid problem.bounds.xMax samples)).clip
            ((grid problem.bounds.xMax samples).map (extent? problem.constraints problem.bounds))
        else (problem.objective.isoline i.level).sample (grid problem.bounds.xMax samples) := by
  obtain ⟨level, listed, rfl⟩ := List.mem_map.mp member
  refine ⟨?_, rfl⟩
  unfold Problem.targetLevels at listed
  split at listed
  · exact ⟨_, listed⟩
  · cases listed

theorem whole_line_sampled (line : Polyline α) (member : line ∈ (problem.plot solution goal samples).wholeLines goal) :
    ∃ l : Line α, line = l.sample (grid problem.bounds.xMax samples) := by
  rcases List.mem_append.mp member with marked | leading
  · rcases List.mem_append.mp marked with boundary | optimal
    · obtain ⟨c, _, rfl⟩ := List.mem_map.mp boundary
      exact ⟨c.boundary, rfl⟩
    · obtain ⟨i, listed, rfl⟩ := List.mem_map.mp optimal
      obtain ⟨level, _, rfl⟩ := List.mem_map.mp listed
      exact ⟨problem.objective.isoline level, rfl⟩
  · split at leading
    · cases leading
    · rename_i whole
      obtain ⟨i, listed, rfl⟩ := List.mem_map.mp leading
      refine ⟨problem.objective.isoline i.level, ?_⟩
      rw [(isoline_member problem solution goal samples i listed).2, if_neg whole]

theorem sample_abscissa (l : Line α) (xs : List α) (p : Point α) (member : p ∈ (l.sample xs).points) : p.x ∈ xs := by
  obtain ⟨x, listed, rfl⟩ := List.mem_map.mp member
  exact listed

theorem isoline_abscissa (i : Isoline α) (member : i ∈ (problem.plot solution goal samples).isolines) (p : Point α)
    (drawn : p ∈ i.line.points) : p.x ∈ grid problem.bounds.xMax samples := by
  rw [(isoline_member problem solution goal samples i member).2] at drawn
  split at drawn
  · exact sample_abscissa _ _ p (clip_member _ _ p drawn).1
  · exact sample_abscissa _ _ p drawn

theorem abscissa_sampled (x : α) (member : x ∈ (problem.plot solution goal samples).abscissae) :
    x ∈ grid problem.bounds.xMax samples := by
  rcases List.mem_append.mp member with band | drawn
  · obtain ⟨c, listed, rfl⟩ := List.mem_map.mp band
    exact (band_member problem solution goal samples c listed).1
  · obtain ⟨line, listed, point⟩ := List.mem_flatMap.mp drawn
    obtain ⟨p, on, rfl⟩ := List.mem_map.mp point
    rcases List.mem_append.mp listed with boundary | isoline
    · obtain ⟨c, _, rfl⟩ := List.mem_map.mp boundary
      exact sample_abscissa _ _ p on
    · obtain ⟨i, traced, rfl⟩ := List.mem_map.mp isoline
      rcases List.mem_append.mp traced with leading | optimal
      · exact isoline_abscissa problem solution goal samples i leading p on
      · obtain ⟨level, _, rfl⟩ := List.mem_map.mp optimal
        exact sample_abscissa _ _ p on

end Drawing

structure Plot.Finite (plot : Plot Float) (goal : Goal) : Prop where
  bounds : plot.bounds.xMax.isFinite = true ∧ plot.bounds.yMax.isFinite = true
  vertices : ∀ p ∈ plot.vertices, p.Finite
  extrema : ∀ p, plot.maximum = some p ∨ plot.minimum = some p → p.Finite
  limits : ∀ c ∈ plot.band, c.lower.isFinite = true ∧ c.upper.isFinite = true
  levels : ∀ i ∈ plot.isolines, i.level.isFinite = true
  clipped : goal = .minimize → ∀ i ∈ plot.isolines, ∀ p ∈ i.line.points, p.y.isFinite = true
  lines : ∀ line ∈ plot.wholeLines goal, line.EndsFinite → ∀ p ∈ line.points, p.Finite

theorem plot_finite (problem : Problem Float) (solution : Solution Float) (goal : Goal) (samples : Nat)
    (fits : samples < 2 ^ 64) (finite : solution.Finite) : (problem.plot solution goal samples).Finite goal where
  bounds := ⟨(problem_top problem .x).1, (problem_top problem .y).1⟩
  vertices := by
    intro p member
    obtain ⟨v, listed, rfl⟩ := List.mem_map.mp member
    exact finite.vertices v listed
  extrema := by
    rintro p (marked | marked)
    · obtain ⟨m, found, rfl⟩ := Option.map_eq_some_iff.mp marked
      exact finite.extrema m (.inl found)
    · obtain ⟨m, found, rfl⟩ := Option.map_eq_some_iff.mp marked
      exact finite.extrema m (.inr found)
  limits := by
    intro c member
    exact extent_finite problem c.x (c.lower, c.upper) (band_member problem solution goal samples c member).2
  levels := by
    intro i member
    obtain ⟨⟨target, listed⟩, _⟩ := isoline_member problem solution goal samples i member
    exact isoline_levels_finite goal _ _ target i.level listed
  clipped := by
    intro minimizing i member p drawn
    rw [(isoline_member problem solution goal samples i member).2, if_pos minimizing] at drawn
    obtain ⟨_, extent, present, low, high⟩ := clip_member _ _ p drawn
    obtain ⟨x, _, found⟩ := List.mem_map.mp present
    obtain ⟨bottom, top⟩ := extent_finite problem x extent found
    exact double_between_finite _ _ _ low high bottom top
  lines := by
    intro line member ends
    obtain ⟨l, rfl⟩ := whole_line_sampled problem solution goal samples line member
    exact sample_finite l _ samples fits (problem_top problem .x).1 (top_nonnegative problem .x) ends

theorem output_finite (problem : Problem Float) (goal : Goal) (tolerance : Float) (samples : Nat)
    (fits : samples < 2 ^ 64) :
    (problem.solve goal tolerance).Finite ∧
      (problem.plot (problem.solve goal tolerance) goal samples).Finite goal ∧
      ((problem.objective.reach problem.bounds).isFinite = true →
        (problem.solve goal tolerance).Valued ∧
          ∀ i ∈ (problem.plot (problem.solve goal tolerance) goal samples).optimalLines, i.level.isFinite = true) ∧
      ((problem.bounds.xMax < largestDouble ∨
          ∀ x, (grid problem.bounds.xMax samples).getLast? = some x → x.isFinite = true) →
        ∀ x ∈ (problem.plot (problem.solve goal tolerance) goal samples).abscissae, x.isFinite = true) := by
  have finite := solution_finite problem goal tolerance
  refine ⟨finite, plot_finite problem _ goal samples fits finite, ?_, ?_⟩
  · intro bounded
    have valued := solution_valued problem goal tolerance bounded
    refine ⟨valued, ?_⟩
    intro i member
    obtain ⟨level, listed, rfl⟩ := List.mem_map.mp member
    obtain ⟨m, selected, rfl⟩ := List.mem_map.mp listed
    refine valued.extrema m ?_
    rcases List.mem_append.mp selected with maximum | minimum
    · exact .inl (Option.mem_toList.mp maximum)
    · exact .inr (Option.mem_toList.mp minimum)
  · intro last x member
    exact grid_finite problem samples fits last x (abscissa_sampled problem _ goal samples x member)

theorem output_finite_tied_along_bound :
    3 < 2 ^ 64 ∧ (tiedAlongBound.objective.reach tiedAlongBound.bounds).isFinite = true ∧
      tiedAlongBound.bounds.xMax < largestDouble ∧
      (tiedAlongBound.plot (tiedAlongBound.solve .maximize defaultTolerance) .maximize 3).isolines.length = 30 ∧
      (tiedAlongBound.solve .maximize defaultTolerance).Finite ∧
      (tiedAlongBound.solve .maximize defaultTolerance).Valued ∧
      (tiedAlongBound.plot (tiedAlongBound.solve .maximize defaultTolerance) .maximize 3).Finite .maximize ∧
      ∀ x ∈ (tiedAlongBound.plot (tiedAlongBound.solve .maximize defaultTolerance) .maximize 3).abscissae,
        x.isFinite = true := by
  have bounded : (tiedAlongBound.objective.reach tiedAlongBound.bounds).isFinite = true := by decide +kernel
  have below : tiedAlongBound.bounds.xMax < largestDouble := by decide +kernel
  have drawn :
      (tiedAlongBound.plot (tiedAlongBound.solve .maximize defaultTolerance) .maximize 3).isolines.length = 30 := by
    decide +kernel
  obtain ⟨solution, plot, valued, abscissae⟩ := output_finite tiedAlongBound .maximize defaultTolerance 3 (by norm_num)
  exact ⟨by norm_num, bounded, below, drawn, solution, (valued bounded).1, plot, abscissae (.inl below)⟩

def steepObjective : Problem Float where
  first := ⟨⟨1, 1, 20⟩, .le⟩
  second := ⟨⟨1, -1, 0⟩, .le⟩
  objective := ⟨1e308, -1e308⟩
  bounds := ⟨10, 10⟩
  valid := by decide +kernel

def steepBoundary : Problem Float where
  first := ⟨⟨1, 1e-308, 10⟩, .le⟩
  second := ⟨⟨1, 1, -4⟩, .le⟩
  objective := ⟨1, 1⟩
  bounds := ⟨10, 10⟩
  valid := by decide +kernel

-- A sixth of the width is rounded up, and six times that is too much.
def widestBox : Problem Float where
  first := ⟨⟨1, 1, -4⟩, .le⟩
  second := ⟨⟨1, 1, -4⟩, .le⟩
  objective := ⟨1, 1⟩
  bounds := ⟨largestDouble, 10⟩
  valid := by decide +kernel

theorem output_overflows :
    ((steepObjective.solve .both defaultTolerance).maximum.map (·.value) = some 0 ∧
        ∃ v ∈ (steepObjective.solve .both defaultTolerance).vertices, v.value.isFinite = false ∧ ¬ v.value ≤ 0) ∧
      (∃ line ∈ (steepBoundary.plot (steepBoundary.solve .both defaultTolerance) .both 2).boundaries,
        ∃ p ∈ line.points, p.y.isFinite = false) ∧
      ∃ line ∈ (widestBox.plot (widestBox.solve .both defaultTolerance) .both 7).boundaries,
        ∃ p ∈ line.points, p.x.isFinite = false := by
  decide +kernel

end PlanarLP
