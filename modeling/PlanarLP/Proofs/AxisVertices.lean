import PlanarLP.Proofs.AxisLimits

set_option autoImplicit false

namespace PlanarLP

theorem on_axis_equal (axis other : Axis) (v w : Rat) (same : Point.onAxis axis v = .onAxis other w) :
    v = w ∧ (axis = other ∨ w = 0) := by
  cases axis <;> cases other <;> simp only [Point.onAxis, Point.mk.injEq] at same
  · exact ⟨same.1, .inl rfl⟩
  · exact ⟨same.1.trans same.2, .inr same.2.symm⟩
  · exact ⟨same.2.trans same.1, .inr same.1.symm⟩
  · exact ⟨same.2, .inl rfl⟩

section Shared

variable (cs : List (Constraint Rat)) (bounds : Bounds Rat) (direction : Direction)
  (shared : sharedDirection? cs = some direction) (axis : Axis) (v : Rat)

def AxisListing : Prop :=
  (∃ other, ∃ d ∈ cs, 0 < d.boundary.coefficient other ∧
    Point.onAxis axis v = .onAxis other (d.boundary.crossing other)) ∨
  (direction = .le ∧ v = bounds.top axis) ∨
  ∃ d e, [d, e].Sublist cs ∧ d.boundary.intersection? e.boundary = some (.onAxis axis v)

include shared

theorem listed_on_axis (box : 0 < bounds.xMax ∧ 0 < bounds.yMax) (listed : Listed cs bounds (.onAxis axis v)) :
    AxisListing cs bounds direction axis v := by
  rcases (listed_iff cs bounds _).mp listed with ⟨other, entry, source, place⟩ | crossing
  · simp only [AxisEntry, shared] at source
    rcases tightest_source cs bounds direction other entry source with crossing | ⟨upper, edge⟩
    · obtain ⟨d, member, positive, same⟩ := axis_crossing_source cs other entry crossing
      exact .inl ⟨other, d, member, positive, same ▸ place⟩
    · -- the far end of an axis is not the origin
      have far : bounds.top other ≠ 0 := by
        cases other with
        | x => exact box.1.ne'
        | y => exact box.2.ne'
      subst edge
      obtain ⟨value, meets⟩ := on_axis_equal axis other v _ place
      rw [← meets.resolve_right far] at value
      exact .inr (.inl ⟨upper, value⟩)
  · exact .inr (.inr crossing)

theorem axis_listed (box : 0 < bounds.xMax ∧ 0 < bounds.yMax) (within : bounds.Contains 0 (.onAxis axis v))
    (inside : Inside cs (.onAxis axis v)) (listing : AxisListing cs bounds direction axis v) :
    Listed cs bounds (.onAxis axis v) := by
  rcases listing with ⟨other, d, member, positive, place⟩ | ⟨upper, edge⟩ | crossing
  · rw [place] at within inside ⊢
    have high := ((contains_on_axis bounds box other _).mp within).2
    exact positive_crossing_listed cs bounds other direction d shared member positive high inside
  · rw [upper] at shared
    rw [edge] at inside ⊢
    exact far_end_listed cs bounds axis shared inside
  · exact (listed_iff cs bounds _).mpr (.inr crossing)

end Shared

theorem axis_vertices_kept (cs : List (Constraint Rat)) (bounds : Bounds Rat) (direction : Direction)
    (shared : sharedDirection? cs = some direction) (box : 0 < bounds.xMax ∧ 0 < bounds.yMax) (axis : Axis)
    (c : Constraint Rat) (member : c ∈ cs) (within : bounds.Contains 0 (.onAxis axis (c.boundary.crossing axis)))
    (satisfied : ∀ d ∈ cs, d.Holds 0 (.onAxis axis (c.boundary.crossing axis))) :
    (0 < c.boundary.coefficient axis → Listed cs bounds (.onAxis axis (c.boundary.crossing axis))) ∧
      (Listed cs bounds (.onAxis axis (c.boundary.crossing axis)) ↔
        (∃ other, ∃ d ∈ cs, 0 < d.boundary.coefficient other ∧
          Point.onAxis axis (c.boundary.crossing axis) = .onAxis other (d.boundary.crossing other)) ∨
        (direction = .le ∧ c.boundary.crossing axis = bounds.top axis) ∨
        ∃ d e, [d, e].Sublist cs ∧
          d.boundary.intersection? e.boundary = some (.onAxis axis (c.boundary.crossing axis))) := by
  have inside : Inside cs (.onAxis axis (c.boundary.crossing axis)) := fun d listed =>
    (holds_exactly d _).mp (satisfied d listed)
  have present := axis_listed cs bounds direction shared axis _ box within inside
  exact ⟨fun positive => present (.inl ⟨axis, c, member, positive, rfl⟩),
    listed_on_axis cs bounds direction shared axis _ box, present⟩

def floorAndCaps : List (Constraint Rat) := [⟨⟨-1, 0, -1⟩, .le⟩, ⟨⟨1, 1, 5⟩, .le⟩, ⟨⟨1, 0, 3⟩, .le⟩]

theorem axis_vertices_kept_floor_and_caps :
    sharedDirection? floorAndCaps = some .le ∧ (⟨⟨1, 0, 3⟩, .le⟩ : Constraint Rat) ∈ floorAndCaps ∧
      (⟨10, 10⟩ : Bounds Rat).Contains 0 (.onAxis .x (Line.crossing ⟨1, 0, 3⟩ .x)) ∧
      (∀ d ∈ floorAndCaps, d.Holds 0 (.onAxis .x (Line.crossing ⟨1, 0, 3⟩ .x))) ∧
      Listed floorAndCaps ⟨10, 10⟩ (.onAxis .x (Line.crossing ⟨1, 0, 3⟩ .x)) := by
  have shared : sharedDirection? floorAndCaps = some .le := by decide +kernel
  have member : (⟨⟨1, 0, 3⟩, .le⟩ : Constraint Rat) ∈ floorAndCaps := by decide +kernel
  have within : (⟨10, 10⟩ : Bounds Rat).Contains 0 (.onAxis .x (Line.crossing ⟨1, 0, 3⟩ .x)) := by decide +kernel
  have satisfied : ∀ d ∈ floorAndCaps, d.Holds 0 (.onAxis .x (Line.crossing ⟨1, 0, 3⟩ .x)) := by decide +kernel
  have kept := axis_vertices_kept floorAndCaps ⟨10, 10⟩ .le shared (by decide +kernel) .x ⟨⟨1, 0, 3⟩, .le⟩ member
    within satisfied
  exact ⟨shared, member, within, satisfied, kept.1 (by decide +kernel)⟩

def floorUnderCap : List (Constraint Rat) := [⟨⟨-1, 0, -1⟩, .le⟩, ⟨⟨1, 1, 5⟩, .le⟩]

def capOverFloor : List (Constraint Rat) := [⟨⟨-1, 0, -4⟩, .ge⟩, ⟨⟨1, 1, 1⟩, .ge⟩]

theorem negative_crossing_left_out :
    (sharedDirection? floorUnderCap = some .le ∧ (⟨⟨-1, 0, -1⟩, .le⟩ : Constraint Rat) ∈ floorUnderCap ∧
      (⟨10, 10⟩ : Bounds Rat).Contains 0 (.onAxis .x (Line.crossing ⟨-1, 0, -1⟩ .x)) ∧
      (∀ d ∈ floorUnderCap, d.Holds 0 (.onAxis .x (Line.crossing ⟨-1, 0, -1⟩ .x))) ∧
      ∀ candidate ∈ candidates floorUnderCap ⟨10, 10⟩,
        candidate.point ≠ .onAxis .x (Line.crossing ⟨-1, 0, -1⟩ .x)) ∧
    (sharedDirection? capOverFloor = some .ge ∧ (⟨⟨-1, 0, -4⟩, .ge⟩ : Constraint Rat) ∈ capOverFloor ∧
      (⟨10, 10⟩ : Bounds Rat).Contains 0 (.onAxis .x (Line.crossing ⟨-1, 0, -4⟩ .x)) ∧
      (∀ d ∈ capOverFloor, d.Holds 0 (.onAxis .x (Line.crossing ⟨-1, 0, -4⟩ .x))) ∧
      ∀ candidate ∈ candidates capOverFloor ⟨10, 10⟩,
        candidate.point ≠ .onAxis .x (Line.crossing ⟨-1, 0, -4⟩ .x)) := by
  refine ⟨⟨?_, ?_, ?_, ?_, ?_⟩, ?_, ?_, ?_, ?_, ?_⟩ <;> decide +kernel

end PlanarLP
