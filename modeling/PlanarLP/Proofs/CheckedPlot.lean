import PlanarLP.Plot
import PlanarLP.Proofs.CheckedSolve
import PlanarLP.Proofs.DoubleArithmetic

set_option autoImplicit false

namespace PlanarLP

namespace Checked

variable {α : Type} [Scalar α]

def grid (top : α) (samples : Nat) : Option (List α) :=
  let n := Nat.max samples 2
  (quotient top (Scalar.natural (n - 1))).map fun step => (List.range n).map fun i => step * Scalar.natural i

def yAt (l : Line α) (x : α) : Option α :=
  (shape l).map fun
    | .graph intercept slope => intercept + slope * x
    | .vertical _ | .empty => 0

def sample (l : Line α) (xs : List α) : Option (Polyline α) :=
  (xs.mapM fun x => (yAt l x).map (⟨x, ·⟩)).map Polyline.mk

def isolines (o : Objective α) (xs levels : List α) (finish : Polyline α → Polyline α) : Option (List (Isoline α)) :=
  levels.mapM fun level => (sample (o.isoline level) xs).map fun line => ⟨level, finish line⟩

def restrict (c : Constraint α) (x : α) (extent : α × α) : Option (Option (α × α)) :=
  (shape c.boundary).map fun
    | .graph intercept slope =>
        let y := intercept + slope * x
        some (if c.capsY then (extent.1, Scalar.min extent.2 y) else (Scalar.max extent.1 y, extent.2))
    | .vertical _ | .empty => if c.slack ⟨x, 0⟩ < 0 then none else some extent

def narrow (x : α) : List (Constraint α) → α × α → Option (Option (α × α))
  | [], extent => some (some extent)
  | c :: rest, extent => do
      match ← restrict c x extent with
      | none => some none
      | some left => narrow x rest left

def extent (constraints : List (Constraint α)) (bounds : Bounds α) (x : α) : Option (Option (α × α)) :=
  (narrow x constraints (0, bounds.yMax)).map (Option.filter fun (lower, upper) => decide (lower ≤ upper))

def plot (problem : Problem α) (solution : Solution α) (goal : Goal) (samples : Nat) : Option (Plot α) := do
  let xs ← grid problem.bounds.xMax samples
  let extents ← xs.mapM (extent problem.constraints problem.bounds)
  let boundaries ← problem.constraints.mapM fun c => sample c.boundary xs
  let leading ← isolines problem.objective xs (problem.targetLevels solution goal) fun line =>
    if goal = .minimize then line.clip extents else line
  let optimalLines ← isolines problem.objective xs solution.optimalLevels id
  some
    { bounds := problem.bounds
      boundaries
      band := (xs.zip extents).filterMap fun (x, extent) => extent.map fun (lower, upper) => ⟨x, lower, upper⟩
      isolines := leading
      optimalLines
      vertices := solution.vertices.map (·.point)
      maximum := solution.maximum.map (·.point)
      minimum := solution.minimum.map (·.point) }

end Checked

theorem natural_nonzero (n : Nat) (positive : 0 < n) : ((Scalar.natural n : Float) == 0) = false := by
  refine Bool.eq_false_iff.mpr fun zero => ?_
  have value := (natural_reads n).2
  rw [(alike_value _ _ (.inl zero)).2] at value
  have least := rounded_mono 1 n (by exact_mod_cast positive)
  have unit := whole_rounded 1 (by norm_num)
  rw [Nat.cast_one] at unit
  rw [unit, ← value] at least
  exact absurd least (not_le.mpr one_pos)

theorem grid_settled (top : Float) (samples : Nat) : Checked.grid top samples = some (grid top samples) := by
  have steps : 0 < Nat.max samples 2 - 1 := Nat.sub_pos_of_lt (le_max_right samples 2)
  unfold Checked.grid grid
  dsimp only
  rw [quotient_settled _ _ (natural_nonzero _ steps)]
  rfl

section Lines

variable (l : Line Float) (xs : List Float)

theorem y_at_settled (x : Float) : Checked.yAt l x = some (l.yAt x) := by
  unfold Checked.yAt
  rw [shape_settled]
  rfl

theorem sample_settled : Checked.sample l xs = some (l.sample xs) := by
  unfold Checked.sample
  rw [map_settled _ _ xs fun x _ => by rw [y_at_settled, Option.map_some]]
  rfl

theorem isolines_settled (o : Objective Float) (levels : List Float) (finish : Polyline Float → Polyline Float) :
    Checked.isolines o xs levels finish =
      some (levels.map fun level => ⟨level, finish ((o.isoline level).sample xs)⟩) :=
  map_settled _ _ levels fun level _ => by rw [sample_settled, Option.map_some]

end Lines

section Columns

variable (constraints : List (Constraint Float)) (bounds : Bounds Float) (x : Float)

theorem restrict_settled (c : Constraint Float) (extent : Float × Float) :
    Checked.restrict c x extent = some (c.restrict? x extent) := by
  unfold Checked.restrict
  rw [shape_settled]
  rfl

theorem narrow_settled (start : Float × Float) :
    Checked.narrow x constraints start =
      some (constraints.foldlM (fun extent (c : Constraint Float) => c.restrict? x extent) start) := by
  induction constraints generalizing start with
  | nil => rfl
  | cons c rest ih =>
      rw [Checked.narrow, restrict_settled, List.foldlM_cons]
      cases left : c.restrict? x start with
      | none => rfl
      | some extent => exact ih extent

theorem extent_settled : Checked.extent constraints bounds x = some (extent? constraints bounds x) := by
  unfold Checked.extent
  rw [narrow_settled]
  rfl

end Columns

theorem band_settled (constraints : List (Constraint Float)) (bounds : Bounds Float) (xs : List Float) :
    ((xs.zip (xs.map (extent? constraints bounds))).filterMap fun (x, extent) =>
      extent.map fun (lower, upper) => (⟨x, lower, upper⟩ : Column Float)) = feasibleBand constraints bounds xs := by
  induction xs with
  | nil => rfl
  | cons x xs ih =>
      unfold feasibleBand at ih ⊢
      rw [List.map_cons, List.zip_cons_cons, List.filterMap_cons, List.filterMap_cons, ih]

theorem plot_settled (problem : Problem Float) (solution : Solution Float) (goal : Goal) (samples : Nat) :
    Checked.plot problem solution goal samples = some (problem.plot solution goal samples) := by
  have extents (xs : List Float) := map_settled _ _ xs fun x _ => extent_settled problem.constraints problem.bounds x
  have boundaries (xs : List Float) := map_settled _ _ problem.constraints fun c _ => sample_settled c.boundary xs
  unfold Checked.plot
  simp only [grid_settled, extents, boundaries, isolines_settled, band_settled, Option.bind_eq_bind, Option.bind_some]
  rfl

theorem partial_steps_settled (problem : Problem Float) (tolerance : Float) (goal : Goal) (solution : Solution Float)
    (samples : Nat) :
    Checked.solve problem tolerance goal = some (problem.solve goal tolerance) ∧
      Checked.plot problem solution goal samples = some (problem.plot solution goal samples) :=
  ⟨solve_settled problem goal tolerance, plot_settled problem solution goal samples⟩

def vanishingDeterminant : Problem Float where
  first := ⟨⟨1e-200, 2e-200, 4e-200⟩, .le⟩
  second := ⟨⟨2e-200, 1e-200, 4e-200⟩, .le⟩
  objective := ⟨1, 1⟩
  bounds := ⟨10, 10⟩
  valid := by decide +kernel

example :
    vanishingDeterminant.first.boundary.determinant vanishingDeterminant.second.boundary = 0 ∧
      (vanishingDeterminant.solve .maximize 0).vertices.map (·.point) = [⟨2, 0⟩, ⟨0, 2⟩] := by
  decide +kernel

end PlanarLP
