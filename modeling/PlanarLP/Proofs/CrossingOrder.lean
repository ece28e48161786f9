import Mathlib.Data.List.FinRange
import Mathlib.Data.List.Nodup
import PlanarLP.Proofs.Provenance

set_option autoImplicit false

namespace PlanarLP

def MixedDirections (cs : List (Constraint Rat)) : Prop :=
  (∃ c ∈ cs, c.direction = .le) ∧ ∃ c ∈ cs, c.direction = .ge

theorem mixed_not_shared (cs : List (Constraint Rat)) (mixed : MixedDirections cs) : sharedDirection? cs = none := by
  obtain ⟨⟨c, upper, le⟩, ⟨d, lower, ge⟩⟩ := mixed
  cases shared : sharedDirection? cs with
  | none => rfl
  | some direction =>
      have same := shared_direction cs direction shared
      cases (le.symm.trans (same c upper)).trans ((same d lower).symm.trans ge)

theorem alike_shared (cs : List (Constraint Rat)) (direction : Direction)
    (alike : ∀ c ∈ cs, c.direction = direction) : cs = [] ∨ sharedDirection? cs = some direction := by
  cases cs with
  | nil => exact .inl rfl
  | cons head rest =>
      obtain ⟨first, others⟩ := List.forall_mem_cons.mp alike
      have all : rest.all (·.direction == head.direction) = true := by simpa [first] using others
      exact .inr ((if_pos all).trans (congrArg some first))

theorem alike_of_not_mixed (cs : List (Constraint Rat)) (single : ¬ MixedDirections cs) :
    ∃ direction, ∀ c ∈ cs, c.direction = direction := by
  by_cases upper : ∃ c ∈ cs, c.direction = .le
  · refine ⟨.le, fun c member => ?_⟩
    cases direction : c.direction with
    | le => rfl
    | ge => exact absurd ⟨upper, c, member, direction⟩ single
  · refine ⟨.ge, fun c member => ?_⟩
    cases direction : c.direction with
    | le => exact absurd ⟨c, member, direction⟩ upper
    | ge => rfl

section Positions

theorem zip_index_positions {β : Type} (l : List β) :
    l.zipIdx = (List.finRange l.length).map fun i => (l[i], i.val) := by
  apply List.ext_getElem <;> simp

theorem pairs_map {β γ : Type} (f : β → γ) (l : List β) : pairs (l.map f) = (pairs l).map (Prod.map f f) := by
  induction l with
  | nil => rfl
  | cons head rest ih => simp [pairs, ih, Function.comp_def]

theorem pairs_positions (n : Nat) :
    pairs (List.finRange n) =
      (List.finRange n).flatMap fun i =>
        (List.finRange n).filterMap fun j => if i < j then some (i, j) else none := by
  induction n with
  | zero => rfl
  | succ n ih =>
      rw [List.finRange_succ, pairs, pairs_map, ih]
      simp [List.flatMap_map, List.filterMap_map, List.map_flatMap, List.map_filterMap, Function.comp_def]

end Positions

section Listing

def axisCandidate (axis : Axis) (entry : Rat × Limit) : Candidate Rat :=
  ⟨.onAxis axis entry.1, .intercept axis entry.2⟩

def crossingOn (axis : Axis) (i : Nat) (l : Line Rat) : List (Candidate Rat) :=
  if l.coefficient axis = 0 then [] else [axisCandidate axis (l.crossing axis, .constraint i)]

def meeting? (i j : Nat) (l m : Line Rat) : Option (Candidate Rat) :=
  (l.intersection? m).map (⟨·, .intersection i j⟩)

variable (cs : List (Constraint Rat)) (bounds : Bounds Rat)

def crossings : List (Candidate Rat) :=
  (List.finRange cs.length).flatMap fun (i : Fin cs.length) =>
    crossingOn .x i cs[i].boundary ++ crossingOn .y i cs[i].boundary

def meetings : List (Candidate Rat) :=
  (List.finRange cs.length).flatMap fun (i : Fin cs.length) =>
    (List.finRange cs.length).filterMap fun (j : Fin cs.length) =>
      if i < j then meeting? i j cs[i].boundary cs[j].boundary else none

theorem intersections_by_position : intersections cs = meetings cs := by
  unfold intersections meetings
  rw [zip_index_positions, pairs_map, pairs_positions, List.filterMap_map, List.filterMap_flatMap]
  refine congrArg (fun row => List.flatMap row _) (funext fun i => ?_)
  rw [List.filterMap_filterMap]
  refine congrArg (fun entry => List.filterMap entry _) (funext fun j => ?_)
  by_cases order : i < j
  · rw [if_pos order, if_pos order]
    rfl
  · rw [if_neg order, if_neg order]
    rfl

theorem crossing_on_intercept (axis : Axis) (i : Nat) (l : Line Rat) :
    crossingOn axis i l = ((l.intercept? axis).map fun v => axisCandidate axis (v, .constraint i)).toList := by
  rw [intercept_exactly, crossingOn]
  by_cases flat : l.coefficient axis = 0
  · rw [if_pos flat, if_pos flat]
    rfl
  · rw [if_neg flat, if_neg flat]
    rfl

theorem both_axes {β : Type} (f : Axis → Option β) : [Axis.x, Axis.y].filterMap f = (f .x).toList ++ (f .y).toList := by
  rw [List.filterMap_cons, List.filterMap_cons, List.filterMap_nil]
  cases f .x <;> cases f .y <;> rfl

theorem mixed_candidates (mixed : MixedDirections cs) : candidates cs bounds = crossings cs ++ meetings cs := by
  rw [candidates, intersections_by_position, axisCandidates, mixed_not_shared cs mixed]
  refine congrArg (· ++ meetings cs) ?_
  simp only [crossings, both_axes, crossing_on_intercept, zip_index_positions, List.flatMap_map]
  rfl

theorem shared_candidates (direction : Direction) (alike : ∀ c ∈ cs, c.direction = direction) :
    ∃ x y : Option (Rat × Limit), candidates cs bounds =
      (x.map (axisCandidate .x)).toList ++ (y.map (axisCandidate .y)).toList ++ meetings cs := by
  rw [candidates, intersections_by_position]
  rcases alike_shared cs direction alike with empty | shared
  · subst empty
    exact ⟨none, none, rfl⟩
  · refine ⟨tightest? cs bounds direction .x, tightest? cs bounds direction .y, ?_⟩
    rw [axisCandidates, shared]
    exact congrArg (· ++ meetings cs) (both_axes _)

end Listing

section Distinct

-- Rows are kept apart by the position that all origins of a row begin with.
theorem rows_distinct {n : Nat} (row : Fin n → List (Candidate Rat)) (leading : Origin → Nat)
    (led : ∀ i, ∀ k ∈ row i, leading k.origin = i) (distinct : ∀ i, ((row i).map (·.origin)).Nodup) :
    (((List.finRange n).flatMap row).map (·.origin)).Nodup := by
  rw [List.map_flatMap, List.nodup_flatMap]
  refine ⟨fun i _ => distinct i, (List.nodup_finRange n).imp fun different => ?_⟩
  intro origin first second
  obtain ⟨k, left, rfl⟩ := List.mem_map.mp first
  obtain ⟨k', right, same⟩ := List.mem_map.mp second
  refine different (Fin.ext ?_)
  rw [← led _ k left, ← led _ k' right, same]

def Origin.leading : Origin → Nat
  | .intercept _ (.constraint i) => i
  | .intercept _ .bound => 0
  | .intersection i _ => i

variable (cs : List (Constraint Rat)) (bounds : Bounds Rat)

theorem crossing_on_origin (axis : Axis) (i : Nat) (l : Line Rat) :
    ∀ k ∈ crossingOn axis i l, k.origin = .intercept axis (.constraint i) := by
  intro k listed
  unfold crossingOn at listed
  split_ifs at listed
  · cases listed
  · rw [List.mem_singleton.mp listed]
    rfl

theorem meeting_origin (i j : Nat) (l m : Line Rat) (k : Candidate Rat) (meets : meeting? i j l m = some k) :
    k.origin = .intersection i j := by
  obtain ⟨p, _, rfl⟩ := Option.map_eq_some_iff.mp meets
  rfl

theorem crossings_distinct : ((crossings cs).map (·.origin)).Nodup := by
  refine rows_distinct _ Origin.leading ?_ ?_
  · intro i k listed
    rcases List.mem_append.mp listed with onX | onY
    · rw [crossing_on_origin .x i _ k onX]
      rfl
    · rw [crossing_on_origin .y i _ k onY]
      rfl
  · intro i
    unfold crossingOn
    split_ifs <;> simp [axisCandidate]

theorem meetings_distinct : ((meetings cs).map (·.origin)).Nodup := by
  refine rows_distinct _ Origin.leading ?_ ?_
  · intro i k listed
    obtain ⟨j, _, meets⟩ := List.mem_filterMap.mp listed
    split_ifs at meets
    rw [meeting_origin i j _ _ k meets]
    rfl
  · intro i
    rw [List.map_filterMap]
    refine (List.nodup_finRange _).filterMap fun j j' origin first second => ?_
    obtain ⟨k, left, rfl⟩ := Option.map_eq_some_iff.mp first
    obtain ⟨k', right, same⟩ := Option.map_eq_some_iff.mp second
    split_ifs at left right
    rw [meeting_origin i j _ _ k left, meeting_origin i j' _ _ k' right] at same
    injection same with _ position
    exact (Fin.ext position).symm

theorem origins_distinct (axial : List (Candidate Rat)) (distinct : (axial.map (·.origin)).Nodup)
    (onAxes : ∀ k ∈ axial, ∃ axis limit, k.origin = .intercept axis limit) :
    ((axial ++ meetings cs).map (·.origin)).Nodup := by
  rw [List.map_append]
  refine distinct.append (meetings_distinct cs) fun origin first second => ?_
  obtain ⟨k, left, rfl⟩ := List.mem_map.mp first
  obtain ⟨k', right, same⟩ := List.mem_map.mp second
  obtain ⟨axis, limit, intercept⟩ := onAxes k left
  obtain ⟨i, _, row⟩ := List.mem_flatMap.mp right
  obtain ⟨j, _, meets⟩ := List.mem_filterMap.mp row
  split_ifs at meets
  rw [meeting_origin i j _ _ k' meets, intercept] at same
  cases same

theorem candidates_distinct : ((candidates cs bounds).map (·.origin)).Nodup := by
  by_cases mixed : MixedDirections cs
  · rw [mixed_candidates cs bounds mixed]
    refine origins_distinct cs _ (crossings_distinct cs) fun k listed => ?_
    obtain ⟨i, _, row⟩ := List.mem_flatMap.mp listed
    rcases List.mem_append.mp row with onX | onY
    · exact ⟨_, _, crossing_on_origin .x i _ k onX⟩
    · exact ⟨_, _, crossing_on_origin .y i _ k onY⟩
  · obtain ⟨direction, alike⟩ := alike_of_not_mixed cs mixed
    obtain ⟨x, y, listing⟩ := shared_candidates cs bounds direction alike
    rw [listing]
    refine origins_distinct cs _ ?_ ?_
    · cases x <;> cases y <;> simp [axisCandidate]
    · cases x <;> cases y <;> simp [axisCandidate]

end Distinct

section Complete

variable (cs : List (Constraint Rat)) (bounds : Bounds Rat)

theorem crossing_found (mixed : MixedDirections cs) (i : Fin cs.length) (axis : Axis) (p : Point Rat)
    (meets : cs[i].boundary.coefficient axis ≠ 0) (onAxis : axis.line.value p = axis.line.c)
    (onBoundary : cs[i].boundary.value p = cs[i].boundary.c) :
    ⟨p, .intercept axis (.constraint i)⟩ ∈ candidates cs bounds := by
  have listed : ⟨p, .intercept axis (.constraint i)⟩ ∈ crossingOn axis i cs[i].boundary := by
    rw [(axis_meets axis cs[i].boundary meets p).mp ⟨onAxis, onBoundary⟩, crossingOn, if_neg meets]
    exact List.mem_singleton_self _
  rw [mixed_candidates cs bounds mixed]
  refine List.mem_append_left _ (List.mem_flatMap.mpr ⟨i, List.mem_finRange i, ?_⟩)
  cases axis with
  | x => exact List.mem_append_left _ listed
  | y => exact List.mem_append_right _ listed

theorem meeting_found (i j : Fin cs.length) (order : i < j) (p : Point Rat)
    (separate : cs[i].boundary.intersection? cs[j].boundary ≠ none)
    (first : cs[i].boundary.value p = cs[i].boundary.c) (second : cs[j].boundary.value p = cs[j].boundary.c) :
    ⟨p, .intersection i j⟩ ∈ candidates cs bounds := by
  obtain ⟨q, crosses⟩ := Option.ne_none_iff_exists'.mp separate
  have same : p = q := (intersection_meets _ _ q crosses p).mp ⟨first, second⟩
  have meets : meeting? i j cs[i].boundary cs[j].boundary = some ⟨p, .intersection i j⟩ := by
    rw [meeting?, crosses, same]
    rfl
  rw [candidates, intersections_by_position]
  refine List.mem_append_right _ (List.mem_flatMap.mpr ⟨i, List.mem_finRange i, ?_⟩)
  exact List.mem_filterMap.mpr ⟨j, List.mem_finRange j, (if_pos order).trans meets⟩

end Complete

theorem crossings_in_order (cs : List (Constraint Rat)) (bounds : Bounds Rat) :
    (MixedDirections cs → candidates cs bounds = crossings cs ++ meetings cs) ∧
      (∀ direction, (∀ c ∈ cs, c.direction = direction) → ∃ x y : Option (Rat × Limit),
        candidates cs bounds =
          (x.map (axisCandidate .x)).toList ++ (y.map (axisCandidate .y)).toList ++ meetings cs) ∧
      ((candidates cs bounds).map (·.origin)).Nodup ∧
      (MixedDirections cs → ∀ (i : Fin cs.length) axis p, cs[i].boundary.coefficient axis ≠ 0 →
        axis.line.value p = axis.line.c → cs[i].boundary.value p = cs[i].boundary.c →
        ⟨p, .intercept axis (.constraint i)⟩ ∈ candidates cs bounds) ∧
      ∀ i j : Fin cs.length, i < j → ∀ p, cs[i].boundary.intersection? cs[j].boundary ≠ none →
        cs[i].boundary.value p = cs[i].boundary.c → cs[j].boundary.value p = cs[j].boundary.c →
        ⟨p, .intersection i j⟩ ∈ candidates cs bounds :=
  ⟨mixed_candidates cs bounds, shared_candidates cs bounds, candidates_distinct cs bounds,
    crossing_found cs bounds, meeting_found cs bounds⟩

def verticalAndParallels : List (Constraint Rat) :=
  [⟨⟨1, 0, 4⟩, .le⟩, ⟨⟨1, 1, 2⟩, .ge⟩, ⟨⟨2, 2, 10⟩, .le⟩]

theorem crossings_in_order_vertical_and_parallels :
    MixedDirections verticalAndParallels ∧
      candidates verticalAndParallels ⟨10, 10⟩ =
        [⟨⟨4, 0⟩, .intercept .x (.constraint 0)⟩, ⟨⟨2, 0⟩, .intercept .x (.constraint 1)⟩,
          ⟨⟨0, 2⟩, .intercept .y (.constraint 1)⟩, ⟨⟨5, 0⟩, .intercept .x (.constraint 2)⟩,
          ⟨⟨0, 5⟩, .intercept .y (.constraint 2)⟩, ⟨⟨4, -2⟩, .intersection 0 1⟩, ⟨⟨4, 1⟩, .intersection 0 2⟩] := by
  have mixed : MixedDirections verticalAndParallels := by
    constructor <;> decide +kernel
  refine ⟨mixed, ((crossings_in_order verticalAndParallels ⟨10, 10⟩).1 mixed).trans ?_⟩
  decide +kernel

end PlanarLP
