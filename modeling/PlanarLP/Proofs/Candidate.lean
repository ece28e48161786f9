import Mathlib.Order.Lattice
import PlanarLP.Candidate

set_option autoImplicit false

namespace PlanarLP

theorem shared_direction {α : Type} (cs : List (Constraint α)) (direction : Direction)
    (shared : sharedDirection? cs = some direction) : ∀ c ∈ cs, c.direction = direction := by
  cases cs with
  | nil => cases shared
  | cons head tail =>
      simp only [sharedDirection?] at shared
      split at shared
      · rename_i agree
        cases shared
        intro c member
        rcases List.mem_cons.mp member with same | later
        · rw [same]
        · simpa using List.all_eq_true.mp agree c later
      · cases shared

section Folding

variable {α β : Type} [LinearOrder β] (keeps : α → α → Bool) (key : α → β)

theorem first_best_step (best entry : α × Limit) (rest : List (α × Limit)) :
    firstBest keeps (best :: entry :: rest) =
      if keeps best.1 entry.1 then firstBest keeps (best :: rest) else firstBest keeps (entry :: rest) := by
  simp only [firstBest, List.foldl_cons]
  split <;> rfl

theorem first_best_mem (best : α × Limit) (rest : List (α × Limit)) :
    ∃ final ∈ best :: rest, firstBest keeps (best :: rest) = some final := by
  induction rest generalizing best with
  | nil => exact ⟨best, List.mem_cons_self, rfl⟩
  | cons entry rest ih =>
      rw [first_best_step]
      split
      · obtain ⟨final, member, result⟩ := ih best
        exact ⟨final, List.cons_subset_cons best (List.subset_cons_self entry rest) member, result⟩
      · obtain ⟨final, member, result⟩ := ih entry
        exact ⟨final, List.mem_cons_of_mem best member, result⟩

theorem first_best_source (entries : List (α × Limit)) (final : α × Limit)
    (result : firstBest keeps entries = some final) : final ∈ entries := by
  cases entries with
  | nil => cases result
  | cons best rest =>
      obtain ⟨other, member, same⟩ := first_best_mem keeps best rest
      exact Option.some.inj (same.symm.trans result) ▸ member

-- The order has to follow the key only on the values that occur.
theorem first_best_split (best : α × Limit) (rest : List (α × Limit))
    (agrees : ∀ a ∈ best :: rest, ∀ b ∈ best :: rest, keeps a.1 b.1 = true ↔ key a.1 ≤ key b.1) :
    ∃ before final after, best :: rest = before ++ final :: after ∧ firstBest keeps (best :: rest) = some final ∧
      (∀ entry ∈ before, key final.1 < key entry.1) ∧ ∀ entry ∈ after, key final.1 ≤ key entry.1 := by
  induction rest generalizing best with
  | nil => exact ⟨[], best, [], rfl, rfl, nofun, nofun⟩
  | cons entry rest ih =>
      have order := agrees best (by simp) entry (by simp)
      have kept : best :: rest ⊆ best :: entry :: rest := List.cons_subset_cons best (List.subset_cons_self entry rest)
      have later : entry :: rest ⊆ best :: entry :: rest := List.subset_cons_self best _
      rw [first_best_step]
      by_cases stays : keeps best.1 entry.1 = true
      · obtain ⟨before, final, after, split, result, beaten, stands⟩ :=
          ih best fun a first b second => agrees a (kept first) b (kept second)
        rw [if_pos stays]
        cases before with
        | nil =>
            -- the first entry is the final one, and the next one does not better it
            obtain ⟨rfl, rfl⟩ := List.cons.inj split
            exact ⟨[], best, entry :: rest, rfl, result, nofun, List.forall_mem_cons.mpr ⟨order.mp stays, stands⟩⟩
        | cons head before =>
            obtain ⟨rfl, rfl⟩ := List.cons.inj split
            obtain ⟨first, others⟩ := List.forall_mem_cons.mp beaten
            refine ⟨best :: entry :: before, final, after, rfl, result, ?_, stands⟩
            exact List.forall_mem_cons.mpr
              ⟨first, List.forall_mem_cons.mpr ⟨first.trans_le (order.mp stays), others⟩⟩
      · obtain ⟨before, final, after, split, result, beaten, stands⟩ :=
          ih entry fun a first b second => agrees a (later first) b (later second)
        have replaced : key entry.1 < key best.1 := not_le.mp fun below => stays (order.mpr below)
        have top : key final.1 ≤ key entry.1 := by
          cases before with
          | nil => rw [(List.cons.inj split).1]
          | cons head before => exact (List.cons.inj split).1 ▸ (beaten head List.mem_cons_self).le
        rw [if_neg stays]
        refine ⟨best :: before, final, after, congrArg (best :: ·) split, result, ?_, stands⟩
        exact List.forall_mem_cons.mpr ⟨top.trans_lt replaced, beaten⟩

theorem first_best_exists (entries : List (α × Limit)) (nonempty : entries ≠ [])
    (agrees : ∀ a ∈ entries, ∀ b ∈ entries, keeps a.1 b.1 = true ↔ key a.1 ≤ key b.1) :
    ∃ final, firstBest keeps entries = some final ∧ final ∈ entries ∧
      ∀ entry ∈ entries, key final.1 ≤ key entry.1 := by
  obtain ⟨best, rest, rfl⟩ := List.exists_cons_of_ne_nil nonempty
  obtain ⟨before, final, after, split, result, beaten, stands⟩ := first_best_split keeps key best rest agrees
  refine ⟨final, result, first_best_source keeps _ final result, ?_⟩
  rw [split, List.forall_mem_append, List.forall_mem_cons]
  exact ⟨fun entry member => (beaten entry member).le, le_rfl, stands⟩

theorem first_best_leads (entries : List (α × Limit))
    (agrees : ∀ a ∈ entries, ∀ b ∈ entries, keeps a.1 b.1 = true ↔ key a.1 ≤ key b.1)
    (sequence : α × Limit → α × Limit → Prop) (ordered : entries.Pairwise sequence) (final : α × Limit)
    (result : firstBest keeps entries = some final) (entry : α × Limit) (member : entry ∈ entries)
    (ties : key entry.1 = key final.1) : entry = final ∨ sequence final entry := by
  obtain ⟨best, rest, rfl⟩ := List.exists_cons_of_ne_nil (List.ne_nil_of_mem member)
  obtain ⟨before, found, after, split, same, beaten, _⟩ := first_best_split keeps key best rest agrees
  obtain rfl := Option.some.inj (same.symm.trans result)
  rw [split] at member ordered
  rcases List.mem_append.mp member with earlier | later
  · exact absurd ties (beaten entry earlier).ne'
  · exact (List.mem_cons.mp later).imp_right (List.rel_of_pairwise_cons (List.pairwise_append.mp ordered).2.1)

theorem first_best_same (entries others : List (α × Limit))
    (values : ∀ v, v ∈ entries.map Prod.fst ↔ v ∈ others.map Prod.fst)
    (agrees : ∀ a ∈ entries.map Prod.fst, ∀ b ∈ entries.map Prod.fst, keeps a b = true ↔ key a ≤ key b) :
    Option.Rel (fun a b => (a ∈ entries ∧ b ∈ others) ∧ key a.1 = key b.1) (firstBest keeps entries)
      (firstBest keeps others) := by
  by_cases empty : entries = []
  · have also : others = [] := by simpa [empty, List.eq_nil_iff_forall_not_mem] using values
    rw [empty, also]
    exact .none
  · have nonempty : others ≠ [] := by
      obtain ⟨e, rest, rfl⟩ := List.exists_cons_of_ne_nil empty
      exact fun none => by simpa [none] using (values e.1).mp (by simp)
    have listed (e : α × Limit) (member : e ∈ others) : e.1 ∈ entries.map Prod.fst :=
      (values e.1).mpr (List.mem_map_of_mem member)
    obtain ⟨a, first, present, least⟩ := first_best_exists keeps key entries empty fun a left b right =>
      agrees a.1 (List.mem_map_of_mem left) b.1 (List.mem_map_of_mem right)
    obtain ⟨b, second, found, lowest⟩ := first_best_exists keeps key others nonempty fun a left b right =>
      agrees a.1 (listed a left) b.1 (listed b right)
    obtain ⟨a', held, sameA⟩ := List.mem_map.mp ((values a.1).mp (List.mem_map_of_mem present))
    obtain ⟨b', kept, sameB⟩ := List.mem_map.mp (listed b found)
    rw [first, second]
    exact .some ⟨⟨present, found⟩, le_antisymm (sameB ▸ least b' kept) (sameA ▸ lowest a' held)⟩

end Folding

section Listing

variable {α : Type} [Scalar α] (cs : List (Constraint α)) (bounds : Bounds α)

theorem axis_crossing_iff (axis : Axis) (entry : α × Limit) :
    entry ∈ axisCrossings cs axis ↔
      ∃ i c, cs[i]? = some c ∧ ¬ c.boundary.coefficient axis ≤ 0 ∧ c.boundary.intercept? axis = some entry.1 ∧
        entry.2 = .constraint i := by
  unfold axisCrossings
  rw [List.mem_filterMap]
  constructor
  · rintro ⟨⟨c, i⟩, listed, found⟩
    by_cases skipped : c.boundary.coefficient axis ≤ 0
    · simp [skipped] at found
    · obtain ⟨v, crosses, same⟩ := Option.map_eq_some_iff.mp ((if_neg skipped).symm.trans found)
      subst same
      exact ⟨i, c, List.mk_mem_zipIdx_iff_getElem?.mp listed, skipped, crosses, rfl⟩
  · obtain ⟨v, limit⟩ := entry
    rintro ⟨i, c, listed, limits, crosses, rfl⟩
    refine ⟨(c, i), List.mk_mem_zipIdx_iff_getElem?.mpr listed, (if_neg limits).trans ?_⟩
    simp only [crosses, Option.map_some]

theorem axis_crossing_value (axis : Axis) (v : α) :
    v ∈ (axisCrossings cs axis).map Prod.fst ↔
      ∃ c ∈ cs, ¬ c.boundary.coefficient axis ≤ 0 ∧ c.boundary.intercept? axis = some v := by
  rw [List.mem_map]
  constructor
  · rintro ⟨entry, member, rfl⟩
    obtain ⟨i, c, found, limits, crosses, _⟩ := (axis_crossing_iff cs axis entry).mp member
    exact ⟨c, List.mem_of_getElem? found, limits, crosses⟩
  · rintro ⟨c, member, limits, crosses⟩
    obtain ⟨i, found⟩ := List.mem_iff_getElem?.mp member
    exact ⟨(v, .constraint i), (axis_crossing_iff cs axis _).mpr ⟨i, c, found, limits, crosses, rfl⟩, rfl⟩

theorem tightest_source (direction : Direction) (axis : Axis) (entry : α × Limit)
    (tightest : tightest? cs bounds direction axis = some entry) :
    entry ∈ axisCrossings cs axis ∨ direction = .le ∧ entry = (bounds.top axis, .bound) := by
  unfold tightest? at tightest
  cases direction with
  | le =>
      exact (List.mem_append.mp (first_best_source _ _ entry tightest)).imp_right fun edge =>
        ⟨rfl, List.mem_singleton.mp edge⟩
  | ge => exact .inl (first_best_source _ _ entry tightest)

def AxisEntry (axis : Axis) (entry : α × Limit) : Prop :=
  match sharedDirection? cs with
  | some direction => tightest? cs bounds direction axis = some entry
  | none => ∃ i c, cs[i]? = some c ∧ c.boundary.intercept? axis = some entry.1 ∧ entry.2 = .constraint i

theorem axis_candidate_iff (candidate : Candidate α) :
    candidate ∈ axisCandidates cs bounds ↔ ∃ axis entry, AxisEntry cs bounds axis entry ∧
      candidate = ⟨.onAxis axis entry.1, .intercept axis entry.2⟩ := by
  have either (axis : Axis) : axis ∈ [Axis.x, Axis.y] := by cases axis <;> simp
  unfold axisCandidates AxisEntry
  cases sharedDirection? cs with
  | some direction =>
      simp only [List.mem_filterMap, Option.map_eq_some_iff]
      constructor
      · rintro ⟨axis, _, entry, tightest, same⟩
        exact ⟨axis, entry, tightest, same.symm⟩
      · rintro ⟨axis, entry, tightest, same⟩
        exact ⟨axis, either axis, entry, tightest, same.symm⟩
  | none =>
      simp only [List.mem_flatMap, List.mem_filterMap, Option.map_eq_some_iff]
      constructor
      · rintro ⟨⟨c, i⟩, listed, axis, _, v, crosses, same⟩
        exact ⟨axis, (v, .constraint i), ⟨i, c, List.mk_mem_zipIdx_iff_getElem?.mp listed, crosses, rfl⟩, same.symm⟩
      · rintro ⟨axis, ⟨v, limit⟩, ⟨i, c, listed, crosses, rfl⟩, same⟩
        exact ⟨(c, i), List.mk_mem_zipIdx_iff_getElem?.mpr listed, axis, either axis, v, crosses, same.symm⟩

theorem pairs_sublist {β : Type} (l : List β) (a b : β) : (a, b) ∈ pairs l ↔ [a, b].Sublist l := by
  induction l with
  | nil => simp [pairs]
  | cons head rest ih =>
      simp only [pairs, List.mem_append, List.mem_map, Prod.mk.injEq, List.sublist_cons_iff, List.cons.injEq, ih]
      constructor
      · rintro (⟨c, member, rfl, rfl⟩ | later)
        · exact .inr ⟨[c], ⟨rfl, rfl⟩, List.singleton_sublist.mpr member⟩
        · exact .inl later
      · rintro (later | ⟨_, ⟨rfl, rfl⟩, single⟩)
        · exact .inr later
        · exact .inl ⟨b, List.singleton_sublist.mp single, rfl, rfl⟩

theorem intersection_point_iff (p : Point α) :
    (∃ k ∈ intersections cs, k.point = p) ↔
      ∃ c d, [c, d].Sublist cs ∧ c.boundary.intersection? d.boundary = some p := by
  constructor
  · rintro ⟨k, listed, rfl⟩
    obtain ⟨⟨⟨c, i⟩, d, j⟩, paired, crosses⟩ := List.mem_filterMap.mp listed
    obtain ⟨p, found, rfl⟩ := Option.map_eq_some_iff.mp crosses
    have chosen := ((pairs_sublist _ _ _).mp paired).map Prod.fst
    rw [List.zipIdx_map_fst] at chosen
    exact ⟨c, d, chosen, found⟩
  · rintro ⟨c, d, chosen, crosses⟩
    rw [← List.zipIdx_map_fst 0 cs, List.sublist_map_iff] at chosen
    obtain ⟨numbered, listed, same⟩ := chosen
    obtain ⟨⟨_, i⟩, rest, rfl, rfl, tail⟩ := List.map_eq_cons_iff.mp same.symm
    obtain ⟨⟨_, j⟩, _, rfl, rfl, last⟩ := List.map_eq_cons_iff.mp tail
    rw [List.map_eq_nil_iff.mp last] at listed
    have source : (⟨p, .intersection i j⟩ : Candidate α) ∈ intersections cs :=
      List.mem_filterMap.mpr ⟨_, (pairs_sublist _ _ _).mpr listed, congrArg (Option.map _) crosses⟩
    exact ⟨_, source, rfl⟩

theorem intersections_pair (first second : Constraint α) :
    intersections [first, second] =
      ((first.boundary.intersection? second.boundary).map (⟨·, .intersection 0 1⟩)).toList := by
  cases crossing : first.boundary.intersection? second.boundary <;> simp [intersections, pairs, crossing]

theorem candidate_iff (problem : Problem α) (candidate : Candidate α) :
    candidate ∈ candidates problem.constraints problem.bounds ↔
      (∃ axis entry, AxisEntry problem.constraints problem.bounds axis entry ∧
        candidate = ⟨.onAxis axis entry.1, .intercept axis entry.2⟩) ∨
      ∃ p, problem.first.boundary.intersection? problem.second.boundary = some p ∧
        candidate = ⟨p, .intersection 0 1⟩ := by
  unfold candidates
  rw [List.mem_append, axis_candidate_iff, Problem.constraints, intersections_pair, Option.mem_toList,
    Option.map_eq_some_iff]
  exact or_congr_right (exists_congr fun _ => and_congr_right fun _ => eq_comm)

end Listing

end PlanarLP
