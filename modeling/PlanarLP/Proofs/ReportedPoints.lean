import PlanarLP.Proofs.Consistency
import PlanarLP.Proofs.ReportText
import PlanarLP.Proofs.Tolerance

set_option autoImplicit false

namespace PlanarLP

section Points

theorem point_text_parts (p q : Point Float) :
    Report.pointText p = Report.pointText q ↔
      Report.amountChars p.x = Report.amountChars q.x ∧ Report.amountChars p.y = Report.amountChars q.y := by
  have before : ' ' ∉ Report.amountChars p.x ++ [','] := by simpa using amount_free p.x ' ' (by decide)
  have after : ' ' ∉ Report.amountChars p.y ++ [')'] := by simpa using amount_free p.y ' ' (by decide)
  rw [← String.toList_inj, point_chars, point_chars, List.cons_inj_right,
    List.append_cons_inj_of_notMem before after, List.append_cancel_right_eq, List.append_cancel_right_eq]
  simp

theorem point_text_coincides (p q : Point Float) (first : p.x.isNaN = false ∧ p.y.isNaN = false)
    (second : q.x.isNaN = false ∧ q.y.isNaN = false) :
    Report.pointText p = Report.pointText q ↔ p.coincides q = true := by
  rw [point_text_parts, amount_equal _ _ first.1 second.1, amount_equal _ _ first.2 second.2,
    ← hundredths_equal _ _ first.1 second.1, ← hundredths_equal _ _ first.2 second.2]
  exact Bool.and_eq_true_iff.symm

end Points

section Table

variable (problem : Problem Float) (goal : Goal) (tolerance : Float)

theorem rows_shown :
    Report.rows (Report.lines problem (problem.solve goal tolerance)) =
      (problem.feasibleVertices tolerance).map Report.vertexRow := by
  cases verdict : (problem.solve goal tolerance).status with
  | infeasible =>
      have plain := infeasible_plain problem _ verdict
      rw [(solve_infeasible_iff problem goal tolerance).mp verdict]
      exact between_absent _ _ _ fun member => rule_not_plain (plain _ member)
  | optimal =>
      rw [optimal_lines problem _ verdict]
      refine between_marks _ _ _ _ _ (fun member => rule_not_plain (heading_plain problem _ member)) fun member => ?_
      obtain ⟨v, _, empty⟩ := List.mem_map.mp member
      have start := row_start v
      rw [empty] at start
      exact start.elim nofun nofun

end Table

section Extrema

theorem extremum_line_chars (name : String) (m : Extremum Float) :
    ∃ rest, (Report.extremumLine name m).toList = (name ++ ": ").toList ++ rest := by
  refine ⟨(Report.pointText m.point ++ "  Z = " ++ Report.amount m.value).toList, ?_⟩
  rw [← String.toList_append]
  unfold Report.extremumLine
  simp only [String.append_assoc]

theorem line_of_other (name : String) (named : name = "Maximum" ∨ name = "Minimum") (line : String)
    (start : line.toList.head? ≠ some 'M') : (name ++ ": ").toList.isPrefixOf line.toList = false := by
  refine Bool.eq_false_iff.mpr fun starts => start ?_
  obtain ⟨rest, whole⟩ := List.isPrefixOf_iff_prefix.mp starts
  rw [← whole, List.head?_append]
  rcases named with rfl | rfl <;> rfl

theorem line_of_own (name : String) (m : Extremum Float) :
    (name ++ ": ").toList.isPrefixOf (Report.extremumLine name m).toList = true := by
  obtain ⟨rest, shown⟩ := extremum_line_chars name m
  exact List.isPrefixOf_iff_prefix.mpr ⟨rest, shown.symm⟩

theorem line_of_opposite (m : Extremum Float) :
    ("Maximum" ++ ": ").toList.isPrefixOf (Report.extremumLine "Minimum" m).toList = false ∧
      ("Minimum" ++ ": ").toList.isPrefixOf (Report.extremumLine "Maximum" m).toList = false := by
  obtain ⟨rest, minimum⟩ := extremum_line_chars "Minimum" m
  obtain ⟨more, maximum⟩ := extremum_line_chars "Maximum" m
  rw [minimum, maximum]
  exact ⟨rfl, rfl⟩

theorem lines_of_closing (name : String) (named : name = "Maximum" ∨ name = "Minimum") (problem : Problem Float)
    (solution : Solution Float) (found : solution.status = .optimal) :
    Report.linesOf name (Report.lines problem solution) = Report.linesOf name (Report.closing solution) := by
  have rows : ∀ line ∈ solution.vertices.map Report.vertexRow, line.toList.head? ≠ some 'M' := by
    refine List.forall_mem_map.mpr fun v _ => ?_
    rcases row_start v with start | start <;> rw [start] <;> decide
  have above : ∀ line ∈ Report.heading problem ++ Report.rule :: (solution.vertices.map Report.vertexRow ++ [""]),
      line.toList.head? ≠ some 'M' := by
    refine List.forall_mem_append.mpr ⟨fun line member => (heading_plain problem line member).2, ?_⟩
    refine List.forall_mem_cons.mpr ⟨by rw [rule_start]; decide, ?_⟩
    exact List.forall_mem_append.mpr ⟨rows, by decide⟩
  have split : Report.lines problem solution =
      (Report.heading problem ++ Report.rule :: (solution.vertices.map Report.vertexRow ++ [""])) ++
        Report.closing solution := by
    rw [optimal_lines problem solution found]
    simp only [List.append_assoc, List.cons_append, List.nil_append]
  unfold Report.linesOf
  rw [split, List.filter_append]
  refine (congrArg (· ++ _) (List.filter_eq_nil_iff.mpr fun line member => ?_)).trans (List.nil_append _)
  exact Bool.eq_false_iff.mp (line_of_other name named line (above line member))

theorem lines_of_shown (problem : Problem Float) (solution : Solution Float) (found : solution.status = .optimal) :
    Report.linesOf "Maximum" (Report.lines problem solution) =
        solution.maximum.toList.map (Report.extremumLine "Maximum") ∧
      Report.linesOf "Minimum" (Report.lines problem solution) =
        solution.minimum.toList.map (Report.extremumLine "Minimum") := by
  rw [lines_of_closing _ (.inl rfl) problem solution found, lines_of_closing _ (.inr rfl) problem solution found]
  have own (name : String) (l : List (Extremum Float)) :
      Report.linesOf name (l.map (Report.extremumLine name)) = l.map (Report.extremumLine name) :=
    List.filter_eq_self.mpr (List.forall_mem_map.mpr fun m _ => line_of_own name m)
  have opposite (name other : String) (l : List (Extremum Float))
      (differ : ∀ m, (name ++ ": ").toList.isPrefixOf (Report.extremumLine other m).toList = false) :
      Report.linesOf name (l.map (Report.extremumLine other)) = [] :=
    List.filter_eq_nil_iff.mpr (List.forall_mem_map.mpr fun m _ => Bool.eq_false_iff.mp (differ m))
  have maxima := opposite "Minimum" "Maximum" solution.maximum.toList fun m => (line_of_opposite m).2
  have minima := opposite "Maximum" "Minimum" solution.minimum.toList fun m => (line_of_opposite m).1
  constructor
  · refine (List.filter_append _ _).trans ((congrArg₂ (· ++ ·) (own _ _) minima).trans (List.append_nil _))
  · exact (List.filter_append _ _).trans (congrArg₂ (· ++ ·) maxima (own _ _))

variable (problem : Problem Float) (goal : Goal) (tolerance : Float)

theorem extrema_shown :
    Report.linesOf "Maximum" (Report.lines problem (problem.solve goal tolerance)) =
        (problem.solve goal tolerance).maximum.toList.map (Report.extremumLine "Maximum") ∧
      Report.linesOf "Minimum" (Report.lines problem (problem.solve goal tolerance)) =
        (problem.solve goal tolerance).minimum.toList.map (Report.extremumLine "Minimum") := by
  cases verdict : (problem.solve goal tolerance).status with
  | infeasible =>
      have plain := infeasible_plain problem _ verdict
      have silent (name : String) (named : name = "Maximum" ∨ name = "Minimum") :
          Report.linesOf name (Report.lines problem (problem.solve goal tolerance)) = [] :=
        List.filter_eq_nil_iff.mpr fun line member =>
          Bool.eq_false_iff.mp (line_of_other name named line (plain line member).2)
      have none : (problem.solve goal tolerance).maximum = none ∧ (problem.solve goal tolerance).minimum = none := by
        have empty := (solve_infeasible_iff problem goal tolerance).mp verdict
        simp [Problem.solve, empty, Extremum.maximum?, Extremum.minimum?, Extremum.select?]
      rw [silent _ (.inl rfl), silent _ (.inr rfl), none.1, none.2]
      exact ⟨rfl, rfl⟩
  | optimal => exact lines_of_shown problem _ verdict

theorem coordinates_of_rows :
    (Report.rows (Report.lines problem (problem.solve goal tolerance))).map Report.coordinates =
      (problem.feasibleVertices tolerance).map fun v => Report.pointText v.point := by
  rw [rows_shown, List.map_map]
  exact List.map_congr_left fun v _ => row_coordinates v

theorem coordinates_distinct :
    ((problem.feasibleVertices tolerance).map fun v => Report.pointText v.point).Nodup := by
  refine List.pairwise_map.mpr ((feasible_vertices_apart problem tolerance).imp_of_mem ?_)
  intro v w first second apart same
  have numbers := vertex_number problem tolerance
  have coincide := (point_text_coincides _ _ (numbers v first) (numbers w second)).mp same
  exact Bool.false_ne_true (apart.symm.trans coincide)

theorem extremum_row (better : Float → Float → Bool) (name : String) (free : '(' ∉ name.toList) (m : Extremum Float)
    (selected : Extremum.select? better (problem.feasibleVertices tolerance) = some m) :
    ∃! i : Nat, ((problem.feasibleVertices tolerance).map fun v => Report.pointText v.point)[i]? =
      some (Report.coordinates (Report.extremumLine name m)) := by
  obtain ⟨v, listed, same, _⟩ := selected_refers better _ m selected
  have found : ((problem.feasibleVertices tolerance).map fun v => Report.pointText v.point)[m.index]? =
      some (Report.coordinates (Report.extremumLine name m)) := by
    rw [extremum_coordinates name free, List.getElem?_map, listed, Option.map_some, same]
  refine ⟨m.index, found, fun i other => ?_⟩
  have within := (List.getElem?_eq_some_iff.mp other).1
  exact (List.getElem?_inj within (coordinates_distinct problem tolerance)).mp (other.trans found.symm)

end Extrema

theorem points_told_apart :
    (∀ p q : Point Float, p.x.isNaN = false ∧ p.y.isNaN = false → q.x.isNaN = false ∧ q.y.isNaN = false →
      (Report.pointText p = Report.pointText q ↔ p.coincides q = true)) ∧
    ∀ (problem : Problem Float) (goal : Goal) (tolerance : Float),
      let solution := problem.solve goal tolerance
      let report := Report.linesRead (Report.text problem solution)
      let shown := (Report.rows report).map Report.coordinates
      shown.length = solution.vertices.length ∧ shown.Nodup ∧
        ∀ entry ∈ [("Maximum", solution.maximum), ("Minimum", solution.minimum)],
          Report.linesOf entry.1 report = entry.2.toList.map (Report.extremumLine entry.1) ∧
            ∀ line ∈ Report.linesOf entry.1 report, ∃! i : Nat, shown[i]? = some (Report.coordinates line) := by
  refine ⟨point_text_coincides, fun problem goal tolerance => ?_⟩
  dsimp only
  obtain ⟨maxima, minima⟩ := extrema_shown problem goal tolerance
  rw [text_lines, coordinates_of_rows]
  refine ⟨List.length_map _, coordinates_distinct problem tolerance, List.forall_mem_cons.mpr ⟨⟨maxima, ?_⟩,
    List.forall_mem_singleton.mpr ⟨minima, ?_⟩⟩⟩
  · rw [maxima]
    refine List.forall_mem_map.mpr fun m found => ?_
    have selected := solve_maximum problem goal tolerance m (Option.mem_toList.mp found)
    exact extremum_row problem tolerance _ "Maximum" (by decide) m selected
  · rw [minima]
    refine List.forall_mem_map.mpr fun m found => ?_
    have selected := solve_minimum problem goal tolerance m (Option.mem_toList.mp found)
    exact extremum_row problem tolerance _ "Minimum" (by decide) m selected

def crossingInside : Problem Float where
  first := ⟨⟨2, 1, 300⟩, .le⟩
  second := ⟨⟨1, 2, 300⟩, .le⟩
  objective := ⟨150, 100⟩
  bounds := ⟨300, 300⟩
  valid := by decide +kernel

theorem points_told_apart_crossing_inside :
    let report := Report.linesRead (Report.text crossingInside (crossingInside.solve .both 0))
    Report.pointText ⟨1500.254, -0.004⟩ = Report.pointText ⟨1500.25, 0⟩ ∧
      Report.pointText ⟨1e17, 0⟩ ≠ Report.pointText ⟨1e17 + 16, 0⟩ ∧
      Report.linesOf "Maximum" report = ["Maximum: (100, 100)  Z = 25,000"] ∧
        ∃! i : Nat, ((Report.rows report).map Report.coordinates)[i]? =
          some (Report.coordinates "Maximum: (100, 100)  Z = 25,000") := by
  obtain ⟨texts, reports⟩ := points_told_apart
  have near : (⟨1500.254, -0.004⟩ : Point Float).coincides ⟨1500.25, 0⟩ = true := by decide +kernel
  have far : ¬ (⟨1e17, 0⟩ : Point Float).coincides ⟨1e17 + 16, 0⟩ = true := by decide +kernel
  obtain ⟨_, _, extrema⟩ := reports crossingInside .both 0
  obtain ⟨shown, single⟩ := extrema _ List.mem_cons_self
  have line : Report.linesOf "Maximum" (Report.linesRead (Report.text crossingInside (crossingInside.solve .both 0))) =
      ["Maximum: (100, 100)  Z = 25,000"] := by
    have best : (crossingInside.solve .both 0).maximum = some ⟨2, ⟨100, 100⟩, 25000⟩ := by decide +kernel
    rw [shown, best]
    decide +kernel
  refine ⟨(texts _ _ (by decide +kernel) (by decide +kernel)).mpr near, fun same => far ?_, line, ?_⟩
  · exact (texts _ _ (by decide +kernel) (by decide +kernel)).mp same
  · exact single _ (line ▸ List.mem_singleton.mpr rfl)

end PlanarLP
