import Mathlib.Data.List.TakeWhile
import PlanarLP.Proofs.AmountText
import PlanarLP.Proofs.TextParts
import PlanarLP.Report.Text

set_option autoImplicit false

namespace PlanarLP

namespace Report

def linesRead (text : String) : List String := (Text.split '\n' text.toList).dropLast.map String.ofList

def between {β : Type} [BEq β] (a b : β) (l : List β) : List β :=
  ((l.dropWhile (· != a)).drop 1).takeWhile (· != b)

def coordinates (line : String) : String := "(" ++ String.ofList (between '(' ')' line.toList) ++ ")"

def rule : String := String.ofList (List.replicate 87 '-')

def rows (report : List String) : List String := between rule "" report

def linesOf (name : String) (report : List String) : List String :=
  report.filter fun line => (name ++ ": ").toList.isPrefixOf line.toList

end Report

theorem between_marks {β : Type} [BEq β] [LawfulBEq β] (a b : β) (before inside after : List β) (free : a ∉ before)
    (closed : b ∉ inside) : Report.between a b (before ++ a :: (inside ++ b :: after)) = inside := by
  have skipped : ∀ c ∈ before, (c != a) = true := fun c member => bne_iff_ne.mpr fun same => free (same ▸ member)
  have kept : ∀ c ∈ inside, (c != b) = true := fun c member => bne_iff_ne.mpr fun same => closed (same ▸ member)
  unfold Report.between
  rw [List.dropWhile_append_of_pos skipped, List.dropWhile_cons_of_neg (by simp), List.drop_one, List.tail_cons,
    List.takeWhile_append_of_pos kept, List.takeWhile_cons_of_neg (by simp), List.append_nil]

theorem between_absent {β : Type} [BEq β] [LawfulBEq β] (a b : β) (l : List β) (absent : a ∉ l) :
    Report.between a b l = [] := by
  have skipped : ∀ c ∈ l, (c != a) = true := fun c member => bne_iff_ne.mpr fun same => absent (same ▸ member)
  unfold Report.between
  rw [List.dropWhile_eq_nil_iff.mpr skipped]
  rfl

section Characters

def Report.Letter (c : Char) : Prop := c.isDigit = true ∨ c ∈ "-,.infNaN".toList

instance (c : Char) : Decidable (Report.Letter c) := inferInstanceAs (Decidable (_ ∨ _))

theorem amount_letters (x : Float) : ∀ c ∈ Report.amountChars x, Report.Letter c := by
  unfold Report.amountChars
  refine List.forall_mem_append.mpr ⟨fun c member => ?_, fun c member => ?_⟩
  · split at member
    · rw [List.mem_singleton.mp member]
      exact .inr (by decide)
    · exact absurd member List.not_mem_nil
  · split at member
    · rcases hundredths_text_letters _ c member with digit | rfl | rfl
      · exact .inl digit
      · exact .inr (by decide)
      · exact .inr (by decide)
    · have infinite : "inf".toList ⊆ "-,.infNaN".toList := by decide
      exact .inr (infinite member)
    · have missing : "NaN".toList ⊆ "-,.infNaN".toList := by decide
      exact .inr (missing member)

theorem amount_free (x : Float) (c : Char) (other : ¬ Report.Letter c) : c ∉ Report.amountChars x :=
  fun member => other (amount_letters x c member)

theorem point_chars (p : Point Float) :
    (Report.pointText p).toList =
      '(' :: ((Report.amountChars p.x ++ [',']) ++ ' ' :: (Report.amountChars p.y ++ [')'])) := by
  simp [Report.pointText, Report.amount]

theorem free_append (c : Char) (s t : String) (first : c ∉ s.toList) (second : c ∉ t.toList) : c ∉ (s ++ t).toList := by
  rw [String.toList_append]
  exact List.not_mem_append first second

-- The marks that are looked for: what opens a point and what closes a line.
def Report.Mark (c : Char) : Prop := c = '(' ∨ c = '\n'

variable (c : Char) (mark : Report.Mark c)

include mark

theorem amount_mark_free (x : Float) : c ∉ (Report.amount x).toList := by
  unfold Report.amount
  rw [String.toList_ofList]
  rcases mark with rfl | rfl <;> exact amount_free x _ (by decide)

theorem spaces_free (n : Nat) : c ∉ (String.ofList (List.replicate n ' ')).toList := by
  rw [String.toList_ofList]
  intro member
  have space := List.eq_of_mem_replicate member
  rcases mark with rfl | rfl <;> cases space

theorem padded_free (width : Nat) (s : String) (free : c ∉ s.toList) :
    c ∉ (Report.padRight width s).toList ∧ c ∉ (Report.padLeft width s).toList :=
  ⟨free_append c _ _ free (spaces_free c mark _), free_append c _ _ (spaces_free c mark _) free⟩

theorem number_free (n : Nat) : c ∉ (toString n).toList := by
  have shown : (toString n).toList = Decimal.numeral n := Nat.toList_repr
  rw [shown]
  intro member
  have digit := numeral_digits n c member
  rcases mark with rfl | rfl <;> cases digit

theorem position_free (index : Nat) : c ∉ (positionLabel index).toList := by
  refine free_append c _ _ ?_ (number_free c mark _)
  rcases mark with rfl | rfl <;> decide

theorem label_free (origin : Origin) : c ∉ origin.label.toList := by
  have words : c ∉ "plot bound".toList ∧ c ∉ " x-axis intercept".toList ∧ c ∉ " y-axis intercept".toList ∧
      c ∉ " / ".toList ∧ c ∉ " intersection".toList := by
    rcases mark with rfl | rfl <;> decide
  obtain ⟨bound, onX, onY, slash, crossing⟩ := words
  cases origin with
  | intersection i j =>
      have pair := free_append c _ _ (position_free c mark i) slash
      exact free_append c _ _ (free_append c _ _ pair (position_free c mark j)) crossing
  | intercept axis limit =>
      have limiting : c ∉ limit.label.toList := by
        cases limit with
        | constraint index => exact position_free c mark index
        | bound => exact bound
      cases axis with
      | x => exact free_append c _ _ limiting onX
      | y => exact free_append c _ _ limiting onY

end Characters

section Coordinates

theorem coordinates_shown (before after : String) (p : Point Float) (free : '(' ∉ before.toList) :
    Report.coordinates (before ++ Report.pointText p ++ after) = Report.pointText p := by
  have closed : ')' ∉ (Report.amountChars p.x ++ [',']) ++ ' ' :: Report.amountChars p.y := by
    simp [amount_free _ ')' (by decide)]
  have line : (before ++ Report.pointText p ++ after).toList = before.toList ++
      '(' :: (((Report.amountChars p.x ++ [',']) ++ ' ' :: Report.amountChars p.y) ++ ')' :: after.toList) := by
    rw [String.toList_append, String.toList_append, point_chars]
    simp
  unfold Report.coordinates
  rw [line, between_marks _ _ _ _ _ free closed, ← String.toList_inj, point_chars]
  simp

theorem row_coordinates (v : Vertex Float) : Report.coordinates (Report.vertexRow v) = Report.pointText v.point := by
  have place := (padded_free '(' (.inl rfl) 45 _ (label_free '(' (.inl rfl) v.origin)).1
  have shown := coordinates_shown (Report.padRight 45 v.origin.label ++ " ")
    (String.ofList (List.replicate (25 - (Report.pointText v.point).length) ' ') ++ " " ++
      Report.padLeft 15 (Report.amount v.value)) v.point (free_append '(' _ _ place (by decide))
  unfold Report.vertexRow Report.tableRow
  simpa only [Report.padRight, String.append_assoc] using shown

theorem extremum_coordinates (name : String) (free : '(' ∉ name.toList) (m : Extremum Float) :
    Report.coordinates (Report.extremumLine name m) = Report.pointText m.point := by
  have shown := coordinates_shown (name ++ ": ") ("  Z = " ++ Report.amount m.value) m.point
    (free_append '(' _ _ free (by decide))
  unfold Report.extremumLine
  simpa only [String.append_assoc] using shown

end Coordinates

section Lines

theorem start_append (s t : String) (c : Char) (start : s.toList.head? = some c) :
    (s ++ t).toList.head? = some c := by
  rw [String.toList_append, List.head?_append, start, Option.some_or]

theorem constraint_line_start (number : Nat) (c : Constraint Float) :
    (Report.constraintLine number c).toList.head? = some 'C' := by
  unfold Report.constraintLine
  simp only [String.append_assoc]
  exact start_append _ _ 'C' (by decide)

theorem objective_line_start (o : Objective Float) : (Report.objectiveLine o).toList.head? = some 'O' := by
  unfold Report.objectiveLine
  simp only [String.append_assoc]
  exact start_append _ _ 'O' (by decide)

theorem label_start (origin : Origin) :
    origin.label.toList.head? = some 'c' ∨ origin.label.toList.head? = some 'p' := by
  have position (index : Nat) : (positionLabel index).toList.head? = some 'c' := start_append _ _ 'c' (by decide)
  have bounded (limit : Limit) (t : String) :
      (limit.label ++ t).toList.head? = some 'c' ∨ (limit.label ++ t).toList.head? = some 'p' := by
    cases limit with
    | constraint index => exact .inl (start_append _ t 'c' (position index))
    | bound => exact .inr (start_append _ t 'p' (by decide))
  cases origin with
  | intersection i j =>
      simp only [Origin.label, String.append_assoc]
      exact .inl (start_append _ _ 'c' (position i))
  | intercept axis limit => cases axis <;> exact bounded limit _

theorem row_start (v : Vertex Float) :
    (Report.vertexRow v).toList.head? = some 'c' ∨ (Report.vertexRow v).toList.head? = some 'p' := by
  simp only [Report.vertexRow, Report.tableRow, Report.padRight, String.append_assoc]
  exact (label_start v.origin).imp (start_append _ _ 'c') (start_append _ _ 'p')

theorem problem_line_start (problem : Problem Float) (line : String) (member : line ∈ Report.problemLines problem) :
    line.toList.head? = some 'C' ∨ line.toList.head? = some 'O' ∨ line.toList.head? = none := by
  rcases List.mem_append.mp member with constraint | other
  · obtain ⟨⟨c, number⟩, _, rfl⟩ := List.mem_map.mp constraint
    exact .inl (constraint_line_start number c)
  · rcases List.mem_pair.mp other with rfl | rfl
    · exact .inr (.inl (objective_line_start _))
    · exact .inr (.inr rfl)

theorem rule_start : Report.rule.toList.head? = some '-' := by
  unfold Report.rule
  rw [String.toList_ofList]
  rfl

def Report.heading (problem : Problem Float) : List String :=
  problemLines problem ++ ["Status: OPTIMAL", "", tableRow "Vertex" "Coordinates" "Z"]

def Report.closing (solution : Solution Float) : List String :=
  solution.maximum.toList.map (extremumLine "Maximum") ++ solution.minimum.toList.map (extremumLine "Minimum")

def Report.Plain (line : String) : Prop := line.toList.head? ≠ some '-' ∧ line.toList.head? ≠ some 'M'

instance (line : String) : Decidable (Report.Plain line) := inferInstanceAs (Decidable (_ ∧ _))

theorem problem_lines_plain (problem : Problem Float) (line : String) (member : line ∈ Report.problemLines problem) :
    Report.Plain line := by
  rcases problem_line_start problem line member with start | start | start
  · exact ⟨by simp [start], by simp [start]⟩
  · exact ⟨by simp [start], by simp [start]⟩
  · exact ⟨by simp [start], by simp [start]⟩

theorem heading_plain (problem : Problem Float) : ∀ line ∈ Report.heading problem, Report.Plain line :=
  List.forall_mem_append.mpr ⟨problem_lines_plain problem, by decide +kernel⟩

theorem optimal_lines (problem : Problem Float) (solution : Solution Float) (found : solution.status = .optimal) :
    Report.lines problem solution = Report.heading problem ++ Report.rule ::
      (solution.vertices.map Report.vertexRow ++ "" :: Report.closing solution) := by
  unfold Report.lines Report.solutionLines Report.heading Report.closing Report.vertexTable Report.rule
  rw [found]
  simp only [List.append_assoc, List.cons_append, List.nil_append]

theorem infeasible_plain (problem : Problem Float) (solution : Solution Float)
    (empty : solution.status = .infeasible) : ∀ line ∈ Report.lines problem solution, Report.Plain line := by
  have verdict : ∀ line ∈ ["Status: INFEASIBLE", "No point satisfies all constraints."], Report.Plain line := by
    decide +kernel
  unfold Report.lines Report.solutionLines
  rw [empty]
  exact List.forall_mem_append.mpr ⟨problem_lines_plain problem, verdict⟩

theorem rule_not_plain : ¬ Report.Plain Report.rule := fun plain => plain.1 rule_start

end Lines

section Printing

theorem point_free (p : Point Float) : '\n' ∉ (Report.pointText p).toList := by
  rw [point_chars]
  simp [amount_free _ '\n' (by decide)]

theorem row_free (place coordinates value : String) (first : '\n' ∉ place.toList) (second : '\n' ∉ coordinates.toList)
    (third : '\n' ∉ value.toList) : '\n' ∉ (Report.tableRow place coordinates value).toList := by
  have space : '\n' ∉ " ".toList := by decide
  have left := free_append _ _ _ (padded_free '\n' (.inr rfl) 45 place first).1 space
  have middle := free_append _ _ _ (padded_free '\n' (.inr rfl) 25 coordinates second).1 space
  have whole := free_append _ _ _ (free_append _ _ _ left middle) (padded_free '\n' (.inr rfl) 15 value third).2
  simpa only [Report.tableRow, String.append_assoc] using whole

theorem amount_word_free (s : String) (x : Float) (word : String) (start : '\n' ∉ s.toList)
    (plain : '\n' ∉ word.toList) : '\n' ∉ (s ++ Report.amount x ++ word).toList :=
  free_append _ _ _ (free_append _ _ _ start (amount_mark_free '\n' (.inr rfl) x)) plain

theorem constraint_line_free (number : Nat) (c : Constraint Float) :
    '\n' ∉ (Report.constraintLine number c).toList := by
  have symbol : '\n' ∉ c.direction.symbol.toList := by cases c.direction <;> decide
  have counted := free_append _ "Constraint " _ (by decide) (number_free '\n' (.inr rfl) number)
  have start := free_append _ _ ": " counted (by decide)
  have first := amount_word_free _ c.boundary.a "x + " start (by decide)
  have second := amount_word_free _ c.boundary.b "y " first (by decide)
  have related := free_append _ _ " " (free_append _ _ _ second symbol) (by decide)
  exact free_append _ _ _ related (amount_mark_free '\n' (.inr rfl) c.boundary.c)

theorem objective_line_free (o : Objective Float) : '\n' ∉ (Report.objectiveLine o).toList :=
  amount_word_free _ o.h "y" (amount_word_free _ o.g "x + " (by decide) (by decide)) (by decide)

theorem extremum_line_free (name : String) (plain : '\n' ∉ name.toList) (m : Extremum Float) :
    '\n' ∉ (Report.extremumLine name m).toList := by
  have shown := free_append _ _ _ (free_append _ _ ": " plain (by decide)) (point_free m.point)
  exact free_append _ _ _ (free_append _ _ "  Z = " shown (by decide)) (amount_mark_free '\n' (.inr rfl) m.value)

theorem vertex_row_free (v : Vertex Float) : '\n' ∉ (Report.vertexRow v).toList :=
  row_free _ _ _ (label_free '\n' (.inr rfl) v.origin) (point_free v.point) (amount_mark_free '\n' (.inr rfl) v.value)

theorem problem_lines_free (problem : Problem Float) : ∀ line ∈ Report.problemLines problem, '\n' ∉ line.toList := by
  refine List.forall_mem_append.mpr ⟨List.forall_mem_map.mpr fun entry _ => constraint_line_free entry.2 entry.1, ?_⟩
  exact List.forall_mem_cons.mpr ⟨objective_line_free _, by decide⟩

theorem rule_free : '\n' ∉ Report.rule.toList := by
  unfold Report.rule
  rw [String.toList_ofList]
  exact fun member => absurd (List.eq_of_mem_replicate member) (by decide)

theorem heading_free (problem : Problem Float) : ∀ line ∈ Report.heading problem, '\n' ∉ line.toList := by
  have columns := row_free "Vertex" "Coordinates" "Z" (by decide) (by decide) (by decide)
  refine List.forall_mem_append.mpr ⟨problem_lines_free problem, List.forall_mem_cons.mpr ⟨by decide, ?_⟩⟩
  exact List.forall_mem_cons.mpr ⟨by decide, List.forall_mem_singleton.mpr columns⟩

theorem closing_free (solution : Solution Float) : ∀ line ∈ Report.closing solution, '\n' ∉ line.toList :=
  List.forall_mem_append.mpr ⟨List.forall_mem_map.mpr fun m _ => extremum_line_free _ (by decide) m,
    List.forall_mem_map.mpr fun m _ => extremum_line_free _ (by decide) m⟩

theorem report_lines_free (problem : Problem Float) (solution : Solution Float) :
    ∀ line ∈ Report.lines problem solution, '\n' ∉ line.toList := by
  cases verdict : solution.status with
  | infeasible =>
      have words : ∀ line ∈ ["Status: INFEASIBLE", "No point satisfies all constraints."], '\n' ∉ line.toList := by
        exact List.forall_mem_cons.mpr ⟨by decide, List.forall_mem_singleton.mpr (by decide)⟩
      unfold Report.lines Report.solutionLines
      rw [verdict]
      exact List.forall_mem_append.mpr ⟨problem_lines_free problem, words⟩
  | optimal =>
      rw [optimal_lines problem solution verdict]
      refine List.forall_mem_append.mpr ⟨heading_free problem, List.forall_mem_cons.mpr ⟨rule_free, ?_⟩⟩
      refine List.forall_mem_append.mpr ⟨List.forall_mem_map.mpr fun v _ => vertex_row_free v, ?_⟩
      exact List.forall_mem_cons.mpr ⟨by decide, closing_free solution⟩

theorem lines_read (lines : List String) (free : ∀ line ∈ lines, '\n' ∉ line.toList) :
    Report.linesRead (String.join (lines.map (· ++ "\n"))) = lines := by
  have parts : Text.split '\n' (lines.flatMap fun line => line.toList ++ ['\n']) = lines.map String.toList ++ [[]] := by
    induction lines with
    | nil => rfl
    | cons line rest ih =>
        obtain ⟨first, later⟩ := List.forall_mem_cons.mp free
        rw [List.flatMap_cons, List.append_assoc, List.singleton_append, split_append _ _ _ first, ih later]
        rfl
  have chars : (String.join (lines.map (· ++ "\n"))).toList = lines.flatMap fun line => line.toList ++ ['\n'] := by
    rw [String.toList_join, List.flatMap_map]
    simp only [String.toList_append]
    rfl
  unfold Report.linesRead
  rw [chars, parts, List.dropLast_concat, List.map_map]
  simp

theorem text_lines (problem : Problem Float) (solution : Solution Float) :
    Report.linesRead (Report.text problem solution) = Report.lines problem solution :=
  lines_read _ (report_lines_free problem solution)

end Printing

end PlanarLP
