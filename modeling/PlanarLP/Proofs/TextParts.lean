import PlanarLP.Coefficients

set_option autoImplicit false

namespace PlanarLP

namespace Text

structure FieldsOf (separator : Char) (text : List Char) (fields : List (List Char)) : Prop where
  nonempty : fields ≠ []
  free : ∀ field ∈ fields, separator ∉ field
  joined : [separator].intercalate fields = text

def Padded (shown field : List Char) : Prop :=
  ∃ before after, field = before ++ shown ++ after ∧ (∀ c ∈ before, isBlank c = true) ∧
    ∀ c ∈ after, isBlank c = true

def Tight (shown : List Char) : Prop :=
  (∀ c ∈ shown.head?, isBlank c = false) ∧ ∀ c ∈ shown.getLast?, isBlank c = false

end Text

open Text (FieldsOf Padded Tight isBlank)

section Splitting

variable (separator : Char) (text : List Char)

theorem split_on : Text.split separator text = text.splitOn separator := by
  induction text with
  | nil => rfl
  | cons c rest ih =>
      rw [Text.split, ih, List.splitOn_cons_eq_if_modifyHead]
      by_cases same : c = separator
      · simp [same]
      · obtain ⟨part, parts, shown⟩ := List.exists_cons_of_ne_nil (List.splitOn_ne_nil separator rest)
        simp [same, shown]

theorem split_free : ∀ field ∈ Text.split separator text, separator ∉ field := by
  induction text with
  | nil => exact List.forall_mem_singleton.mpr List.not_mem_nil
  | cons c rest ih =>
      rw [Text.split]
      split
      · exact List.forall_mem_cons.mpr ⟨List.not_mem_nil, ih⟩
      · rename_i other
        split
        · exact List.forall_mem_singleton.mpr (List.not_mem_cons_of_ne_of_not_mem (Ne.symm other) List.not_mem_nil)
        · rename_i part parts shown
          rw [shown, List.forall_mem_cons] at ih
          exact List.forall_mem_cons.mpr ⟨List.not_mem_cons_of_ne_of_not_mem (Ne.symm other) ih.1, ih.2⟩

theorem split_append (field rest : List Char) (free : separator ∉ field) :
    Text.split separator (field ++ separator :: rest) = field :: Text.split separator rest := by
  rw [split_on, split_on, List.splitOn_append_cons_self_of_not_mem free]

theorem fields_iff (fields : List (List Char)) :
    FieldsOf separator text fields ↔ fields = Text.split separator text := by
  constructor
  · rintro ⟨nonempty, free, rfl⟩
    rw [split_on, List.splitOn_intercalate separator free nonempty]
  · rintro rfl
    refine ⟨?_, split_free separator text, ?_⟩
    · rw [split_on]
      exact List.splitOn_ne_nil separator text
    · rw [split_on]
      exact List.intercalate_splitOn separator

end Splitting

section Trimming

variable (shown field : List Char)

theorem solid_front (solid : ∀ c ∈ shown.head?, isBlank c = false) : shown.dropWhile isBlank = shown := by
  cases shown with
  | nil => rfl
  | cons c rest => exact List.dropWhile_cons_of_neg (by simp [solid c rfl])

theorem front_solid : ∀ c ∈ (field.dropWhile isBlank).head?, isBlank c = false := by
  intro c first
  have solid := List.head?_dropWhile_not isBlank field
  rwa [Option.mem_def.mp first] at solid

theorem blank_front : ∀ c ∈ field.takeWhile isBlank, isBlank c = true :=
  List.all_eq_true.mp List.all_takeWhile

theorem trim_padded (padded : Padded shown field) (tight : Tight shown) : Text.trimBlanks field = shown := by
  obtain ⟨before, after, rfl, front, back⟩ := padded
  unfold Text.trimBlanks
  rw [List.append_assoc, List.dropWhile_append_of_pos front]
  cases shown with
  | nil =>
      have gone : (after ++ []).dropWhile isBlank = [].dropWhile isBlank := List.dropWhile_append_of_pos back
      rw [List.append_nil, List.dropWhile_nil] at gone
      rw [List.nil_append, gone]
      rfl
  | cons c rest =>
      have backwards : ∀ c ∈ after.reverse, isBlank c = true := fun c member => back c (List.mem_reverse.mp member)
      have last : ∀ d ∈ (c :: rest).reverse.head?, isBlank d = false := by
        rw [List.head?_reverse]
        exact tight.2
      rw [List.cons_append, List.dropWhile_cons_of_neg (by simp [tight.1 c rfl]), ← List.cons_append,
        List.reverse_append, List.dropWhile_append_of_pos backwards, solid_front _ last, List.reverse_reverse]

theorem trimmed_padded : Padded (Text.trimBlanks field) field := by
  refine ⟨field.takeWhile isBlank, ((field.dropWhile isBlank).reverse.takeWhile isBlank).reverse, ?_,
    blank_front field, fun c member => blank_front _ c (List.mem_reverse.mp member)⟩
  unfold Text.trimBlanks
  rw [List.append_assoc, ← List.reverse_append, List.takeWhile_append_dropWhile, List.reverse_reverse,
    List.takeWhile_append_dropWhile]

theorem trimmed_tight : Tight (Text.trimBlanks field) := by
  unfold Text.trimBlanks
  refine ⟨fun c first => front_solid field c ?_, ?_⟩
  · -- what is left at the front is the front of the field without its first blanks
    have parts := congrArg List.reverse
      (List.takeWhile_append_dropWhile (p := isBlank) (l := (field.dropWhile isBlank).reverse))
    rw [List.reverse_append, List.reverse_reverse] at parts
    rw [← parts, List.head?_append, Option.mem_def.mp first]
    rfl
  · rw [List.getLast?_reverse]
    exact front_solid _

end Trimming

end PlanarLP
