import PlanarLP.Coefficients
import PlanarLP.Proofs.PlainNumbers
import PlanarLP.Proofs.TextParts

set_option autoImplicit false

namespace PlanarLP

section Mapping

variable {α β ε : Type} (f : α → Except ε β)

def Answered (xs : List α) (ys : List β) : Prop := List.Forall₂ (fun x y => f x = .ok y) xs ys

def FirstFault (xs : List α) (x : α) (fault : ε) : Prop :=
  ∃ before after, xs = before ++ x :: after ∧ (∀ y ∈ before, ∃ z, f y = .ok z) ∧ f x = .error fault

theorem mapped_answered (xs : List α) (ys : List β) (answered : Answered f xs ys) : xs.mapM f = .ok ys := by
  induction answered with
  | nil => rfl
  | cons first _ ih =>
      rw [List.mapM_cons, first, ih]
      rfl

theorem mapped_fault (xs : List α) (x : α) (fault : ε) (faulty : FirstFault f xs x fault) :
    xs.mapM f = .error fault := by
  obtain ⟨before, after, rfl, readable, found⟩ := faulty
  induction before with
  | nil =>
      rw [List.nil_append, List.mapM_cons, found]
      rfl
  | cons y before ih =>
      obtain ⟨⟨z, first⟩, others⟩ := List.forall_mem_cons.mp readable
      rw [List.cons_append, List.mapM_cons, first, ih others]
      rfl

theorem answered_or_fault (xs : List α) : (∃ ys, Answered f xs ys) ∨ ∃ x fault, FirstFault f xs x fault := by
  induction xs with
  | nil => exact .inl ⟨[], .nil⟩
  | cons x rest ih =>
      cases first : f x with
      | error fault => exact .inr ⟨x, fault, [], rest, rfl, nofun, first⟩
      | ok y =>
          rcases ih with ⟨ys, answered⟩ | ⟨z, fault, before, after, rfl, readable, found⟩
          · exact .inl ⟨y :: ys, .cons first answered⟩
          · exact .inr ⟨z, fault, x :: before, after, rfl, List.forall_mem_cons.mpr ⟨⟨y, first⟩, readable⟩, found⟩

theorem answered_unique (xs : List α) (ys zs : List β) (first : Answered f xs ys) (second : Answered f xs zs) :
    ys = zs :=
  Except.ok.inj ((mapped_answered f xs ys first).symm.trans (mapped_answered f xs zs second))

theorem answered_faultless (xs : List α) (ys : List β) (answered : Answered f xs ys) (x : α) (fault : ε) :
    ¬ FirstFault f xs x fault :=
  fun faulty => nomatch (mapped_answered f xs ys answered).symm.trans (mapped_fault f xs x fault faulty)

theorem mapped_ok_iff (xs : List α) (ys : List β) : xs.mapM f = .ok ys ↔ Answered f xs ys := by
  refine ⟨fun given => ?_, mapped_answered f xs ys⟩
  rcases answered_or_fault f xs with ⟨zs, answered⟩ | ⟨x, fault, faulty⟩
  · have same := (mapped_answered f xs zs answered).symm.trans given
    exact Except.ok.inj same ▸ answered
  · exact nomatch (mapped_fault f xs x fault faulty).symm.trans given

theorem mapped_error_iff (xs : List α) (fault : ε) : xs.mapM f = .error fault ↔ ∃ x, FirstFault f xs x fault := by
  refine ⟨fun given => ?_, fun ⟨x, faulty⟩ => mapped_fault f xs x fault faulty⟩
  rcases answered_or_fault f xs with ⟨ys, answered⟩ | ⟨x, reason, faulty⟩
  · exact nomatch (mapped_answered f xs ys answered).symm.trans given
  · have same := (mapped_fault f xs x reason faulty).symm.trans given
    exact ⟨x, Except.error.inj same ▸ faulty⟩

end Mapping

def Parts (text : String) (parts : List (List Char)) : Prop :=
  ∃ fields, Text.FieldsOf ',' text.toList fields ∧
    List.Forall₂ (fun part field => Text.Padded part field ∧ Text.Tight part) parts fields

def Readable (part : List Char) : Prop := ∃ x, readNumber part = .ok x

theorem trim_iff (part field : List Char) :
    Text.Padded part field ∧ Text.Tight part ↔ part = Text.trimBlanks field := by
  constructor
  · rintro ⟨padded, tight⟩
    exact (trim_padded part field padded tight).symm
  · rintro rfl
    exact ⟨trimmed_padded field, trimmed_tight field⟩

theorem parts_iff (text : String) (parts : List (List Char)) :
    Parts text parts ↔ parts = (Text.split ',' text.toList).map Text.trimBlanks := by
  have trimmed (fields : List (List Char)) :
      List.Forall₂ (fun part field => Text.Padded part field ∧ Text.Tight part) parts fields ↔
        parts = fields.map Text.trimBlanks := by
    rw [← List.forall₂_eq_eq_eq, List.forall₂_map_right_iff]
    simp only [trim_iff]
  unfold Parts
  simp only [trimmed, fields_iff, exists_eq_left]

theorem part_ok_iff (part : List Char) (x : Float) : readPart part = .ok x ↔ readNumber part = .ok x := by
  unfold readPart
  cases readNumber part with
  | ok y => exact ⟨fun same => congrArg _ (Except.ok.inj same), fun same => congrArg _ (Except.ok.inj same)⟩
  | error fault => exact ⟨nofun, nofun⟩

theorem part_error_iff (part : List Char) (fault : CoefficientsFault) :
    readPart part = .error fault ↔ ∃ reason, readNumber part = .error reason ∧ fault = .unreadable part reason := by
  unfold readPart
  cases readNumber part with
  | ok y => exact ⟨nofun, fun ⟨_, same, _⟩ => nomatch same⟩
  | error reason =>
      constructor
      · rintro ⟨⟩
        exact ⟨reason, rfl, rfl⟩
      · rintro ⟨_, ⟨⟩, rfl⟩
        rfl

theorem readable_iff (parts : List (List Char)) :
    (∀ part ∈ parts, Readable part) ↔ ∃ values, Answered readNumber parts values := by
  constructor
  · intro readable
    rcases answered_or_fault readNumber parts with answered | ⟨part, reason, before, after, rfl, -, found⟩
    · exact answered
    · obtain ⟨x, read⟩ := readable part List.mem_append_cons_self
      exact nomatch found.symm.trans read
  · rintro ⟨values, answered⟩
    induction answered with
    | nil => exact nofun
    | cons first _ ih => exact List.forall_mem_cons.mpr ⟨⟨_, first⟩, ih⟩

section Reading

variable (count : Nat) (text : String) (parts : List (List Char)) (shown : Parts text parts)

theorem parts_answered (values : List Float) : parts.mapM readPart = .ok values ↔ Answered readNumber parts values := by
  rw [mapped_ok_iff]
  unfold Answered
  simp only [part_ok_iff]

theorem parts_fault (fault : CoefficientsFault) :
    parts.mapM readPart = .error fault ↔
      ∃ part reason, FirstFault readNumber parts part reason ∧ fault = .unreadable part reason := by
  rw [mapped_error_iff]
  unfold FirstFault
  simp only [part_ok_iff, part_error_iff]
  constructor
  · rintro ⟨part, before, after, shape, readable, reason, found, named⟩
    exact ⟨part, reason, ⟨before, after, shape, readable, found⟩, named⟩
  · rintro ⟨part, reason, ⟨before, after, shape, readable, found⟩, named⟩
    exact ⟨part, before, after, shape, readable, reason, found, named⟩

include shown

theorem coefficients_counted (values : List Float) (answered : Answered readNumber parts values) :
    readCoefficients count text =
      if counted : values.length = count then .ok ⟨values.toArray, by simpa using counted⟩
      else .error (.count count values.length) := by
  unfold readCoefficients
  dsimp only
  rw [← (parts_iff text parts).mp shown, (parts_answered parts values).mpr answered]
  rfl

theorem coefficients_fault (part : List Char) (reason : NumberFault)
    (faulty : FirstFault readNumber parts part reason) :
    readCoefficients count text = .error (.unreadable part reason) := by
  unfold readCoefficients
  dsimp only
  rw [← (parts_iff text parts).mp shown, (parts_fault parts _).mpr ⟨part, reason, faulty, rfl⟩]
  rfl

theorem coefficients_ok_iff (values : Vector Float count) :
    readCoefficients count text = .ok values ↔ Answered readNumber parts values.toList := by
  rcases answered_or_fault readNumber parts with ⟨numbers, answered⟩ | ⟨part, reason, faulty⟩
  · rw [coefficients_counted count text parts shown numbers answered]
    split
    · constructor
      · rintro ⟨⟩
        exact answered
      · intro given
        have same := answered_unique _ _ _ _ answered given
        exact congrArg _ (Vector.toList_inj.mp (by simp [same]))
    · rename_i other
      refine ⟨nofun, fun given => absurd ?_ other⟩
      rw [answered_unique _ _ _ _ answered given, Vector.length_toList]
  · rw [coefficients_fault count text parts shown part reason faulty]
    exact ⟨nofun, fun given => absurd faulty (answered_faultless _ _ _ given _ _)⟩

theorem coefficients_error_iff (fault : CoefficientsFault) :
    readCoefficients count text = .error fault ↔
      (∃ part reason, FirstFault readNumber parts part reason ∧ fault = .unreadable part reason) ∨
        (∀ part ∈ parts, Readable part) ∧ parts.length ≠ count ∧ fault = .count count parts.length := by
  rcases answered_or_fault readNumber parts with ⟨numbers, answered⟩ | ⟨part, reason, faulty⟩
  · have length : parts.length = numbers.length := answered.length_eq
    have faultless : ¬ ∃ part reason, FirstFault readNumber parts part reason ∧ fault = .unreadable part reason :=
      fun ⟨part, reason, faulty, _⟩ => answered_faultless _ _ _ answered part reason faulty
    have readable := (readable_iff parts).mpr ⟨numbers, answered⟩
    rw [coefficients_counted count text parts shown numbers answered, or_iff_right faultless, length]
    split
    · rename_i counted
      exact ⟨nofun, fun ⟨_, other, _⟩ => absurd counted other⟩
    · rename_i other
      exact ⟨fun same => ⟨readable, other, (Except.error.inj same).symm⟩, fun ⟨_, _, named⟩ => named ▸ rfl⟩
  · rw [coefficients_fault count text parts shown part reason faulty]
    constructor
    · rintro ⟨⟩
      exact .inl ⟨part, reason, faulty, rfl⟩
    · rintro (⟨other, why, found, rfl⟩ | ⟨readable, -, -⟩)
      · have first := (parts_fault parts _).mpr ⟨part, reason, faulty, rfl⟩
        exact congrArg _ (Except.error.inj (first.symm.trans ((parts_fault parts _).mpr ⟨other, why, found, rfl⟩)))
      · obtain ⟨values, answered⟩ := (readable_iff parts).mp readable
        exact absurd faulty (answered_faultless _ _ _ answered _ _)

end Reading

section Spacing

def Solid (c : Char) : Prop := c ≠ ',' ∧ Text.isBlank c = false

instance (c : Char) : Decidable (Solid c) := inferInstanceAs (Decidable (_ ∧ _))

theorem digits_solid (c : Char) (digit : c.isDigit = true) : Solid c := by
  obtain ⟨low, high⟩ : 48 ≤ c.toNat ∧ c.toNat ≤ 57 := by
    simpa [Char.isDigit, UInt32.le_iff_toNat_le] using digit
  refine ⟨?_, ?_⟩
  · rintro rfl
    exact absurd digit (by decide)
  · unfold Text.isBlank
    simp only [Bool.or_eq_false_iff, beq_eq_false_iff_ne, decide_eq_false_iff_not]
    omega

theorem positional_solid (d : Decimal) : ∀ c ∈ d.positional, Solid c := by
  unfold Decimal.positional
  refine List.forall_mem_append.mpr ⟨fun c member => digits_solid c (whole_digits d c member), ?_⟩
  split
  · exact nofun
  · exact List.forall_mem_cons.mpr ⟨by decide, fun c member => digits_solid c (fraction_digits d c member)⟩

theorem word_solid (word : List Char) (solid : word.all (fun c => decide (Solid c)) = true) : ∀ c ∈ word, Solid c :=
  fun c member => of_decide_eq_true (List.all_eq_true.mp solid c member)

theorem plain_solid (x : Float) : ∀ c ∈ (PlanarLP.plainText x).toList, Solid c := by
  unfold PlanarLP.plainText
  rw [String.toList_ofList]
  cases Binary64.ofFloat x with
  | finite negative mantissa exponent =>
      refine List.forall_mem_append.mpr ⟨?_, positional_solid _⟩
      cases negative <;> exact word_solid _ (by decide)
  | infinite negative => cases negative <;> exact word_solid _ (by decide)
  | nan => exact word_solid _ (by decide)

theorem plain_tight (x : Float) : Text.Tight (PlanarLP.plainText x).toList :=
  ⟨fun c first => (plain_solid x c (List.mem_of_mem_head? first)).2,
    fun c last => (plain_solid x c (List.mem_of_mem_getLast? last)).2⟩

def Spaced (values : List Float) (fields : List (List Char)) : Prop :=
  List.Forall₂ (fun x field => Text.Padded (PlanarLP.plainText x).toList field) values fields

theorem padding_free (x : Float) (field : List Char) (padded : Text.Padded (PlanarLP.plainText x).toList field) :
    ',' ∉ field := by
  obtain ⟨before, after, rfl, front, back⟩ := padded
  have comma : Text.isBlank ',' = false := by decide
  intro member
  rcases List.mem_append.mp member with shown | blank
  · rcases List.mem_append.mp shown with blank | number
    · exact nomatch comma.symm.trans (front _ blank)
    · exact (plain_solid x _ number).1 rfl
  · exact nomatch comma.symm.trans (back _ blank)

theorem spaced_parts (values : List Float) (fields : List (List Char)) (nonempty : values ≠ [])
    (spaced : Spaced values fields) :
    Parts (String.ofList ([','].intercalate fields)) (values.map fun x => (PlanarLP.plainText x).toList) := by
  refine ⟨fields, ⟨?_, ?_, String.toList_ofList.symm⟩, ?_⟩
  · rintro rfl
    exact nonempty (List.forall₂_nil_right_iff.mp spaced)
  · clear nonempty
    induction spaced with
    | nil => exact nofun
    | cons padded _ ih => exact List.forall_mem_cons.mpr ⟨padding_free _ _ padded, ih⟩
  · rw [List.forall₂_map_left_iff]
    exact spaced.imp fun x field padded => ⟨padded, plain_tight x⟩

end Spacing

theorem coefficients_read (count : Nat) :
    (∀ text : String, ∃ parts, (∀ others, Parts text others ↔ others = parts) ∧
      ((∃ values, readCoefficients count text = .ok values) ↔ parts.length = count ∧ ∀ part ∈ parts, Readable part) ∧
      (∀ values : Vector Float count,
        readCoefficients count text = .ok values ↔ parts.map readNumber = values.toList.map .ok) ∧
      ∀ fault, readCoefficients count text = .error fault ↔
        (∃ before part after reason, parts = before ++ part :: after ∧ (∀ earlier ∈ before, Readable earlier) ∧
          readNumber part = .error reason ∧ fault = .unreadable part reason ∧
          fault.message = String.ofList (Text.quoted part) ++ ": " ++ reason.message) ∨
        (∀ part ∈ parts, Readable part) ∧ parts.length ≠ count ∧ fault = .count count parts.length ∧
          fault.message = "expected " ++ toString count ++ " comma-separated numbers, got " ++ toString parts.length) ∧
    ∀ (values : Vector Float count) (fields : List (List Char)), 0 < count →
      (∀ x ∈ values.toList, x.isNaN = false) → Spaced values.toList fields →
      readCoefficients count (String.ofList ([','].intercalate fields)) = .ok values := by
  constructor
  · intro text
    obtain ⟨parts, named⟩ : ∃ parts, parts = (Text.split ',' text.toList).map Text.trimBlanks := ⟨_, rfl⟩
    have shown : Parts text parts := (parts_iff text parts).mpr named
    refine ⟨parts, fun others => named ▸ parts_iff text others, ?_, ?_, ?_⟩
    · rw [readable_iff]
      simp only [coefficients_ok_iff count text parts shown]
      constructor
      · rintro ⟨values, answered⟩
        exact ⟨answered.length_eq.trans values.length_toList, _, answered⟩
      · rintro ⟨counted, values, answered⟩
        have length : values.toArray.size = count := answered.length_eq.symm.trans counted
        exact ⟨⟨values.toArray, length⟩, answered⟩
    · intro values
      rw [coefficients_ok_iff count text parts shown, ← List.forall₂_eq_eq_eq, List.forall₂_map_left_iff,
        List.forall₂_map_right_iff]
      rfl
    · intro fault
      rw [coefficients_error_iff count text parts shown]
      refine or_congr ⟨?_, ?_⟩ ⟨?_, ?_⟩
      · rintro ⟨part, reason, ⟨before, after, shape, readable, found⟩, rfl⟩
        exact ⟨before, part, after, reason, shape, readable, found, rfl, rfl⟩
      · rintro ⟨before, part, after, reason, shape, readable, found, rfl, -⟩
        exact ⟨part, reason, ⟨before, after, shape, readable, found⟩, rfl⟩
      · rintro ⟨readable, other, rfl⟩
        exact ⟨readable, other, rfl, rfl⟩
      · rintro ⟨readable, other, rfl, -⟩
        exact ⟨readable, other, rfl⟩
  · intro values fields positive numbers spaced
    have nonempty : values.toList ≠ [] := List.ne_nil_of_length_pos (by rwa [Vector.length_toList])
    rw [coefficients_ok_iff count _ _ (spaced_parts _ fields nonempty spaced)]
    exact List.forall₂_map_left_iff.mpr (List.forall₂_same.mpr fun x member => plain_read x (numbers x member))

theorem coefficients_read_padded :
    let values : Vector Float 3 := #v[0.1, -2.5, 1 / 0]
    let fields := [" 0.1".toList, "-2.5\t".toList, "\u2003inf\n ".toList]
    (∀ x ∈ values.toList, x.isNaN = false) ∧ Spaced values.toList fields ∧
      readCoefficients 3 (String.ofList ([','].intercalate fields)) = .ok values := by
  intro values fields
  have numbers : ∀ x ∈ values.toList, x.isNaN = false := by decide +kernel
  have spaced : Spaced values.toList fields := by
    refine .cons ⟨[' '], [], ?_⟩ (.cons ⟨[], ['\t'], ?_⟩ (.cons ⟨['\u2003'], ['\n', ' '], ?_⟩ .nil)) <;>
      exact ⟨by decide +kernel, List.all_eq_true.mp (by decide), List.all_eq_true.mp (by decide)⟩
  exact ⟨numbers, spaced, (coefficients_read 3).2 values fields (by decide) numbers spaced⟩

end PlanarLP
