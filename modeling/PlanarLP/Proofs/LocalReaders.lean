import PlanarLP.Proofs.NumeralText
import PlanarLP.Proofs.StringText

set_option autoImplicit false

namespace PlanarLP

def Ends (rest : List Char) : Prop := ∀ c ∈ rest.head?, c.isDigit = false ∧ c ∉ ['.', 'e', 'E', '-', '+']

section Combination

variable {α β : Type}

-- What is taken off the front is read alike by itself, and in a longer text too, unless the
-- text goes on with a character that could still belong to it.
structure Local (read? : List Char → Option (α × List Char)) : Prop where
  suffix : ∀ cs a rest, read? cs = some (a, rest) → ∃ shown, cs = shown ++ rest
  extended : ∀ shown rest a left, Ends rest → read? shown = some (a, left) →
    read? (shown ++ rest) = some (a, left ++ rest)
  truncated : ∀ shown rest a left, read? (shown ++ rest) = some (a, left ++ rest) → read? shown = some (a, left)

theorem local_taken (read? : List Char → Option (α × List Char)) (taken : Local read?) (cs rest : List Char) (a : α)
    (read : read? cs = some (a, rest)) : ∃ shown, cs = shown ++ rest ∧ read? shown = some (a, []) := by
  obtain ⟨shown, rfl⟩ := taken.suffix cs a rest read
  exact ⟨shown, rfl, taken.truncated shown rest a [] read⟩

theorem local_pure (a : α) : Local fun cs => some (a, cs) where
  suffix cs _ rest read := by
    obtain ⟨⟩ := read
    exact ⟨[], rfl⟩
  extended shown rest _ left _ read := by
    obtain ⟨⟩ := read
    rfl
  truncated shown rest _ left read := by
    obtain ⟨rfl, same⟩ := Prod.mk.inj (Option.some.inj read)
    rw [List.append_cancel_right same]

theorem local_bind (first? : List Char → Option (α × List Char)) (next? : α → List Char → Option (β × List Char))
    (first : Local first?) (next : ∀ a, Local (next? a)) :
    Local fun cs => (first? cs).bind fun (a, rest) => next? a rest where
  suffix cs b rest read := by
    obtain ⟨⟨a, middle⟩, one, two⟩ := Option.bind_eq_some_iff.mp read
    obtain ⟨before, rfl⟩ := first.suffix _ _ _ one
    obtain ⟨after, rfl⟩ := (next a).suffix _ _ _ two
    exact ⟨before ++ after, (List.append_assoc before after rest).symm⟩
  extended shown rest b left ends read := by
    obtain ⟨⟨a, middle⟩, one, two⟩ := Option.bind_eq_some_iff.mp read
    exact Option.bind_eq_some_iff.mpr ⟨⟨a, middle ++ rest⟩, first.extended _ _ _ _ ends one,
      (next a).extended _ _ _ _ ends two⟩
  truncated shown rest b left read := by
    obtain ⟨⟨a, middle⟩, one, two⟩ := Option.bind_eq_some_iff.mp read
    obtain ⟨after, rfl⟩ := (next a).suffix _ _ _ two
    rw [← List.append_assoc] at one two
    exact Option.bind_eq_some_iff.mpr ⟨⟨a, after ++ left⟩, first.truncated _ _ _ _ one, (next a).truncated _ _ _ _ two⟩

def optional (marked : Char → Bool) (more? : Char → List Char → Option (α × List Char)) (a : α) :
    List Char → Option (α × List Char)
  | [] => some (a, [])
  | c :: rest => if marked c then more? c rest else some (a, c :: rest)

theorem local_optional (marked : Char → Bool) (more? : Char → List Char → Option (α × List Char)) (a : α)
    (more : ∀ c, Local (more? c)) (unmarked : ∀ rest, Ends rest → ∀ c ∈ rest.head?, marked c = false) :
    Local (optional marked more? a) where
  suffix cs b rest read := by
    cases cs with
    | nil =>
        obtain ⟨⟩ := read
        exact ⟨[], rfl⟩
    | cons c cs =>
        rw [optional] at read
        split at read
        · obtain ⟨shown, rfl⟩ := (more c).suffix _ _ _ read
          exact ⟨c :: shown, rfl⟩
        · obtain ⟨⟩ := read
          exact ⟨[], rfl⟩
  extended shown rest b left ends read := by
    cases shown with
    | nil =>
        obtain ⟨⟩ := read
        cases rest with
        | nil => rfl
        | cons c rest => rw [List.nil_append, optional, unmarked _ ends c rfl, if_neg Bool.false_ne_true]
    | cons c shown =>
        rw [List.cons_append, optional]
        rw [optional] at read
        split at read
        · rename_i mark
          rw [if_pos mark]
          exact (more c).extended _ _ _ _ ends read
        · rename_i mark
          obtain ⟨⟩ := read
          rw [if_neg mark, List.cons_append]
  truncated shown rest b left read := by
    cases shown with
    | nil =>
        rw [List.nil_append] at read
        cases rest with
        | nil => rwa [List.append_nil] at read
        | cons c rest =>
            rw [optional] at read
            split at read
            · obtain ⟨before, same⟩ := (more c).suffix _ _ _ read
              have long := congrArg List.length same
              simp at long
              omega
            · obtain ⟨rfl, same⟩ := Prod.mk.inj (Option.some.inj read)
              rw [List.self_eq_append_left.mp same]
              rfl
    | cons c shown =>
        rw [List.cons_append, optional] at read
        rw [optional]
        split at read
        · rename_i mark
          rw [if_pos mark]
          exact (more c).truncated _ _ _ _ read
        · rename_i mark
          obtain ⟨rfl, same⟩ := Prod.mk.inj (Option.some.inj read)
          have whole : c :: shown = left := List.append_cancel_right same
          rw [if_neg mark, whole]

theorem local_guard (refused : Bool) (a : α) : Local fun rest => if refused then none else some (a, rest) := by
  cases refused with
  | false => exact local_pure a
  | true => exact ⟨nofun, nofun, nofun⟩

end Combination

open Json.Token (whole? fraction? exponent? number? codePoints? next? joined?)

theorem ends_digit (rest : List Char) (ends : Ends rest) : NoDigit rest := fun c first => (ends c first).1

theorem ends_mark (mark : Char) (rest : List Char) (ends : Ends rest) (among : mark ∈ ['.', 'e', 'E', '-', '+']) :
    ∀ c ∈ rest.head?, c ≠ mark := by
  rintro c first rfl
  exact (ends c first).2 among

section Numbers

theorem digits_split (cs : List Char) :
    cs = (Numeral.digits cs).1 ++ (Numeral.digits cs).2 ∧ (∀ c ∈ (Numeral.digits cs).1, c.isDigit = true) ∧
      NoDigit (Numeral.digits cs).2 := by
  refine ⟨List.takeWhile_append_dropWhile.symm, List.all_eq_true.mp List.all_takeWhile, fun c first => ?_⟩
  have stop := List.head?_dropWhile_not Char.isDigit cs
  change c ∈ (cs.dropWhile Char.isDigit).head? at first
  rwa [Option.mem_def.mp first] at stop

theorem no_digit_append (left rest : List Char) (first : NoDigit left) (ends : NoDigit rest) :
    NoDigit (left ++ rest) := by
  cases left with
  | nil => exact ends
  | cons c left => exact first

theorem no_digit_left (left rest : List Char) (ends : NoDigit (left ++ rest)) : NoDigit left := by
  cases left with
  | nil => exact nofun
  | cons c left => exact ends

theorem local_digits : Local fun cs => some (Numeral.digits cs) where
  suffix cs whole rest read := by
    obtain ⟨⟩ := read
    exact ⟨_, (digits_split cs).1⟩
  extended shown rest whole left ends read := by
    obtain ⟨parts, digits, stop⟩ := digits_split shown
    rw [Option.some.inj read] at parts digits stop
    rw [parts, List.append_assoc, digits_append whole _ digits (no_digit_append left rest stop (ends_digit rest ends))]
  truncated shown rest whole left read := by
    obtain ⟨parts, digits, stop⟩ := digits_split (shown ++ rest)
    rw [Option.some.inj read] at parts digits stop
    rw [← List.append_assoc] at parts
    rw [List.append_cancel_right parts, digits_append whole left digits (no_digit_left left rest stop)]

theorem local_whole : Local whole? := by
  have read := local_bind _ _ local_digits fun whole : List Char =>
    local_guard (whole.isEmpty || (whole.head? == some '0' && whole.length != 1)) whole
  exact read

theorem fraction_optional : fraction? = optional (· == '.') (fun _ rest =>
    (some (Numeral.digits rest)).bind fun (fraction, rest) =>
      if fraction.isEmpty then none else some (some fraction, rest)) none := by
  funext cs
  cases cs with
  | nil => rfl
  | cons c rest =>
      unfold optional
      by_cases point : c = '.'
      · subst point
        rfl
      · simp [fraction?, point]

theorem local_fraction : Local fraction? := by
  rw [fraction_optional]
  refine local_optional _ _ none (fun _ => ?_) fun rest ends c first => ?_
  · exact local_bind _ _ local_digits fun fraction => local_guard _ (some fraction)
  · exact beq_false_of_ne (ends_mark '.' rest ends (by decide) c first)

theorem sign_optional : (fun cs => some (Numeral.sign cs)) =
    optional (fun c => c == '-' || c == '+') (fun c rest => some (c == '-', rest)) false := by
  funext cs
  cases cs with
  | nil => rfl
  | cons c rest =>
      unfold optional
      by_cases minus : c = '-'
      · subst minus
        rfl
      · by_cases plus : c = '+'
        · subst plus
          rfl
        · simp [Numeral.sign, minus, plus]

theorem local_sign : Local fun cs => some (Numeral.sign cs) := by
  rw [sign_optional]
  refine local_optional _ _ false (fun c => local_pure (c == '-')) fun rest ends c first => ?_
  have minus := ends_mark '-' rest ends (by decide) c first
  have plus := ends_mark '+' rest ends (by decide) c first
  simp [minus, plus]

theorem local_exponent_part : Local Numeral.exponentPart? := by
  have read := local_bind _ _ local_sign fun negative => local_bind _ _ local_digits fun shown : List Char =>
    local_guard shown.isEmpty (if negative then -(digitsValue shown : Int) else digitsValue shown)
  exact read

theorem exponent_optional : exponent? = optional (fun c => decide (c = 'e' ∨ c = 'E')) (fun _ rest =>
    (Numeral.exponentPart? rest).bind fun (exponent, rest) => some (some exponent, rest)) none := by
  funext cs
  cases cs with
  | nil => rfl
  | cons c rest =>
      unfold exponent? optional
      simp only [decide_eq_true_eq, Option.map_eq_bind]
      rfl

theorem local_exponent : Local exponent? := by
  rw [exponent_optional]
  refine local_optional _ _ none (fun _ => ?_) fun rest ends c first => decide_eq_false ?_
  · exact local_bind _ _ local_exponent_part fun exponent => local_pure (some exponent)
  · rintro (small | large)
    · exact ends_mark 'e' rest ends (by decide) c first small
    · exact ends_mark 'E' rest ends (by decide) c first large

theorem local_number (negative : Bool) : Local (number? negative) := by
  have read := local_bind _ _ local_whole fun whole => local_bind _ _ local_fraction fun fraction =>
    local_bind _ _ local_exponent fun exponent => local_pure (Json.Token.number ⟨negative, whole, fraction, exponent⟩)
  exact read

end Numbers

section Strings

theorem unit_taken (unit : Nat) (read? : Option (List Nat × List Char)) (units : List Nat) (rest : List Char)
    (taken : (read?.bind fun (more, rest) => some (unit :: more, rest)) = some (units, rest)) :
    ∃ more, read? = some (more, rest) ∧ units = unit :: more := by
  obtain ⟨⟨more, left⟩, given, same⟩ := Option.bind_eq_some_iff.mp taken
  obtain ⟨⟩ := same
  exact ⟨more, given, rfl⟩

theorem code_points_taken (cs : List Char) (units : List Nat) (rest : List Char)
    (read : codePoints? cs = some (units, rest)) :
    ∃ shown, cs = shown ++ rest ∧ ∀ other, codePoints? (shown ++ other) = some (units, other) := by
  fun_induction codePoints? cs generalizing units with
  | case1 cs =>
      obtain ⟨⟩ := read
      exact ⟨['"'], rfl, fun _ => rfl⟩
  | case2 a b c d cs ih =>
      obtain ⟨unit, digits, later⟩ := Option.bind_eq_some_iff.mp read
      obtain ⟨more, given, rfl⟩ := unit_taken unit _ units rest later
      obtain ⟨shown, rfl, again⟩ := ih more given
      refine ⟨'\\' :: 'u' :: a :: b :: c :: d :: shown, rfl, fun other => ?_⟩
      exact (escaped_unit a b c d unit _ digits).trans (congrArg (withUnit unit) (again other))
  | case3 c cs _ ih =>
      obtain ⟨unit, short, later⟩ := Option.bind_eq_some_iff.mp read
      obtain ⟨more, given, rfl⟩ := unit_taken unit _ units rest later
      obtain ⟨shown, rfl, again⟩ := ih more given
      refine ⟨'\\' :: c :: shown, rfl, fun other => ?_⟩
      exact (escaped_short c unit _ short).trans (congrArg (withUnit unit) (again other))
  | case4 | case6 => exact nomatch read
  | case5 c cs quote _ escape control ih =>
      obtain ⟨more, given, rfl⟩ := unit_taken c.toNat _ units rest read
      obtain ⟨shown, rfl, again⟩ := ih more given
      have plain : c ≠ '\\' := by
        rintro rfl
        cases shown with
        | nil => exact nomatch again []
        | cons d shown => exact escape d _ rfl rfl
      refine ⟨c :: shown, rfl, fun other => ?_⟩
      exact (plain_character c _ quote plain control).trans (congrArg (withUnit c.toNat) (again other))

end Strings

section Tokens

def Json.Token.fixed : List (List Char × Json.Token) :=
  [(['\x7b'], .openBrace), (['\x7d'], .closeBrace), (['['], .openBracket), ([']'], .closeBracket), ([':'], .colon),
    ([','], .comma), ("null".toList, .null), ("true".toList, .bool true), ("false".toList, .bool false)]

theorem next_fixed (word : List Char) (t : Json.Token) (rest : List Char) (listed : (word, t) ∈ Json.Token.fixed) :
    next? (word ++ rest) = some (t, rest) := by
  simp only [Json.Token.fixed, List.mem_cons, Prod.mk.injEq, List.not_mem_nil, or_false] at listed
  rcases listed with ⟨rfl, rfl⟩ | ⟨rfl, rfl⟩ | ⟨rfl, rfl⟩ | ⟨rfl, rfl⟩ | ⟨rfl, rfl⟩ | ⟨rfl, rfl⟩ | ⟨rfl, rfl⟩ |
    ⟨rfl, rfl⟩ | ⟨rfl, rfl⟩ <;> rfl

theorem unsigned_digit (cs : List Char) (t : Json.Token) (rest : List Char)
    (read : number? false cs = some (t, rest)) : ∃ c digits, cs = c :: digits ∧ c.isDigit = true := by
  cases cs with
  | nil => cases read
  | cons c cs =>
      by_cases digit : c.isDigit = true
      · exact ⟨c, cs, rfl, digit⟩
      · have none : whole? (c :: cs) = none := by simp [whole?, Numeral.digits, digit]
        rw [number?, none] at read
        cases read

theorem number_token (negative : Bool) (cs : List Char) (t : Json.Token) (rest : List Char)
    (read : number? negative cs = some (t, rest)) : ∃ n, t = .number n := by
  obtain ⟨⟨whole, _⟩, _, behind⟩ := Option.bind_eq_some_iff.mp read
  obtain ⟨⟨fraction, _⟩, _, last⟩ := Option.bind_eq_some_iff.mp behind
  obtain ⟨⟨exponent, _⟩, _, same⟩ := Option.bind_eq_some_iff.mp last
  obtain ⟨⟩ := same
  exact ⟨_, rfl⟩

theorem next_unsigned (cs : List Char) (t : Json.Token) (rest : List Char)
    (read : number? false cs = some (t, rest)) : next? cs = some (t, rest) := by
  obtain ⟨c, digits, rfl, digit⟩ := unsigned_digit cs t rest read
  rwa [next_digit c digits digit]

theorem fixed_taken (word : List Char) (t u : Json.Token) (rest left : List Char)
    (listed : (word, t) ∈ Json.Token.fixed) (read : some (t, rest) = some (u, left)) :
    ∃ shown, (shown, u) ∈ Json.Token.fixed ∧ word ++ rest = shown ++ left := by
  obtain ⟨⟩ := read
  exact ⟨word, listed, rfl⟩

theorem next_cases (cs : List Char) (t : Json.Token) (rest : List Char) (read : next? cs = some (t, rest)) :
    (∃ word, (word, t) ∈ Json.Token.fixed ∧ cs = word ++ rest) ∨
      (∃ body units, cs = '"' :: body ∧ codePoints? body = some (units, rest) ∧
        t = .string ((joined? units).map String.ofList)) ∨
      (∃ body, cs = '-' :: body ∧ number? true body = some (t, rest)) ∨ number? false cs = some (t, rest) := by
  unfold next? at read
  split at read
  · exact .inl (fixed_taken ['\x7b'] _ t _ rest (by decide) read)
  · exact .inl (fixed_taken ['\x7d'] _ t _ rest (by decide) read)
  · exact .inl (fixed_taken ['['] _ t _ rest (by decide) read)
  · exact .inl (fixed_taken [']'] _ t _ rest (by decide) read)
  · exact .inl (fixed_taken [':'] _ t _ rest (by decide) read)
  · exact .inl (fixed_taken [','] _ t _ rest (by decide) read)
  · exact .inl (fixed_taken "null".toList _ t _ rest (by decide) read)
  · exact .inl (fixed_taken "true".toList _ t _ rest (by decide) read)
  · exact .inl (fixed_taken "false".toList _ t _ rest (by decide) read)
  · rename_i body
    obtain ⟨⟨units, left⟩, given, same⟩ := Option.bind_eq_some_iff.mp read
    obtain ⟨⟩ := same
    exact .inr (.inl ⟨body, units, rfl, given, rfl⟩)
  · exact .inr (.inr (.inl ⟨_, rfl, read⟩))
  · exact .inr (.inr (.inr read))

theorem next_taken (cs : List Char) (t : Json.Token) (rest : List Char) (read : next? cs = some (t, rest)) :
    ∃ shown, cs = shown ++ rest ∧ next? shown = some (t, []) := by
  rcases next_cases cs t rest read with
    ⟨word, listed, rfl⟩ | ⟨body, units, rfl, given, rfl⟩ | ⟨body, rfl, given⟩ | given
  · refine ⟨word, rfl, ?_⟩
    have alone := next_fixed word t [] listed
    rwa [List.append_nil] at alone
  · obtain ⟨shown, rfl, again⟩ := code_points_taken body units rest given
    have alone := again []
    rw [List.append_nil] at alone
    exact ⟨'"' :: shown, rfl, by rw [next_quote, alone]; rfl⟩
  · obtain ⟨shown, rfl, alone⟩ := local_taken _ (local_number true) body rest t given
    exact ⟨'-' :: shown, rfl, alone⟩
  · obtain ⟨shown, rfl, alone⟩ := local_taken _ (local_number false) cs rest t given
    exact ⟨shown, rfl, next_unsigned shown t [] alone⟩

theorem next_extended (shown : List Char) (t : Json.Token) (rest : List Char) (read : next? shown = some (t, []))
    (ends : ∀ n, t = .number n → Ends rest) : next? (shown ++ rest) = some (t, rest) := by
  have number (negative : Bool) (body : List Char) (given : number? negative body = some (t, [])) :
      number? negative (body ++ rest) = some (t, rest) := by
    obtain ⟨n, named⟩ := number_token negative body t [] given
    exact (local_number negative).extended body rest t [] (ends n named) given
  rcases next_cases shown t [] read with
    ⟨word, listed, rfl⟩ | ⟨body, units, rfl, given, rfl⟩ | ⟨body, rfl, given⟩ | given
  · rw [List.append_nil]
    exact next_fixed word t rest listed
  · obtain ⟨part, same, again⟩ := code_points_taken body units [] given
    rw [List.append_nil] at same
    rw [List.cons_append, next_quote, same, again rest]
    rfl
  · exact number true body given
  · exact next_unsigned _ t rest (number false shown given)

end Tokens

end PlanarLP
