import PlanarLP.Proofs.TokenText

set_option autoImplicit false

namespace PlanarLP

namespace Json

inductive Scans : List Char → List Token → Prop
  | nil : Scans [] []
  | blank (c : Char) (rest : List Char) (ts : List Token) : isBlank c = true → Scans rest ts → Scans (c :: rest) ts
  | token (c : Char) (shown rest : List Char) (t : Token) (ts : List Token) : isBlank c = false →
      Token.next? (c :: shown ++ rest) = some (t, rest) → Scans rest ts → Scans (c :: shown ++ rest) (t :: ts)

mutual

def Proper : Json → Prop
  | .number numeral => numeral.Proper
  | .array items => ProperItems items
  | .object members => ProperMembers members
  | _ => True

def ProperItems : List Json → Prop
  | [] => True
  | item :: items => Proper item ∧ ProperItems items

def ProperMembers : List (Option String × Json) → Prop
  | [] => True
  | (_, value) :: members => Proper value ∧ ProperMembers members

end

end Json

open Json (Scans Layout Proper ProperItems ProperMembers furtherItems furtherMembers)

theorem scan_scans (text : List Char) (ts : List Json.Token) (scans : Scans text ts) :
    ∀ fuel, text.length ≤ fuel → Json.Token.scan? fuel text = some ts := by
  induction scans with
  | nil => exact fun fuel _ => by cases fuel <;> rfl
  | blank c rest ts blank _ ih =>
    intro fuel enough
    obtain ⟨fuel, rfl⟩ := Nat.exists_eq_add_one_of_ne_zero (n := fuel) (by simp at enough; omega)
    rw [Json.Token.scan?, if_pos blank]
    exact ih fuel (by simpa using enough)
  | token c shown rest t ts solid next _ ih =>
    intro fuel enough
    obtain ⟨fuel, rfl⟩ := Nat.exists_eq_add_one_of_ne_zero (n := fuel) (by simp at enough; omega)
    rw [List.cons_append] at next ⊢
    have remaining := ih fuel (by simp at enough; omega)
    simp [Json.Token.scan?, solid, next, remaining]

theorem blanks_scan (blanks rest : List Char) (ts : List Json.Token) (blank : ∀ c ∈ blanks, Json.isBlank c = true)
    (scans : Scans rest ts) : Scans (blanks ++ rest) ts := by
  induction blanks with
  | nil => exact scans
  | cons c blanks ih =>
    exact .blank c _ ts (blank c List.mem_cons_self) (ih fun d member => blank d (List.mem_cons_of_mem c member))

theorem newline_blank (layout : Layout) : ∀ c ∈ layout.newline, Json.isBlank c = true := by
  intro c member
  cases layout with
  | compact => exact absurd member List.not_mem_nil
  | indented level =>
    rcases List.mem_cons.mp member with rfl | space
    · rfl
    · rw [List.eq_of_mem_replicate space]
      rfl

theorem newline_scans (layout : Layout) (rest : List Char) (ts : List Json.Token) (scans : Scans rest ts) :
    Scans (layout.newline ++ rest) ts := blanks_scan layout.newline rest ts (newline_blank layout) scans

theorem mark_scans (c : Char) (t : Json.Token) (rest : List Char) (ts : List Json.Token)
    (solid : Json.isBlank c = false) (next : Json.Token.next? (c :: rest) = some (t, rest)) (scans : Scans rest ts) :
    Scans (c :: rest) (t :: ts) :=
  .token c [] rest t ts solid next scans

theorem colon_scans (layout : Layout) (rest : List Char) (ts : List Json.Token) (scans : Scans rest ts) :
    Scans (layout.colon ++ rest) (.colon :: ts) := by
  cases layout with
  | compact => exact mark_scans ':' .colon rest ts rfl rfl scans
  | indented level => exact mark_scans ':' .colon (' ' :: rest) ts rfl rfl (.blank ' ' rest ts rfl scans)

theorem digit_solid (c : Char) (digit : c.isDigit = true) : Json.isBlank c = false := by
  refine Bool.eq_false_iff.mpr fun blank => ?_
  simp only [Json.isBlank, Bool.or_eq_true, beq_iff_eq] at blank
  rcases blank with ((rfl | rfl) | rfl) | rfl <;> exact absurd digit (by decide)

theorem numeral_text_start (n : Numeral) (proper : n.Proper) :
    ∃ c shown, n.text = c :: shown ∧ Json.isBlank c = false := by
  have text := numeral_text_append n []
  rw [List.append_nil] at text
  rw [text]
  by_cases negative : n.negative = true
  · exact ⟨'-', _, by rw [if_pos negative]; rfl, rfl⟩
  · obtain ⟨d, digits, whole⟩ := List.exists_cons_of_ne_nil proper.whole
    refine ⟨d, _, by rw [if_neg negative, whole]; rfl, digit_solid d ?_⟩
    exact proper.wholeDigits d (whole ▸ List.mem_cons_self)

theorem numeral_scans (n : Numeral) (rest : List Char) (ts : List Json.Token) (proper : n.Proper) (stops : Stops rest)
    (scans : Scans rest ts) : Scans (n.text ++ rest) (.number n :: ts) := by
  have next := next_numeral n rest proper stops
  obtain ⟨c, shown, text, solid⟩ := numeral_text_start n proper
  rw [text] at next ⊢
  exact .token c shown rest _ ts solid next scans

theorem string_scans (text : Option String) (rest : List Char) (ts : List Json.Token) (scans : Scans rest ts) :
    Scans (Json.quoted text ++ rest) (.string text :: ts) := by
  have next := next_string text rest
  cases text with
  | none => exact .token '"' _ rest _ ts rfl next scans
  | some s => exact .token '"' _ rest _ ts rfl next scans

theorem separated_cons (separator part : List Char) (parts : List (List Char)) :
    Json.separated separator (part :: parts) = part ++ parts.flatMap (separator ++ ·) := by
  induction parts generalizing part with
  | nil => simp [Json.separated]
  | cons next parts ih =>
    rw [Json.separated, ih next]
    · simp
    · exact nofun

theorem enclosed_cons (layout : Layout) (first last : Char) (part : List Char) (parts : List (List Char)) :
    layout.enclosed first last (part :: parts) = first :: (layout.inner.newline ++
      (part ++ (parts.flatMap ((',' :: layout.inner.newline) ++ ·) ++ (layout.newline ++ [last])))) := by
  rw [Layout.enclosed, separated_cons]
  · simp
  · exact nofun

theorem newline_stops (layout : Layout) (c : Char) (rest : List Char) (stops : Stops (c :: rest)) :
    Stops (layout.newline ++ c :: rest) := by
  cases layout with
  | compact => exact stops
  | indented level =>
    intro d first
    rw [← Option.mem_some_iff.mp first]
    decide

theorem parts_stop (separator : List Char) (parts : List (List Char)) (rest : List Char) (stops : Stops rest) :
    Stops (parts.flatMap ((',' :: separator) ++ ·) ++ rest) := by
  cases parts with
  | nil => exact stops
  | cons part parts =>
    intro d first
    rw [← Option.mem_some_iff.mp first]
    decide

theorem mark_stops (c : Char) (rest : List Char) (mark : c = ',' ∨ c = ']' ∨ c = '\x7d') : Stops (c :: rest) := by
  intro d first
  rw [← Option.mem_some_iff.mp first]
  rcases mark with rfl | rfl | rfl <;> decide

mutual

theorem print_scans (layout : Layout) (json : Json) (proper : json.Proper) (rest : List Char) (ts : List Json.Token)
    (stops : Stops rest) (scans : Scans rest ts) : Scans (json.print layout ++ rest) (json.tokens ++ ts) := by
  match json with
  | .null => exact .token 'n' _ rest .null ts rfl rfl scans
  | .bool true => exact .token 't' _ rest (.bool true) ts rfl rfl scans
  | .bool false => exact .token 'f' _ rest (.bool false) ts rfl rfl scans
  | .number n =>
      rw [Proper] at proper
      exact numeral_scans n rest ts proper stops scans
  | .string text => exact string_scans text rest ts scans
  | .array [] => exact mark_scans '[' .openBracket _ _ rfl rfl (mark_scans ']' .closeBracket rest ts rfl rfl scans)
  | .array (item :: items) =>
      rw [Proper, ProperItems] at proper
      have closed := mark_scans ']' .closeBracket rest ts rfl rfl scans
      have ended := newline_scans layout _ _ closed
      have stopped := newline_stops layout ']' rest (mark_stops ']' rest (by simp))
      have further := further_items_scan layout.inner items proper.2 _ _ stopped ended
      have first := print_scans layout.inner item proper.1 _ _ (parts_stop _ _ _ stopped) further
      have broken := newline_scans layout.inner _ _ first
      have opened := mark_scans '[' .openBracket _ _ rfl rfl broken
      rw [Json.print, Json.printItems, enclosed_cons, Json.tokens]
      simpa using opened
  | .object [] => exact mark_scans '\x7b' .openBrace _ _ rfl rfl (mark_scans '\x7d' .closeBrace rest ts rfl rfl scans)
  | .object ((name, value) :: members) =>
      rw [Proper, ProperMembers] at proper
      have closed := mark_scans '\x7d' .closeBrace rest ts rfl rfl scans
      have ended := newline_scans layout _ _ closed
      have stopped := newline_stops layout '\x7d' rest (mark_stops '\x7d' rest (by simp))
      have further := further_members_scan layout.inner members proper.2 _ _ stopped ended
      have first := print_scans layout.inner value proper.1 _ _ (parts_stop _ _ _ stopped) further
      have named := string_scans name _ _ (colon_scans layout.inner _ _ first)
      have broken := newline_scans layout.inner _ _ named
      have opened := mark_scans '\x7b' .openBrace _ _ rfl rfl broken
      rw [Json.print, Json.printMembers, enclosed_cons, Json.tokens]
      simpa using opened

theorem further_items_scan (layout : Layout) (items : List Json) (proper : ProperItems items) (rest : List Char)
    (ts : List Json.Token) (stops : Stops rest) (scans : Scans rest ts) :
    Scans ((Json.printItems layout items).flatMap ((',' :: layout.newline) ++ ·) ++ rest)
      (furtherItems items ++ ts) := by
  match items with
  | [] => exact scans
  | item :: items =>
      rw [ProperItems] at proper
      have further := further_items_scan layout items proper.2 rest ts stops scans
      have next := print_scans layout item proper.1 _ _ (parts_stop _ _ _ stops) further
      have separated := mark_scans ',' .comma _ _ rfl rfl (newline_scans layout _ _ next)
      rw [Json.printItems, furtherItems]
      simpa using separated

theorem further_members_scan (layout : Layout) (members : List (Option String × Json)) (proper : ProperMembers members)
    (rest : List Char) (ts : List Json.Token) (stops : Stops rest) (scans : Scans rest ts) :
    Scans ((Json.printMembers layout members).flatMap ((',' :: layout.newline) ++ ·) ++ rest)
      (furtherMembers members ++ ts) := by
  match members with
  | [] => exact scans
  | (name, value) :: members =>
      rw [ProperMembers] at proper
      have further := further_members_scan layout members proper.2 rest ts stops scans
      have next := print_scans layout value proper.1 _ _ (parts_stop _ _ _ stops) further
      have named := string_scans name _ _ (colon_scans layout _ _ next)
      have separated := mark_scans ',' .comma _ _ rfl rfl (newline_scans layout _ _ named)
      rw [Json.printMembers, furtherMembers]
      simpa using separated

end

theorem parse_print (layout : Layout) (json : Json) (proper : json.Proper) :
    Json.parse? (String.ofList (json.print layout)) = some json := by
  have scans := print_scans layout json proper [] [] (by simp [Stops]) .nil
  rw [List.append_nil, List.append_nil] at scans
  have scanned := scan_scans _ _ scans _ (Nat.le_refl _)
  simp [Json.parse?, Json.tokens?, scanned, of_tokens]

end PlanarLP
