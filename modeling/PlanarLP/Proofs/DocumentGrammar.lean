import PlanarLP.Proofs.DocumentText
import PlanarLP.Proofs.LocalReaders

set_option autoImplicit false

namespace PlanarLP

namespace Json

def Spelling (t : Token) (shown : List Char) : Prop := Token.next? shown = some (t, [])

inductive Spells : List Char → List Token → Prop
  | nil : Spells [] []
  | blank (c : Char) (rest : List Char) (ts : List Token) : isBlank c = true → Spells rest ts → Spells (c :: rest) ts
  | token (shown rest : List Char) (t : Token) (ts : List Token) : Spelling t shown → Spells rest ts →
      Spells (shown ++ rest) (t :: ts)

def Writes (json : Json) (text : String) : Prop := Spells text.toList json.tokens

namespace Token

def Closes (t : Token) : Prop := t = .comma ∨ t = .closeBracket ∨ t = .closeBrace

instance (t : Token) : Decidable (Closes t) := inferInstanceAs (Decidable (_ ∨ _))

def Followed : List Token → Prop
  | [] => True
  | t :: ts => (∀ n, t = .number n → ∀ u ∈ ts.head?, Closes u) ∧ Followed ts

end Token

end Json

open Json (Scans Spelling Spells Writes tokens furtherItems furtherMembers)
open Json.Token (Closes Followed next? number? value? items? members?)

section Spellings

theorem solid_start (t : Json.Token) (shown : List Char) (spelling : Spelling t shown) :
    ∃ c rest, shown = c :: rest ∧ Json.isBlank c = false := by
  rcases next_cases shown t [] spelling with ⟨word, listed, rfl⟩ | ⟨body, _, rfl, -, -⟩ | ⟨body, rfl, -⟩ | given
  · have starts : ∀ entry ∈ Json.Token.fixed, entry.1.head?.map Json.isBlank = some false := by decide
    obtain ⟨c, first, solid⟩ := Option.map_eq_some_iff.mp (starts (word, t) listed)
    obtain ⟨rest, rfl⟩ := List.head?_eq_some_iff.mp first
    exact ⟨c, rest ++ [], rfl, solid⟩
  · exact ⟨'"', body, rfl, rfl⟩
  · exact ⟨'-', body, rfl, rfl⟩
  · obtain ⟨c, digits, rfl, digit⟩ := unsigned_digit shown t [] given
    exact ⟨c, digits, rfl, digit_solid c digit⟩

theorem ends_cons (c : Char) (rest : List Char) (other : c.isDigit = false ∧ c ∉ ['.', 'e', 'E', '-', '+']) :
    Ends (c :: rest) := by
  intro d first
  rwa [← Option.mem_some_iff.mp first]

theorem closing_ends (t : Json.Token) (shown rest : List Char) (closes : Closes t) (spelling : Spelling t shown) :
    Ends (shown ++ rest) := by
  have marks : ∀ entry ∈ Json.Token.fixed, Closes entry.2 →
      entry.1 = [','] ∨ entry.1 = [']'] ∨ entry.1 = ['\x7d'] := by decide
  have unnumbered (n : Numeral) : t ≠ .number n := by
    rintro rfl
    exact absurd closes (by rintro (same | same | same) <;> cases same)
  rcases next_cases shown t [] spelling with ⟨word, listed, rfl⟩ | ⟨_, _, -, -, rfl⟩ | ⟨body, rfl, given⟩ | given
  · rw [List.append_nil]
    rcases marks (word, t) listed closes with rfl | rfl | rfl <;> exact ends_cons _ rest (by decide)
  · rcases closes with same | same | same <;> cases same
  · obtain ⟨n, number⟩ := number_token true body t [] given
    exact absurd number (unnumbered n)
  · obtain ⟨n, number⟩ := number_token false shown t [] given
    exact absurd number (unnumbered n)

theorem blank_ends (c : Char) (rest : List Char) (blank : Json.isBlank c = true) : Ends (c :: rest) := by
  simp only [Json.isBlank, Bool.or_eq_true, beq_iff_eq] at blank
  rcases blank with ((rfl | rfl) | rfl) | rfl <;> exact ends_cons _ rest (by decide)

theorem spells_ends (rest : List Char) (ts : List Json.Token) (spells : Spells rest ts)
    (closed : ∀ t ∈ ts.head?, Closes t) : Ends rest := by
  cases spells with
  | nil => exact nofun
  | blank c rest _ blank _ => exact blank_ends c rest blank
  | token shown rest t _ spelling _ => exact closing_ends t shown rest (closed t rfl) spelling

end Spellings

section Scanning

theorem spells_scans (text : List Char) (ts : List Json.Token) (spells : Spells text ts) (followed : Followed ts) :
    Scans text ts := by
  induction spells with
  | nil => exact .nil
  | blank c rest ts blank _ ih => exact .blank c rest ts blank (ih followed)
  | token shown rest t ts spelling later ih =>
      have next := next_extended shown t rest spelling fun n number =>
        spells_ends rest ts later (followed.1 n number)
      obtain ⟨c, more, rfl, solid⟩ := solid_start t shown spelling
      exact .token c more rest t ts solid next (ih followed.2)

theorem scan_spells (fuel : Nat) (text : List Char) (ts : List Json.Token)
    (scanned : Json.Token.scan? fuel text = some ts) : Spells text ts := by
  induction fuel generalizing text ts with
  | zero =>
      cases text with
      | nil => cases scanned; exact .nil
      | cons c rest => exact nomatch scanned
  | succ fuel ih =>
      cases text with
      | nil => cases scanned; exact .nil
      | cons c rest =>
          rw [Json.Token.scan?] at scanned
          split at scanned
          · rename_i blank
            exact .blank c rest ts blank (ih rest ts scanned)
          · obtain ⟨⟨t, left⟩, next, later⟩ := Option.bind_eq_some_iff.mp scanned
            obtain ⟨more, others, same⟩ := Option.bind_eq_some_iff.mp later
            obtain ⟨⟩ := same
            obtain ⟨shown, split, spelling⟩ := next_taken (c :: rest) t left next
            rw [split]
            exact .token shown left t more spelling (ih left more others)

end Scanning

section Documents

theorem closed_cons (t : Json.Token) (ts : List Json.Token) (closes : Closes t) : ∀ u ∈ (t :: ts).head?, Closes u := by
  intro u first
  rwa [← Option.mem_some_iff.mp first]

mutual

theorem tokens_followed (json : Json) (ts : List Json.Token) (closed : ∀ t ∈ ts.head?, Closes t)
    (followed : Followed ts) : Followed (json.tokens ++ ts) := by
  match json with
  | .null | .bool _ | .string _ => exact ⟨nofun, followed⟩
  | .number n => exact ⟨fun _ _ => closed, followed⟩
  | .array [] | .object [] => exact ⟨nofun, nofun, followed⟩
  | .array (item :: items) =>
      have close := closed_cons .closeBracket ts (by decide)
      obtain ⟨begins, further⟩ := further_items_followed items (.closeBracket :: ts) close ⟨nofun, followed⟩
      rw [tokens]
      simp only [List.cons_append, List.append_assoc, List.nil_append]
      exact ⟨nofun, tokens_followed item _ begins further⟩
  | .object ((name, value) :: members) =>
      have close := closed_cons .closeBrace ts (by decide)
      obtain ⟨begins, further⟩ := further_members_followed members (.closeBrace :: ts) close ⟨nofun, followed⟩
      rw [tokens]
      simp only [List.cons_append, List.append_assoc, List.nil_append]
      exact ⟨nofun, nofun, nofun, tokens_followed value _ begins further⟩

theorem further_items_followed (items : List Json) (ts : List Json.Token) (closed : ∀ t ∈ ts.head?, Closes t)
    (followed : Followed ts) :
    (∀ t ∈ (furtherItems items ++ ts).head?, Closes t) ∧ Followed (furtherItems items ++ ts) := by
  match items with
  | [] => exact ⟨closed, followed⟩
  | item :: items =>
      obtain ⟨begins, further⟩ := further_items_followed items ts closed followed
      rw [furtherItems]
      simp only [List.cons_append, List.append_assoc]
      exact ⟨closed_cons .comma _ (by decide), nofun, tokens_followed item _ begins further⟩

theorem further_members_followed (members : List (Option String × Json)) (ts : List Json.Token)
    (closed : ∀ t ∈ ts.head?, Closes t) (followed : Followed ts) :
    (∀ t ∈ (furtherMembers members ++ ts).head?, Closes t) ∧ Followed (furtherMembers members ++ ts) := by
  match members with
  | [] => exact ⟨closed, followed⟩
  | (name, value) :: members =>
      obtain ⟨begins, further⟩ := further_members_followed members ts closed followed
      rw [furtherMembers]
      simp only [List.cons_append, List.append_assoc]
      exact ⟨closed_cons .comma _ (by decide), nofun, nofun, nofun, tokens_followed value _ begins further⟩

end

structure ReadsTokens (fuel : Nat) : Prop where
  value : ∀ ts json rest, value? fuel ts = some (json, rest) → ts = json.tokens ++ rest
  items : ∀ ts items rest, items? fuel ts = some (items, rest) → ∃ item others, items = item :: others ∧
    ts = item.tokens ++ (furtherItems others ++ .closeBracket :: rest)
  members : ∀ ts members rest, members? fuel ts = some (members, rest) → ∃ name value others,
    members = (name, value) :: others ∧
      ts = .string name :: .colon :: (value.tokens ++ (furtherMembers others ++ .closeBrace :: rest))

section Step

variable (fuel : Nat) (below : ReadsTokens fuel) (ts rest : List Json.Token)
include below

theorem value_step (json : Json) (read : value? (fuel + 1) ts = some (json, rest)) : ts = json.tokens ++ rest := by
  unfold value? at read
  split at read
  · cases read; rfl
  · cases read; rfl
  · cases read; rfl
  · cases read; rfl
  · cases read; rfl
  · obtain ⟨⟨items, left⟩, inner, same⟩ := Option.map_eq_some_iff.mp read
    obtain ⟨⟩ := same
    obtain ⟨item, others, rfl, rfl⟩ := below.items _ _ _ inner
    simp [tokens]
  · cases read; rfl
  · obtain ⟨⟨members, left⟩, inner, same⟩ := Option.map_eq_some_iff.mp read
    obtain ⟨⟩ := same
    obtain ⟨name, value, others, rfl, rfl⟩ := below.members _ _ _ inner
    simp [tokens]
  · cases read

theorem items_step (items : List Json) (read : items? (fuel + 1) ts = some (items, rest)) :
    ∃ item others, items = item :: others ∧ ts = item.tokens ++ (furtherItems others ++ .closeBracket :: rest) := by
  rw [items?] at read
  obtain ⟨⟨item, left⟩, first, later⟩ := Option.bind_eq_some_iff.mp read
  have start := below.value _ _ _ first
  dsimp only at later
  split at later
  · obtain ⟨⟨more, final⟩, inner, same⟩ := Option.map_eq_some_iff.mp later
    obtain ⟨⟩ := same
    obtain ⟨next, others, rfl, rfl⟩ := below.items _ _ _ inner
    exact ⟨item, next :: others, rfl, by simp [start, furtherItems]⟩
  · obtain ⟨⟩ := later
    exact ⟨item, [], rfl, start⟩
  · cases later

theorem members_step (members : List (Option String × Json))
    (read : members? (fuel + 1) ts = some (members, rest)) :
    ∃ name value others, members = (name, value) :: others ∧
      ts = .string name :: .colon :: (value.tokens ++ (furtherMembers others ++ .closeBrace :: rest)) := by
  unfold members? at read
  split at read
  · rename_i name behind
    obtain ⟨⟨value, left⟩, first, later⟩ := Option.bind_eq_some_iff.mp read
    have start := below.value _ _ _ first
    dsimp only at later
    split at later
    · obtain ⟨⟨more, final⟩, inner, same⟩ := Option.map_eq_some_iff.mp later
      obtain ⟨⟩ := same
      obtain ⟨next, other, others, rfl, rfl⟩ := below.members _ _ _ inner
      exact ⟨name, value, (next, other) :: others, rfl, by simp [start, furtherMembers]⟩
    · obtain ⟨⟩ := later
      exact ⟨name, value, [], rfl, congrArg (fun l => .string name :: .colon :: l) start⟩
    · cases later
  · cases read

end Step

theorem reads_tokens (fuel : Nat) : ReadsTokens fuel := by
  induction fuel with
  | zero => exact ⟨nofun, nofun, nofun⟩
  | succ fuel ih =>
      exact ⟨fun ts json rest => value_step fuel ih ts rest json,
        fun ts items rest => items_step fuel ih ts rest items,
        fun ts members rest => members_step fuel ih ts rest members⟩

theorem of_tokens_iff (ts : List Json.Token) (json : Json) : Json.ofTokens? ts = some json ↔ ts = json.tokens := by
  constructor
  · intro read
    unfold Json.ofTokens? at read
    split at read
    · rename_i whole found
      obtain ⟨⟩ := read
      exact ((reads_tokens _).value _ _ _ found).trans (List.append_nil _)
    · exact nomatch read
  · rintro rfl
    exact of_tokens json

theorem parse_tokens (text : String) (json : Json) :
    Json.parse? text = some json ↔ Json.tokens? text.toList = some json.tokens := by
  unfold Json.parse?
  simp only [Option.bind_eq_some_iff, of_tokens_iff, exists_eq_right]

theorem parse_iff (text : String) (json : Json) : Json.parse? text = some json ↔ Writes json text := by
  rw [parse_tokens]
  constructor
  · exact scan_spells _ _ _
  · intro spells
    have followed := tokens_followed json [] nofun trivial
    rw [List.append_nil] at followed
    exact scan_scans _ _ (spells_scans _ _ spells followed) _ (Nat.le_refl _)

end Documents

end PlanarLP
