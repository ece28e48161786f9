import PlanarLP.Candidate
import PlanarLP.Proofs.NumeralText

set_option autoImplicit false

namespace PlanarLP

def Limit.positions : Limit → List Nat
  | .constraint index => [index]
  | .bound => []

namespace Origin

def positions : Origin → List Nat
  | .intercept _ limit => limit.positions
  | .intersection i j => [i, j]

def firstLimit : Origin → Limit
  | .intercept _ limit => limit
  | .intersection i _ => .constraint i

def rest : Origin → String
  | .intercept .x _ => " x-axis intercept"
  | .intercept .y _ => " y-axis intercept"
  | .intersection _ j => " / " ++ positionLabel j ++ " intersection"

def mark : Origin → Char
  | .intercept .x _ => 'x'
  | .intercept .y _ => 'y'
  | .intersection _ _ => '/'

end Origin

section Cutting

variable (s t : String) (ends : NoDigit s.toList) (stops : NoDigit t.toList)

include ends stops

theorem numeral_cut (m n : Nat) (same : toString m ++ s = toString n ++ t) : m = n ∧ s = t := by
  have shown (k : Nat) : (toString k).toList = Decimal.numeral k := Nat.toList_repr
  rw [← String.toList_inj, String.toList_append, String.toList_append, shown, shown] at same
  have cut := congrArg Numeral.digits same
  rw [digits_append _ _ (numeral_digits m) ends, digits_append _ _ (numeral_digits n) stops, Prod.mk.injEq] at cut
  refine ⟨?_, String.toList_inj.mp cut.2⟩
  rw [← digits_value_numeral m, ← digits_value_numeral n, cut.1]

theorem position_cut (i j : Nat) (first : i < UInt64.size - 1) (second : j < UInt64.size - 1)
    (same : positionLabel i ++ s = positionLabel j ++ t) : i = j ∧ s = t := by
  simp only [positionLabel, String.append_assoc, String.append_right_inj] at same
  obtain ⟨numbers, remaining⟩ := numeral_cut s t ends stops _ _ same
  rw [Nat.mod_eq_of_lt (by omega), Nat.mod_eq_of_lt (by omega)] at numbers
  exact ⟨Nat.succ_inj.mp numbers, remaining⟩

theorem limit_cut (l m : Limit) (first : ∀ i ∈ l.positions, i < UInt64.size - 1)
    (second : ∀ j ∈ m.positions, j < UInt64.size - 1) (same : l.label ++ s = m.label ++ t) : l = m ∧ s = t := by
  have apart (i : Nat) (u v : String) : positionLabel i ++ u ≠ "plot bound" ++ v := by
    intro equal
    have heads := congrArg (·.toList.head?) equal
    simp [positionLabel] at heads
  cases l with
  | constraint i =>
      cases m with
      | constraint j =>
          have cut := position_cut s t ends stops i j (first i List.mem_cons_self) (second j List.mem_cons_self) same
          exact cut.imp_left (congrArg Limit.constraint)
      | bound => exact absurd same (apart i s t)
  | bound =>
      cases m with
      | constraint j => exact absurd same.symm (apart j t s)
      | bound => exact ⟨rfl, (String.append_right_inj _).mp same⟩

end Cutting

-- No digit follows the position of the first limit, so labels can be cut behind it.
theorem label_parts (o : Origin) : o.label = o.firstLimit.label ++ o.rest := by
  cases o with
  | intercept axis limit => cases axis <;> rfl
  | intersection i j => simp only [Origin.label, Origin.firstLimit, Origin.rest, Limit.label, String.append_assoc]

theorem first_limit_positions (o : Origin) : ∀ i ∈ o.firstLimit.positions, i ∈ o.positions := by
  cases o with
  | intercept axis limit => exact fun _ => id
  | intersection i j =>
      intro k member
      rw [List.mem_singleton.mp member]
      exact List.mem_cons_self

theorem rest_start (o : Origin) : o.rest.toList.take 2 = [' ', o.mark] := by
  cases o with
  | intercept axis limit => cases axis <;> simp [Origin.rest, Origin.mark]
  | intersection i j => simp [Origin.rest, Origin.mark]

theorem rest_ends (o : Origin) : NoDigit o.rest.toList := by
  have blank : o.rest.toList.head? = some ' ' := by
    simpa [List.head?_take] using congrArg List.head? (rest_start o)
  intro c head
  cases blank.symm.trans head
  rfl

theorem rest_marks (p q : Origin) (same : p.rest = q.rest) : p.mark = q.mark := by
  simpa [rest_start] using congrArg (·.toList.take 2) same

section Identity

variable (p q : Origin) (first : ∀ i ∈ p.positions, i < UInt64.size - 1)
  (second : ∀ i ∈ q.positions, i < UInt64.size - 1)

include first second

theorem label_parts_same (same : p.label = q.label) : p.firstLimit = q.firstLimit ∧ p.rest = q.rest := by
  rw [label_parts, label_parts] at same
  exact limit_cut _ _ (rest_ends p) (rest_ends q) _ _ (fun i member => first i (first_limit_positions p i member))
    (fun i member => second i (first_limit_positions q i member)) same

-- The marks settle the kind and the axis, so only crossings of two constraints have more to be read.
theorem parts_identify (limits : p.firstLimit = q.firstLimit) (same : p.rest = q.rest) : p = q := by
  have marks := rest_marks p q same
  cases p with
  | intercept axis limit =>
      cases q with
      | intercept other _ =>
          obtain rfl : axis = other := by cases axis <;> cases other <;> simp [Origin.mark] at marks ⊢
          exact congrArg (Origin.intercept axis) limits
      | intersection k l => cases axis <;> cases marks
  | intersection i j =>
      cases q with
      | intercept axis limit => cases axis <;> cases marks
      | intersection k l =>
          simp only [Origin.rest, String.append_assoc, String.append_right_inj] at same
          have last : j = l := (position_cut _ _ (by simp [NoDigit]) (by simp [NoDigit]) j l
            (first j (by simp [Origin.positions])) (second l (by simp [Origin.positions])) same).1
          rw [Limit.constraint.inj limits, last]

end Identity

theorem labels_identify (p q : Origin) (first : ∀ i ∈ p.positions, i < UInt64.size - 1)
    (second : ∀ i ∈ q.positions, i < UInt64.size - 1) : p.label = q.label ↔ p = q := by
  constructor
  · intro same
    obtain ⟨limits, remaining⟩ := label_parts_same p q first second same
    exact parts_identify p q first second limits remaining
  · exact congrArg Origin.label

theorem labels_identify_highest_number :
    let p := Origin.intercept .x (.constraint (UInt64.size - 2))
    let q := Origin.intersection (UInt64.size - 2) 0
    (∀ i ∈ p.positions, i < UInt64.size - 1) ∧ (∀ i ∈ q.positions, i < UInt64.size - 1) ∧ p.label ≠ q.label := by
  intro p q
  have first : ∀ i ∈ p.positions, i < UInt64.size - 1 := by decide
  have second : ∀ i ∈ q.positions, i < UInt64.size - 1 := by decide
  exact ⟨first, second, fun same => nomatch (labels_identify p q first second).mp same⟩

end PlanarLP
