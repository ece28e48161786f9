import PlanarLP.Proofs.CarriedForms

set_option autoImplicit false

namespace PlanarLP

namespace Json

variable {α : Type} [Form α]

def written (layout : Layout) (value : α) : String := String.ofList ((Form.write value).print layout)

def readText? (text : String) : Option α := (parse? text).bind Form.read?

def Numbers.Finite (numbers : Numbers) : Prop := numbers.All fun x => x.isFinite = true

instance (numbers : Numbers) : Decidable numbers.Finite := inferInstanceAs (Decidable (numbers.All _))

structure RoundTrips (value : α) (numbers : Numbers) : Prop where
  recovered : numbers.Finite → ∀ layout, readText? (written layout value) = some value
  null : ∀ path x, (path, x) ∈ numbers → x.isFinite = false →
    ∀ layout, (parse? (written layout value)).bind (·.at? path) = some .null
  refused : ¬ numbers.Finite → ∀ layout, (readText? (written layout value) : Option α) = none

end Json

open Json (Carries Form Layout Numbers ReadsBack RoundTrips)

theorem carried_round_trips {α : Type} [Form α] {value : α} {numbers : Numbers} {indices : List Nat}
    (carries : Carries Form.read? (Form.write value) value numbers indices) (fits : ∀ i ∈ indices, i < UInt64.size)
    (back : numbers.All fun x => x.isFinite = true → ReadsBack x) : RoundTrips value numbers := by
  have parsed (layout : Layout) : Json.parse? (Json.written layout value) = some (Form.write value) :=
    parse_print layout _ carries.proper
  have reads (layout : Layout) :
      (Json.readText? (Json.written layout value) : Option α) = Form.read? (Form.write value) := by
    rw [Json.readText?, parsed]
    rfl
  constructor
  · intro finite layout
    rw [reads]
    exact carries.recovered fits fun place member => back place member (finite place member)
  · intro path x member infinite layout
    rw [parsed, ← infinite_written x infinite]
    exact carries.placed path x member
  · intro infinite layout
    rw [reads, Option.eq_none_iff_forall_ne_some]
    exact fun w read => infinite (carries.finite w read)

theorem forms_round_trip (s : Solution Float) (plot : Plot Float) (fits : ∀ i ∈ s.indices, i < UInt64.size)
    (back : Numbers.All (s.numbers ++ plot.numbers) fun x => x.isFinite = true → ReadsBack x) :
    RoundTrips s s.numbers ∧ RoundTrips plot plot.numbers := by
  rw [all_append] at back
  exact ⟨carried_round_trips (solution_carried s) fits back.1, carried_round_trips (plot_carried plot) nofun back.2⟩

def strayed : Solution Float where
  status := .infeasible
  vertices := [⟨⟨0.5, -0.0⟩, 1e300, .intersection 0 18446744073709551615⟩, ⟨⟨-2.5, 7⟩, -0.0, .intercept .x .bound⟩,
    ⟨⟨0, 0.1⟩, 3, .intercept .y (.constraint 4)⟩]
  maximum := some ⟨7, ⟨-0.0, 1e-7⟩, 12⟩
  minimum := none

def overflown : Plot Float where
  bounds := ⟨10, 10⟩
  boundaries := [⟨[⟨0, 1⟩, ⟨10, 1 / 0⟩]⟩]
  band := [⟨0, -0.0, 2⟩]
  isolines := [⟨0 / 0, ⟨[]⟩⟩]
  optimalLines := []
  vertices := [⟨1, 2⟩]
  maximum := none
  minimum := some ⟨1, 2⟩

theorem forms_round_trip_strayed_overflown :
    (∀ layout, Json.readText? (Json.written layout strayed) = some strayed) ∧
      (∀ layout, (Json.parse? (Json.written layout overflown)).bind
        (·.at? [.member "constraint_lines", .item 0, .member "points", .item 1, .member "y"]) = some .null) ∧
      ∀ layout, (Json.readText? (Json.written layout overflown) : Option (Plot Float)) = none := by
  obtain ⟨solution, plot⟩ := forms_round_trip strayed overflown (by decide) (by decide +kernel)
  have endless : overflown.numbers[5]? = some
      ([.member "constraint_lines", .item 0, .member "points", .item 1, .member "y"], 1 / 0) := by decide +kernel
  exact ⟨solution.recovered (by decide +kernel),
    plot.null _ _ (List.mem_of_getElem? endless) (by decide +kernel), plot.refused (by decide +kernel)⟩

end PlanarLP
