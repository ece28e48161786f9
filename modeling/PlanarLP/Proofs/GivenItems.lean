import PlanarLP.CommandLine.Arguments

set_option autoImplicit false

namespace PlanarLP

namespace CommandLine

def givenItems : List String → List Item
  | [] => []
  | argument :: rest =>
      match Command.ofName? argument with
      | some command => Item.ofArguments command.settings rest
      | none => givenItems rest

structure Draft.Reflects (draft : Draft) (items : List Item) : Prop where
  plotData : draft.plotData = true ↔ .plotData ∈ items
  format : ∀ format : Format, draft.format = some format ↔ .setting .format format.name ∈ items

end CommandLine

open CommandLine

theorem bind_ok_iff {ε α β : Type} (x : Except ε α) (k : α → Except ε β) (b : β) :
    (x >>= k) = .ok b ↔ ∃ a, x = .ok a ∧ k a = .ok b := by
  cases x with
  | error e => exact ⟨nofun, fun ⟨_, found, _⟩ => nomatch found⟩
  | ok a => exact ⟨fun read => ⟨a, rfl, read⟩, fun ⟨_, found, read⟩ => Except.ok.inj found ▸ read⟩

theorem draft_reflects_empty : Draft.Reflects {} [] := ⟨by simp, by simp⟩

theorem once_given {α : Type} (present value result : Option α) (given : once present value = .ok result) :
    present = none ∧ ∃ v, value = some v ∧ result = some v := by
  unfold once at given
  split at given
  · rename_i v
    exact ⟨rfl, v, rfl, (Except.ok.inj given).symm⟩
  · cases given

theorem read_format (text : String) (format : Format) (read : readFormat? text = some format) : text = format.name := by
  have named := List.find?_some read
  exact (eq_of_beq named).symm

theorem format_name_injective (first second : Format) (same : first.name = second.name) : first = second := by
  cases first <;> cases second <;> first | rfl | exact absurd same (by decide)

theorem reflects_other (draft next : Draft) (items : List Item) (item : Item) (reflects : draft.Reflects items)
    (plotData : next.plotData = draft.plotData) (format : next.format = draft.format)
    (other : item ≠ .plotData ∧ ∀ text, item ≠ .setting .format text) : next.Reflects (items ++ [item]) := by
  constructor
  · rw [plotData, reflects.plotData, List.mem_append, List.mem_singleton]
    exact ⟨.inl, fun given => given.resolve_right fun same => other.1 same.symm⟩
  · intro f
    rw [format, reflects.format f, List.mem_append, List.mem_singleton]
    exact ⟨.inl, fun given => given.resolve_right fun same => other.2 f.name same.symm⟩

theorem set_reflects (draft next : Draft) (items : List Item) (s : Setting) (text : String)
    (reflects : draft.Reflects items) (set : draft.set s text = .ok next) :
    next.Reflects (items ++ [.setting s text]) := by
  by_cases chosen : s = .format
  · subst chosen
    obtain ⟨result, given, made⟩ := (bind_ok_iff _ _ _).mp set
    obtain ⟨absent, f, read, rfl⟩ := once_given _ _ _ given
    obtain rfl := Except.ok.inj made
    constructor
    · simpa using reflects.plotData
    · intro g
      rw [List.mem_append, ← reflects.format g, absent, read_format text f read]
      simp only [List.mem_singleton, Item.setting.injEq, true_and, reduceCtorEq, false_or, Option.some.injEq]
      exact ⟨fun same => congrArg Format.name same.symm, fun same => (format_name_injective g f same).symm⟩
  · have kept : next.plotData = draft.plotData ∧ next.format = draft.format := by
      cases s with
      | format => exact absurd rfl chosen
      | _ =>
        obtain ⟨_, _, made⟩ := (bind_ok_iff _ _ _).mp set
        obtain rfl := Except.ok.inj made
        exact ⟨rfl, rfl⟩
    have other (format : String) : Item.setting s text ≠ .setting .format format := fun same =>
      chosen (Item.setting.inj same).1
    exact reflects_other draft next items _ reflects kept.1 kept.2 ⟨nofun, other⟩

theorem add_reflects (command : Command) (draft next : Draft) (items : List Item) (item : Item)
    (reflects : draft.Reflects items) (added : draft.add command item = .ok next) :
    next.Reflects (items ++ [item]) := by
  cases item with
  | setting s text => exact set_reflects draft next items s text reflects added
  | plotData =>
    rw [Draft.add] at added
    split at added
    · cases added
    · obtain rfl := Except.ok.inj added
      exact ⟨by simp, fun f => by simpa using reflects.format f⟩
  | verbose =>
    obtain rfl := Except.ok.inj added
    exact reflects_other draft _ items _ reflects rfl rfl ⟨nofun, nofun⟩
  | operand text =>
    rw [Draft.add] at added
    split at added
    · obtain ⟨_, _, made⟩ := (bind_ok_iff _ _ _).mp added
      obtain rfl := Except.ok.inj made
      exact reflects_other draft _ items _ reflects rfl rfl ⟨nofun, nofun⟩
    · cases added
  | help => cases added
  | unknown => cases added

theorem draft_reflects (command : Command) (items given : List Item) (draft last : Draft)
    (reflects : draft.Reflects given) (run : items.foldlM (Draft.add command) draft = .ok last) :
    last.Reflects (given ++ items) := by
  induction items generalizing given draft with
  | nil =>
    obtain rfl := Except.ok.inj run
    simpa using reflects
  | cons item items ih =>
    rw [List.foldlM_cons, bind_ok_iff] at run
    obtain ⟨next, added, rest⟩ := run
    simpa using ih (given ++ [item]) next (add_reflects command draft next given item reflects added) rest

theorem parsed_from (args : List String) (verbosity : Nat) (arguments : Arguments)
    (accepted : Arguments.parseFrom verbosity args = .ok arguments) :
    ∃ draft command, (givenItems args).foldlM (Draft.add command) {} = .ok draft ∧
      draft.source? command = some arguments.source ∧ arguments.output = draft.output := by
  induction args generalizing verbosity with
  | nil => cases accepted
  | cons argument rest ih =>
    rw [Arguments.parseFrom] at accepted
    split at accepted
    · cases accepted
    · split at accepted
      · cases accepted
      · rw [givenItems]
        cases named : Command.ofName? argument with
        | some command =>
          rw [named] at accepted
          obtain ⟨draft, run, read⟩ := (bind_ok_iff _ _ _).mp accepted
          refine ⟨draft, command, run, ?_⟩
          cases source : draft.source? command with
          | none => simp [source] at read
          | some s =>
            simp only [source] at read
            obtain rfl := Except.ok.inj read
            exact ⟨rfl, rfl⟩
        | none =>
          rw [named] at accepted
          obtain ⟨more, _, read⟩ := (bind_ok_iff _ _ _).mp accepted
          exact ih _ read

theorem given_output (args : List String) (arguments : Arguments) (accepted : Arguments.parse args = .ok arguments) :
    (arguments.output.plotData = true ↔ .plotData ∈ givenItems args) ∧
      (arguments.output.format = .json ↔ .setting .format "json" ∈ givenItems args) := by
  obtain ⟨draft, command, run, _, output⟩ := parsed_from args 0 arguments accepted
  have reflects := draft_reflects command _ [] {} draft draft_reflects_empty run
  rw [List.nil_append] at reflects
  rw [output]
  refine ⟨reflects.plotData, ?_⟩
  rw [← Format.name, ← reflects.format .json]
  cases given : draft.format with
  | none => simp [Draft.output, given]
  | some f => simp [Draft.output, given]

end PlanarLP
