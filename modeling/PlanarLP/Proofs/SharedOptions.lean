import PlanarLP.CommandLine.Arguments
import PlanarLP.Forms

set_option autoImplicit false

namespace PlanarLP

namespace CommandLine

def Setting.shared : List Setting := [.format, .samples]

def Setting.own : List Setting := [.first, .second, .objective, .xMax, .yMax]

def Item.Shared : Item → Prop
  | .setting s _ => s ∈ Setting.shared
  | _ => True

namespace Draft

def withNumbers (file : ProblemFile) (draft : Draft) : Draft :=
  { draft with
    first := some file.first.boundary
    second := some file.second.boundary
    objective := some file.objective
    xMax := some file.bounds.xMax
    yMax := some file.bounds.yMax }

def withFile (path : String) (draft : Draft) : Draft := { draft with file := some path }

end Draft

def Agree (mode : Mode) (file : ProblemFile) (path : String) (items others : List Item) : Prop :=
  ∀ draft : Draft, ∃ result : Except Refusal Draft,
    items.foldlM (Draft.add (.mode mode)) (draft.withNumbers file) = result.map (·.withNumbers file) ∧
      others.foldlM (Draft.add .solve) (draft.withFile path) = result.map (·.withFile path)

-- How one argument reads for a mode and for `solve`.
inductive Parallel : List Item × Option Setting → List Item × Option Setting → Prop
  | same (items : List Item) (waiting : Option Setting) (shared : ∀ item ∈ items, item.Shared)
      (awaited : ∀ s ∈ waiting, s ∈ Setting.shared) : Parallel (items, waiting) (items, waiting)
  | given (s : Setting) (value : String) (own : s ∈ Setting.own) :
      Parallel ([.setting s value], none) ([.unknown], none)
  | awaited (s : Setting) (own : s ∈ Setting.own) : Parallel ([], some s) ([.unknown], none)

end CommandLine

open CommandLine

section Drafts

variable {mode : Mode} {file : ProblemFile} {path : String}

theorem add_shared (draft : Draft) (item : Item) (shared : item.Shared) : ∃ result : Except Refusal Draft,
    Draft.add (.mode mode) (draft.withNumbers file) item = result.map (·.withNumbers file) ∧
      Draft.add .solve (draft.withFile path) item = result.map (·.withFile path) := by
  cases item with
  | setting s text =>
    refine ⟨draft.set s text, ?_⟩
    simp only [Item.Shared, Setting.shared, List.mem_cons, List.not_mem_nil, or_false] at shared
    rcases shared with rfl | rfl
    · simp only [Draft.add, Draft.set, Draft.withNumbers, Draft.withFile]
      cases once draft.format (readFormat? text) <;> exact ⟨rfl, rfl⟩
    · simp only [Draft.add, Draft.set, Draft.withNumbers, Draft.withFile]
      cases once draft.samples (readSamples? text) <;> exact ⟨rfl, rfl⟩
  | plotData =>
    by_cases present : draft.plotData = true
    · exact ⟨.error .usage, if_pos present, if_pos present⟩
    · exact ⟨.ok { draft with plotData := true }, if_neg present, if_neg present⟩
  | verbose => exact ⟨.ok { draft with verbosity := draft.verbosity + 1 }, rfl, rfl⟩
  | help => exact ⟨.error .help, rfl, rfl⟩
  | operand text =>
    refine ⟨.error .usage, by simp [Draft.add, Except.map], ?_⟩
    rw [Draft.add]
    split <;> rfl
  | unknown => exact ⟨.error .usage, rfl, rfl⟩

theorem own_refused (draft : Draft) (s : Setting) (value : String) (own : s ∈ Setting.own) :
    Draft.add (.mode mode) (draft.withNumbers file) (.setting s value) = .error .usage := by
  simp only [Setting.own, List.mem_cons, List.not_mem_nil, or_false] at own
  rcases own with rfl | rfl | rfl | rfl | rfl <;> rfl

theorem agree_nil : Agree mode file path [] [] := fun draft => ⟨.ok draft, rfl, rfl⟩

theorem agree_append (items : List Item) (shared : ∀ item ∈ items, item.Shared) (rest others : List Item)
    (agree : Agree mode file path rest others) : Agree mode file path (items ++ rest) (items ++ others) := by
  induction items with
  | nil => exact agree
  | cons item items ih =>
    intro draft
    obtain ⟨result, first, second⟩ := add_shared draft item (shared item List.mem_cons_self)
    have following := ih fun later member => shared later (List.mem_cons_of_mem item member)
    cases result with
    | error refusal =>
      refine ⟨.error refusal, ?_⟩
      rw [List.cons_append, List.cons_append, List.foldlM_cons, List.foldlM_cons, first, second]
      exact ⟨rfl, rfl⟩
    | ok next =>
      rw [List.cons_append, List.cons_append, List.foldlM_cons, List.foldlM_cons, first, second]
      exact following next

theorem agree_refused (item other : Item) (rest others : List Item)
    (first : ∀ draft : Draft, Draft.add (.mode mode) (draft.withNumbers file) item = .error .usage)
    (second : ∀ draft : Draft, Draft.add .solve (draft.withFile path) other = .error .usage) :
    Agree mode file path (item :: rest) (other :: others) := by
  intro draft
  refine ⟨.error .usage, ?_⟩
  rw [List.foldlM_cons, List.foldlM_cons, first, second]
  exact ⟨rfl, rfl⟩

end Drafts

theorem bundle_same (mode : Mode) (cs : List Char) :
    Item.bundle (Command.mode mode).settings cs = Item.bundle Command.solve.settings cs := by
  have format (command : Command) : .format ∈ command.settings := by
    cases command <;> simp [Command.settings]
  induction cs with
  | nil => rfl
  | cons c rest ih => simp only [Item.bundle, ih, format]

theorem bundle_shared (settings : List Setting) (cs : List Char) :
    (∀ item ∈ (Item.bundle settings cs).1, item.Shared) ∧ ∀ s ∈ (Item.bundle settings cs).2, s ∈ Setting.shared := by
  induction cs with
  | nil => exact ⟨nofun, nofun⟩
  | cons c rest ih =>
    unfold Item.bundle
    split
    · exact ⟨List.forall_mem_cons.mpr ⟨trivial, ih.1⟩, ih.2⟩
    split
    · exact ⟨List.forall_mem_cons.mpr ⟨trivial, ih.1⟩, ih.2⟩
    split
    · have format : Setting.format ∈ Setting.shared := by decide
      split
      · exact ⟨nofun, fun s same => Option.some.inj same ▸ format⟩
      · exact ⟨List.forall_mem_singleton.mpr format, nofun⟩
      · exact ⟨List.forall_mem_singleton.mpr format, nofun⟩
    · exact ⟨List.forall_mem_singleton.mpr trivial, nofun⟩

theorem own_unknown (name : String) (s : Setting) (found : Setting.own.find? (·.name == name) = some s) :
    s ∈ Setting.own ∧ ∀ value, Item.long Command.solve.settings name value = ([.unknown], none) := by
  have own := List.mem_of_find?_eq_some found
  have named := List.find?_some found
  obtain rfl : s.name = name := eq_of_beq named
  refine ⟨own, fun value => ?_⟩
  cases s with
  | format | samples => exact absurd own (by decide)
  | _ => cases value <;> rfl

theorem long_own (mode : Mode) (name : String) (s : Setting) (found : Setting.own.find? (·.name == name) = some s)
    (value : Option String) : Item.long (Command.mode mode).settings name value =
      match value with
      | some value => ([.setting s value], none)
      | none => ([], some s) := by
  have settings : (Command.mode mode).settings = Setting.own ++ Setting.shared := rfl
  unfold Item.long
  rw [settings, List.find?_append, found]
  cases value <;> rfl

theorem long_same (mode : Mode) (name : String) (value : Option String)
    (absent : Setting.own.find? (·.name == name) = none) :
    Item.long (Command.mode mode).settings name value = Item.long Command.solve.settings name value := by
  have settings : (Command.mode mode).settings = Setting.own ++ Setting.shared := rfl
  have others : Setting.own ++ Setting.shared ≠ [] ∧ Setting.shared ≠ [] := by decide
  unfold Item.long
  rw [settings, List.find?_append, absent, Option.none_or]
  simp [Command.settings, Setting.shared]

theorem long_shared (name : String) (value : Option String) :
    (∀ item ∈ (Item.long Setting.shared name value).1, item.Shared) ∧
      ∀ s ∈ (Item.long Setting.shared name value).2, s ∈ Setting.shared := by
  unfold Item.long
  cases found : Setting.shared.find? (·.name == name) with
  | some s =>
    have shared := List.mem_of_find?_eq_some found
    cases value with
    | some value => exact ⟨List.forall_mem_singleton.mpr shared, nofun⟩
    | none => exact ⟨nofun, fun t same => Option.some.inj same ▸ shared⟩
  | none =>
    cases value with
    | some value => exact ⟨List.forall_mem_singleton.mpr trivial, nofun⟩
    | none =>
      dsimp only
      repeat' split
      all_goals exact ⟨List.forall_mem_singleton.mpr trivial, nofun⟩

theorem same_parallel (pair : List Item × Option Setting) (shared : ∀ item ∈ pair.1, item.Shared)
    (awaited : ∀ s ∈ pair.2, s ∈ Setting.shared) : Parallel pair pair := .same pair.1 pair.2 shared awaited

-- The two kinds of command know different options, so items are compared one argument at a
-- time: they are the same up to an item that both refuse.
theorem argument_parallel (mode : Mode) (argument : String) :
    Parallel (Item.ofArgument (Command.mode mode).settings argument)
      (Item.ofArgument Command.solve.settings argument) := by
  unfold Item.ofArgument
  split
  · rename_i rest _
    cases found : Setting.own.find? (·.name == (Item.nameAndValue rest).1) with
    | some s =>
      obtain ⟨own, unknown⟩ := own_unknown _ s found
      rw [long_own mode _ s found, unknown]
      split
      · exact .given s _ own
      · exact .awaited s own
    | none =>
      obtain ⟨shared, awaited⟩ := long_shared (Item.nameAndValue rest).1 (Item.nameAndValue rest).2
      rw [long_same mode _ _ found]
      exact same_parallel _ shared awaited
  · rename_i c rest _ _
    obtain ⟨shared, awaited⟩ := bundle_shared Command.solve.settings (c :: rest)
    rw [bundle_same]
    exact same_parallel _ shared awaited
  · exact .same _ _ (List.forall_mem_singleton.mpr trivial) nofun

section Arguments

variable {settings : List Setting} {argument : String} {items : List Item} {s : Setting}

theorem items_complete (plain : argument ≠ "--") (read : Item.ofArgument settings argument = (items, none))
    (rest : List String) :
    Item.ofArguments settings (argument :: rest) = items ++ Item.ofArguments settings rest := by
  rw [Item.ofArguments, if_neg plain, read]

theorem items_last (plain : argument ≠ "--") (read : Item.ofArgument settings argument = (items, some s)) :
    Item.ofArguments settings [argument] = items ++ [.unknown] := by
  rw [Item.ofArguments, if_neg plain, read]

theorem items_value (plain : argument ≠ "--") (read : Item.ofArgument settings argument = (items, some s))
    (value : String) (rest : List String) : Item.ofArguments settings (argument :: value :: rest) =
      items ++ if s.accepts value then .setting s value :: Item.ofArguments settings rest else [.unknown] := by
  rw [Item.ofArguments, if_neg plain, read]

theorem items_taken (plain : argument ≠ "--") (read : Item.ofArgument settings argument = ([], some s))
    (any : s.takesAny = true) (value : String) (rest : List String) :
    Item.ofArguments settings (argument :: value :: rest) = .setting s value :: Item.ofArguments settings rest := by
  have accepted : s.accepts value = true := by simp [Setting.accepts, any]
  rw [items_value plain read, List.nil_append, if_pos accepted]

end Arguments

theorem options_agree (mode : Mode) (file : ProblemFile) (path : String) (options : List String) :
    Agree mode file path (Item.ofArguments (Command.mode mode).settings options)
      (Item.ofArguments Command.solve.settings options) := by
  match options with
  | [] => exact agree_nil
  | argument :: rest =>
    have unknown : ∀ item ∈ [Item.unknown], item.Shared := List.forall_mem_singleton.mpr trivial
    by_cases plain : argument = "--"
    · rw [Item.ofArguments, Item.ofArguments, if_pos plain, if_pos plain]
      simpa using agree_append (rest.map .operand) (List.forall_mem_map.mpr fun _ _ => trivial) [] [] agree_nil
    have parallel := argument_parallel mode argument
    generalize ours : Item.ofArgument (Command.mode mode).settings argument = a at parallel
    generalize theirs : Item.ofArgument Command.solve.settings argument = b at parallel
    cases parallel with
    | same items waiting shared awaited =>
      cases waiting with
      | none =>
        rw [items_complete plain ours, items_complete plain theirs]
        exact agree_append items shared _ _ (options_agree mode file path rest)
      | some s =>
        cases rest with
        | nil =>
          rw [items_last plain ours, items_last plain theirs]
          exact agree_append items shared _ _ (agree_append _ unknown [] [] agree_nil)
        | cons value rest =>
          rw [items_value plain ours, items_value plain theirs]
          refine agree_append items shared _ _ ?_
          split
          · exact agree_append [.setting s value] (List.forall_mem_singleton.mpr (awaited s rfl)) _ _
              (options_agree mode file path rest)
          · exact agree_append _ unknown [] [] agree_nil
    | given s value own =>
      rw [items_complete plain ours, items_complete plain theirs]
      exact agree_refused _ _ _ _ (fun draft => own_refused draft s value own) fun _ => rfl
    | awaited s own =>
      rw [items_complete plain theirs]
      cases rest with
      | nil =>
        rw [items_last plain ours]
        exact agree_refused _ _ _ _ (fun _ => rfl) fun _ => rfl
      | cons value rest =>
        rw [items_value plain ours]
        split
        · exact agree_refused _ _ _ _ (fun draft => own_refused draft s value own) fun _ => rfl
        · exact agree_refused _ _ _ _ (fun _ => rfl) fun _ => rfl

end PlanarLP
