import PlanarLP.Proofs.RunOutcome
import PlanarLP.Proofs.SharedOptions

set_option autoImplicit false

namespace PlanarLP

structure Mode.Matches (mode : Mode) (file : ProblemFile) : Prop where
  goal : file.goal = mode.goal
  directions : (file.first.direction, file.second.direction) = mode.directions

namespace CommandLine

-- A run as it is seen from outside: refused, or an outcome of which verbosity shows more or less.
def runFrom (verbosity : Nat) (args : List String) (read : Reader) : Except Refusal (Nat × Outcome) :=
  (Arguments.parseFrom verbosity args).map fun arguments => (arguments.verbosity, arguments.outcome read)

def run (args : List String) (read : Reader) : Except Refusal (Nat × Outcome) := runFrom 0 args read

structure Typed where
  first : String
  second : String
  objective : String
  xMax : String
  yMax : String

def Typed.arguments (typed : Typed) : List String :=
  ["--first", typed.first, "--second", typed.second, "--objective", typed.objective, "--x-max=" ++ typed.xMax,
    "--y-max=" ++ typed.yMax]

structure Typed.Reads (typed : Typed) (file : ProblemFile) : Prop where
  first : (readCoefficients 3 typed.first).toOption.map Line.ofVector = some file.first.boundary
  second : (readCoefficients 3 typed.second).toOption.map Line.ofVector = some file.second.boundary
  objective : (readCoefficients 2 typed.objective).toOption.map Objective.ofVector = some file.objective
  xMax : (readNumber typed.xMax.toList).toOption = some file.bounds.xMax
  yMax : (readNumber typed.yMax.toList).toOption = some file.bounds.yMax

def Source.ofNumbers (mode : Mode) (file : ProblemFile) : Source :=
  .coefficients mode file.first.boundary file.second.boundary file.objective file.bounds

def Draft.ask (draft : Draft) (verbosity : Nat) (source : Source) : Arguments where
  source := source
  output := draft.output
  verbosity := Nat.min 255 (if draft.verbosity = 0 then verbosity else draft.verbosity)

end CommandLine

open CommandLine

theorem attached_value {settings : List Setting} (s : Setting) (value : String)
    (known : settings.find? (·.name == s.name) = some s) :
    Item.ofArgument settings ("--" ++ s.name ++ "=" ++ value) = ([.setting s value], none) := by
  have text : ("--" ++ s.name ++ "=" ++ value).toList = '-' :: '-' :: (s.name.toList ++ '=' :: value.toList) := by simp
  have name : ∀ c ∈ s.name.toList, (c != '=') = true := List.all_eq_true.mp (by cases s <;> rfl)
  have split : Item.nameAndValue (s.name.toList ++ '=' :: value.toList) = (s.name, some value) := by
    simp [Item.nameAndValue, List.dropWhile_append_of_pos name, List.takeWhile_append_of_pos name]
  unfold Item.ofArgument
  rw [text]
  simp only [split, Item.long, known]

theorem plain_operand (settings : List Setting) (argument : String) (plain : argument.toList.head? ≠ some '-') :
    Item.ofArgument settings argument = ([.operand argument], none) := by
  unfold Item.ofArgument
  split
  · rename_i dashed
    exact absurd (congrArg List.head? dashed) plain
  · rename_i dashed
    exact absurd (congrArg List.head? dashed) plain
  · rfl

theorem typed_items (mode : Mode) (typed : Typed) (options : List String) :
    Item.ofArguments (Command.mode mode).settings (typed.arguments ++ options) =
      [.setting .first typed.first, .setting .second typed.second, .setting .objective typed.objective,
        .setting .xMax typed.xMax, .setting .yMax typed.yMax] ++
        Item.ofArguments (Command.mode mode).settings options := by
  have attached (value rest : String) : "--" ++ value ++ "=" ++ rest ≠ "--" := by
    intro same
    have characters := congrArg String.toList same
    simp at characters
  rw [Typed.arguments]
  change Item.ofArguments _ ("--first" :: _ :: "--second" :: _ :: "--objective" :: _ ::
    ("--" ++ Setting.xMax.name ++ "=" ++ typed.xMax) :: ("--" ++ Setting.yMax.name ++ "=" ++ typed.yMax) :: options) = _
  rw [items_taken (by decide) rfl rfl, items_taken (by decide) rfl rfl, items_taken (by decide) rfl rfl,
    items_complete (attached _ _) (attached_value .xMax typed.xMax rfl),
    items_complete (attached _ _) (attached_value .yMax typed.yMax rfl)]
  rfl

theorem typed_draft (mode : Mode) (typed : Typed) (file : ProblemFile) (reads : typed.Reads file) :
    [Item.setting .first typed.first, .setting .second typed.second, .setting .objective typed.objective,
      .setting .xMax typed.xMax, .setting .yMax typed.yMax].foldlM (Draft.add (.mode mode)) {} =
      .ok (Draft.withNumbers file {}) := by
  simp only [List.foldlM_cons, Draft.add, Draft.set, reads.first, reads.second, reads.objective, reads.xMax,
    reads.yMax, once]
  rfl

theorem requests_agree (mode : Mode) (typed : Typed) (file : ProblemFile) (path : String) (reads : typed.Reads file)
    (nonempty : path ≠ "") (plain : path.toList.head? ≠ some '-') (options : List String) :
    ∃ result : Except Refusal Draft, ∀ verbosity,
      (Command.mode mode).request verbosity (typed.arguments ++ options) =
          result.map (·.ask verbosity (.ofNumbers mode file)) ∧
        Command.solve.request verbosity (path :: options) = result.map (·.ask verbosity (.file path)) := by
  obtain ⟨result, ours, theirs⟩ := options_agree mode file path options {}
  refine ⟨result, fun verbosity => ⟨?_, ?_⟩⟩
  · rw [Command.request, typed_items, List.foldlM_append, typed_draft mode typed file reads]
    change ((Item.ofArguments (Command.mode mode).settings options).foldlM _ (Draft.withNumbers file {}) >>= _) = _
    rw [ours]
    cases result <;> rfl
  · have notEnd : path ≠ "--" := fun same => plain (same ▸ rfl)
    have added : Draft.add .solve {} (.operand path) = .ok (Draft.withFile path {}) := if_pos ⟨rfl, nonempty⟩
    rw [Command.request, items_complete notEnd (plain_operand _ path plain), List.foldlM_append, List.foldlM_cons, added]
    change ((Item.ofArguments Command.solve.settings options).foldlM _ (Draft.withFile path {}) >>= _) = _
    rw [theirs]
    cases result <;> rfl

theorem leading_same (read : Reader) (args others leading : List String)
    (free : ∀ argument ∈ leading, argument ≠ "help" ∧ Command.ofName? argument = none)
    (same : ∀ verbosity, runFrom verbosity args read = runFrom verbosity others read) (verbosity : Nat) :
    runFrom verbosity (leading ++ args) read = runFrom verbosity (leading ++ others) read := by
  induction leading generalizing verbosity with
  | nil => exact same verbosity
  | cons argument leading ih =>
    obtain ⟨notHelp, unnamed⟩ := free argument List.mem_cons_self
    have following := ih fun later member => free later (List.mem_cons_of_mem argument member)
    simp only [List.cons_append, runFrom, Arguments.parseFrom, if_neg notHelp, unnamed]
    split
    · rfl
    · cases leadingVerbosity (Item.ofArgument [] argument).1 with
      | error refusal => rfl
      | ok more => exact following (verbosity + more)

theorem numbers_give (read : Reader) (mode : Mode) (file : ProblemFile) (fits : mode.Matches file) :
    (Source.ofNumbers mode file).Gives read file := by
  obtain ⟨goal, ⟨first, one⟩, ⟨second, two⟩, objective, bounds⟩ := file
  obtain ⟨rfl, directions⟩ := fits
  obtain ⟨rfl, rfl⟩ := Prod.mk.inj directions
  exact .coefficients mode first second objective bounds

theorem same_outcome (arguments other : Arguments) (read : Reader) (file : ProblemFile)
    (ours : arguments.source.Gives read file) (theirs : other.source.Gives read file)
    (output : arguments.output = other.output) : arguments.outcome read = other.outcome read := by
  rw [Arguments.outcome, Arguments.outcome, gives_build ours, gives_build theirs, output]

theorem numbers_or_file (mode : Mode) (file : ProblemFile) (path text : String) (read : Reader)
    (fits : mode.Matches file) (found : read path = .ok text) (parsed : ProblemFile.parse? text = some file) :
    (∀ arguments other : Arguments, arguments.source = .ofNumbers mode file → other.source = .file path →
        arguments.output = other.output → arguments.outcome read = other.outcome read) ∧
      ∀ typed : Typed, typed.Reads file → path ≠ "" → path.toList.head? ≠ some '-' →
        ∀ leading options, (∀ argument ∈ leading, argument ≠ "help" ∧ Command.ofName? argument = none) →
          run (leading ++ (mode.name :: typed.arguments ++ options)) read =
            run (leading ++ ("solve" :: path :: options)) read := by
  have outcomes (arguments other : Arguments) (ours : arguments.source = .ofNumbers mode file)
      (theirs : other.source = .file path) (output : arguments.output = other.output) :
      arguments.outcome read = other.outcome read :=
    same_outcome arguments other read file (ours ▸ numbers_give read mode file fits) (theirs ▸ .file found parsed)
      output
  refine ⟨outcomes, fun typed reads nonempty plain leading options free => ?_⟩
  obtain ⟨result, requests⟩ := requests_agree mode typed file path reads nonempty plain options
  refine leading_same read _ _ leading free (fun verbosity => ?_) 0
  obtain ⟨ours, theirs⟩ := requests verbosity
  have first : Arguments.parseFrom verbosity (mode.name :: typed.arguments ++ options) =
      (Command.mode mode).request verbosity (typed.arguments ++ options) := by cases mode <;> rfl
  have second : Arguments.parseFrom verbosity ("solve" :: path :: options) =
      Command.solve.request verbosity (path :: options) := rfl
  rw [runFrom, runFrom, first, second, ours, theirs]
  cases result with
  | error refusal => rfl
  | ok draft => exact congrArg (fun outcome => Except.ok (_, outcome)) (outcomes _ _ rfl rfl rfl)

def flatBox : ProblemFile := ⟨.both, ⟨⟨-1, 1, 2⟩, .le⟩, ⟨⟨1, 1, -0.0⟩, .ge⟩, ⟨1, 2.5⟩, ⟨-3, 5⟩⟩

def flatBoxText : String := String.ofList ((Json.record flatBox.members).print .compact)

def flatBoxTyped : Typed := ⟨"-1,1,2", "1, 1, -0", "1,2.50", "-3", "5"⟩

theorem numbers_or_file_flat_box :
    (Arguments.mk (.ofNumbers .optimize flatBox) ⟨.json, true, 7⟩ 0).outcome (fun _ => .ok flatBoxText) =
        (Arguments.mk (.file "flat.json") ⟨.json, true, 7⟩ 2).outcome (fun _ => .ok flatBoxText) ∧
      run ("-v" :: "optimize" :: flatBoxTyped.arguments ++ ["-f", "json"]) (fun _ => .ok flatBoxText) =
        run ["-v", "solve", "flat.json", "-f", "json"] (fun _ => .ok flatBoxText) := by
  have parsed : ProblemFile.parse? flatBoxText = some flatBox :=
    file_parsed flatBox _ (List.Perm.refl _) _ (file_written flatBox _ (List.Perm.refl _) .compact) (by decide +kernel)
  have typed : flatBoxTyped.Reads flatBox :=
    ⟨by decide +kernel, by decide +kernel, by decide +kernel, by decide +kernel, by decide +kernel⟩
  obtain ⟨given, listed⟩ :=
    numbers_or_file .optimize flatBox "flat.json" flatBoxText (fun _ => .ok flatBoxText) ⟨rfl, rfl⟩ rfl parsed
  exact ⟨given _ _ rfl rfl rfl, listed flatBoxTyped typed (by decide) (by decide) ["-v"] ["-f", "json"] (by decide)⟩

end PlanarLP
