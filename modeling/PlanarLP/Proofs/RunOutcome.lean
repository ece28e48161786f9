import PlanarLP.CommandLine.Run
import PlanarLP.Proofs.GivenItems
import PlanarLP.Proofs.ReportedProblem
import PlanarLP.Proofs.Selection

set_option autoImplicit false

namespace PlanarLP

namespace CommandLine

inductive Source.Gives (read : Reader) : Source → ProblemFile → Prop
  | coefficients (mode : Mode) (first second : Line Float) (objective : Objective Float) (bounds : Bounds Float) :
      Gives read (.coefficients mode first second objective bounds)
        ⟨mode.goal, ⟨first, mode.directions.1⟩, ⟨second, mode.directions.2⟩, objective, bounds⟩
  | file {path text : String} {description : ProblemFile} (found : read path = .ok text)
      (parsed : ProblemFile.parse? text = some description) : Gives read (.file path) description

def Source.Builds (read : Reader) (source : Source) (goal : Goal) (problem : Problem Float) : Prop :=
  ∃ description, source.Gives read description ∧ description.goal = goal ∧ description.problem = .ok problem

inductive Source.Fails (read : Reader) : Source → Prop
  | unreadable {path : String} {fault : ReadFault} (unread : read path = .error fault) : Fails read (.file path)
  | malformed {path text : String} (found : read path = .ok text) (foreign : ProblemFile.parse? text = none) :
      Fails read (.file path)
  | rejected {source : Source} {description : ProblemFile} {fault : Fault Float} (gives : source.Gives read description)
      (invalid : description.problem = .error fault) : Fails read source

def Arguments.drawn (arguments : Arguments) (items : List Item) (goal : Goal) (problem : Problem Float) :
    Option (Plot Float) :=
  if .plotData ∈ items then
    some (problem.plot (problem.solve goal defaultTolerance) goal arguments.output.samples)
  else none

structure Arguments.Runs (arguments : Arguments) (read : Reader) (items : List Item) : Prop where
  exit : (arguments.outcome read).exitCode = 0 ∨ (arguments.outcome read).exitCode = 1
  success : (arguments.outcome read).exitCode = 0 ↔
    ∃ goal problem, arguments.source.Builds read goal problem ∧ problem.feasibleVertices defaultTolerance ≠ []
  failure : arguments.source.Fails read ↔ ¬ ∃ goal problem, arguments.source.Builds read goal problem
  failed : arguments.source.Fails read →
    (arguments.outcome read).output = "" ∧ (arguments.outcome read).complaint ≠ ""
  quiet : ∀ goal problem, arguments.source.Builds read goal problem → (arguments.outcome read).complaint = ""
  pretty : ∀ goal problem, arguments.source.Builds read goal problem → .setting .format "json" ∉ items →
    (arguments.outcome read).output = Report.text problem (problem.solve goal defaultTolerance)
  json : ∀ goal problem, arguments.source.Builds read goal problem → .setting .format "json" ∈ items →
    (arguments.outcome read).output = Report.documentText goal problem (problem.solve goal defaultTolerance)
        (arguments.drawn items goal problem) ++ "\n" ∧
      (((Json.parse? (Report.documentText goal problem (problem.solve goal defaultTolerance)
        (arguments.drawn items goal problem))).bind (·.at? [.member "plot"])).isSome = true ↔ .plotData ∈ items)

end CommandLine

open CommandLine

section Building

variable {read : Reader} {source : Source}

theorem gives_build {description : ProblemFile} (gives : source.Gives read description) :
    source.build read = (description.problem.map (description.goal, ·)).mapError .invalid := by
  cases gives with
  | coefficients => rfl
  | file found parsed =>
    rw [Source.build, found]
    simp only [Except.mapError, bind, Except.bind, parsed]

theorem builds_build {goal : Goal} {problem : Problem Float} (builds : source.Builds read goal problem) :
    source.build read = .ok (goal, problem) := by
  obtain ⟨description, gives, rfl, made⟩ := builds
  rw [gives_build gives, made]
  rfl

theorem fails_build (fails : source.Fails read) : ∃ fault, source.build read = .error fault := by
  cases fails with
  | @unreadable path fault unread =>
    refine ⟨.unreadable path fault, ?_⟩
    rw [Source.build, unread]
    rfl
  | @malformed path text found foreign =>
    refine ⟨.malformed path, ?_⟩
    rw [Source.build, found]
    simp only [Except.mapError, bind, Except.bind, foreign]
    rfl
  | @rejected _ description fault gives invalid =>
    refine ⟨.invalid fault, ?_⟩
    rw [gives_build gives, invalid]
    rfl

theorem builds_or_fails (read : Reader) (source : Source) :
    (∃ goal problem, source.Builds read goal problem) ∨ source.Fails read := by
  have decided (description : ProblemFile) (gives : source.Gives read description) :
      (∃ goal problem, source.Builds read goal problem) ∨ source.Fails read := by
    cases made : description.problem with
    | ok problem => exact .inl ⟨description.goal, problem, description, gives, rfl, made⟩
    | error fault => exact .inr (.rejected gives made)
  cases source with
  | coefficients mode first second objective bounds =>
    exact decided _ (.coefficients mode first second objective bounds)
  | file path =>
    cases found : read path with
    | error fault => exact .inr (.unreadable found)
    | ok text =>
      cases parsed : ProblemFile.parse? text with
      | none => exact .inr (.malformed found parsed)
      | some description => exact decided description (.file found parsed)

theorem fails_iff (read : Reader) (source : Source) :
    source.Fails read ↔ ¬ ∃ goal problem, source.Builds read goal problem := by
  constructor
  · rintro fails ⟨goal, problem, builds⟩
    obtain ⟨fault, failed⟩ := fails_build fails
    cases (builds_build builds).symm.trans failed
  · exact (builds_or_fails read source).resolve_left

end Building

theorem built_outcome (arguments : Arguments) (read : Reader) (goal : Goal) (problem : Problem Float)
    (builds : arguments.source.Builds read goal problem) :
    arguments.outcome read = arguments.output.outcome goal problem := by
  rw [Arguments.outcome, builds_build builds]

theorem document_plot (goal : Goal) (problem : Problem Float) (solution : Solution Float) (plot : Option (Plot Float)) :
    (Json.parse? (Report.documentText goal problem solution plot)).bind (·.at? [.member "plot"]) =
      plot.map Json.Form.write := by
  rw [document_parsed]
  cases plot <;> rfl

theorem failed_outcome (arguments : Arguments) (read : Reader) (fails : arguments.source.Fails read) :
    (arguments.outcome read).exitCode = 1 ∧ (arguments.outcome read).output = "" ∧
      (arguments.outcome read).complaint ≠ "" := by
  obtain ⟨fault, failed⟩ := fails_build fails
  rw [Arguments.outcome, failed]
  exact ⟨rfl, rfl, by simp⟩

theorem exit_code_built (output : Output) (goal : Goal) (problem : Problem Float) :
    (output.outcome goal problem).exitCode = if problem.feasibleVertices defaultTolerance = [] then 1 else 0 := by
  cases found : problem.feasibleVertices defaultTolerance <;> simp [Output.outcome, Problem.solve, found]

theorem run_outcome (args : List String) (arguments : Arguments) (accepted : Arguments.parse args = .ok arguments)
    (read : Reader) : arguments.Runs read (givenItems args) := by
  obtain ⟨plotData, json⟩ := given_output args arguments accepted
  have built (goal : Goal) (problem : Problem Float) (builds : arguments.source.Builds read goal problem) :
      (arguments.outcome read).exitCode = (if problem.feasibleVertices defaultTolerance = [] then 1 else 0) ∧
        (arguments.outcome read).output =
          arguments.output.text goal problem (problem.solve goal defaultTolerance) ∧
        (arguments.outcome read).complaint = "" := by
    rw [built_outcome arguments read goal problem builds]
    exact ⟨exit_code_built arguments.output goal problem, rfl, rfl⟩
  constructor
  case exit =>
    rcases builds_or_fails read arguments.source with ⟨goal, problem, builds⟩ | fails
    · rw [(built goal problem builds).1]
      split <;> simp
    · exact .inr (failed_outcome arguments read fails).1
  case success =>
    constructor
    · intro zero
      rcases builds_or_fails read arguments.source with ⟨goal, problem, builds⟩ | fails
      · refine ⟨goal, problem, builds, fun empty => ?_⟩
        rw [(built goal problem builds).1, if_pos empty] at zero
        cases zero
      · rw [(failed_outcome arguments read fails).1] at zero
        cases zero
    · rintro ⟨goal, problem, builds, found⟩
      rw [(built goal problem builds).1, if_neg found]
  case failure => exact fails_iff read arguments.source
  case failed => exact fun fails => (failed_outcome arguments read fails).2
  case quiet => exact fun goal problem builds => (built goal problem builds).2.2
  case pretty =>
    intro goal problem builds absent
    have format : arguments.output.format = .pretty := by
      cases chosen : arguments.output.format with
      | pretty => rfl
      | json => exact absurd (json.mp chosen) absent
    rw [(built goal problem builds).2.1, Output.text, format]
  case json =>
    intro goal problem builds given
    constructor
    · rw [(built goal problem builds).2.1, Output.text, json.mpr given]
      simp only [Arguments.drawn, plotData]
    · rw [document_plot, Option.isSome_map, Arguments.drawn]
      split <;> simp [*]

def contradictory : List String :=
  ["-v", "optimize", "--first", "1,1,4", "--second=1,1,6", "-vfjson", "--objective", "-1,1", "--x-max", "10", "--y-max",
    "10", "--plot-data"]

theorem run_outcome_contradictory :
    ∃ arguments, Arguments.parse contradictory = .ok arguments ∧ arguments.Runs (Files.read [])
      [.setting .first "1,1,4", .setting .second "1,1,6", .verbose, .setting .format "json", .setting .objective "-1,1",
        .setting .xMax "10", .setting .yMax "10", .plotData] := by
  have given : givenItems contradictory = [.setting .first "1,1,4", .setting .second "1,1,6", .verbose,
      .setting .format "json", .setting .objective "-1,1", .setting .xMax "10", .setting .yMax "10", .plotData] := by
    decide +kernel
  cases accepted : Arguments.parse contradictory with
  | ok arguments => exact ⟨arguments, rfl, given ▸ run_outcome contradictory arguments accepted _⟩
  | error refusal =>
    have sound : (Arguments.parse contradictory).isOk = true := by decide +kernel
    rw [accepted] at sound
    cases sound

end PlanarLP
