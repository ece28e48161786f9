import PlanarLP.CommandLine.Arguments
import PlanarLP.CommandLine.Files
import PlanarLP.Journal
import PlanarLP.Forms
import PlanarLP.Report.Text

set_option autoImplicit false

namespace PlanarLP

namespace CommandLine

inductive BuildFault where
  | unreadable (path : String) (fault : ReadFault)
  | malformed (path : String)
  | invalid (fault : Fault Float)

-- What the JSON reader says of a malformed text, printed after the path, is left out.
def BuildFault.message : BuildFault → String
  | .unreadable path fault => "Error reading " ++ path ++ ": " ++ fault.message
  | .malformed path => "Invalid problem file " ++ path
  | .invalid fault => "Invalid problem: " ++ fault.message

abbrev Reader := String → Except ReadFault String

def Source.build (read : Reader) : Source → Except BuildFault (Goal × Problem Float)
  | .coefficients mode first second objective bounds =>
      ((mode.problem first second objective bounds).map (mode.goal, ·)).mapError .invalid
  | .file path => do
      let text ← (read path).mapError (.unreadable path)
      match ProblemFile.parse? text with
      | some description => (description.problem.map (description.goal, ·)).mapError .invalid
      | none => throw (.malformed path)

structure Outcome where
  exitCode : Nat
  output : String
  complaint : String
  journal : List Event

def Output.text (output : Output) (goal : Goal) (problem : Problem Float) (solution : Solution Float) : String :=
  match output.format with
  | .pretty => Report.text problem solution
  | .json =>
      let plot := if output.plotData then some (problem.plot solution goal output.samples) else none
      Report.documentText goal problem solution plot ++ "\n"

def Output.journal (output : Output) (goal : Goal) (problem : Problem Float) (solution : Solution Float) :
    List Event :=
  problem.journal goal defaultTolerance ++
    if output.format = .json ∧ output.plotData then problem.drawings solution goal output.samples else []

def Output.outcome (output : Output) (goal : Goal) (problem : Problem Float) : Outcome :=
  let solution := problem.solve goal defaultTolerance
  { exitCode := if solution.status = .optimal then 0 else 1
    output := output.text goal problem solution
    complaint := ""
    journal := output.journal goal problem solution }

def Arguments.outcome (arguments : Arguments) (read : Reader) : Outcome :=
  match arguments.source.build read with
  | .ok (goal, problem) => arguments.output.outcome goal problem
  | .error fault => { exitCode := 1, output := "", complaint := fault.message ++ "\n", journal := [] }

def Refusal.exitCode : Refusal → Nat
  | .usage => 2
  | .help => 0

end CommandLine

end PlanarLP
