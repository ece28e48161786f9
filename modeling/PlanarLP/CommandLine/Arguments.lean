import PlanarLP.CommandLine.Item
import PlanarLP.Coefficients
import PlanarLP.Problem

set_option autoImplicit false

namespace PlanarLP

def Line.ofVector (v : Vector Float 3) : Line Float := ⟨v[0], v[1], v[2]⟩

def Objective.ofVector (v : Vector Float 2) : Objective Float := ⟨v[0], v[1]⟩

def Mode.name : Mode → String
  | .maximize => "maximize"
  | .minimize => "minimize"
  | .optimize => "optimize"

namespace CommandLine

inductive Format where
  | pretty
  | json
deriving DecidableEq, Repr

def Format.name : Format → String
  | .pretty => "pretty"
  | .json => "json"

inductive Source where
  | coefficients (mode : Mode) (first second : Line Float) (objective : Objective Float) (bounds : Bounds Float)
  | file (path : String)

structure Output where
  format : Format
  plotData : Bool
  samples : Nat
deriving DecidableEq, Repr

structure Arguments where
  source : Source
  output : Output
  verbosity : Nat

inductive Refusal where
  | usage
  | help
deriving DecidableEq, Repr

inductive Command where
  | mode (m : Mode)
  | solve
deriving DecidableEq, Repr

namespace Command

def name : Command → String
  | .mode m => m.name
  | .solve => "solve"

def all : List Command := [.mode .maximize, .mode .minimize, .mode .optimize, .solve]

def ofName? (name : String) : Option Command := all.find? (·.name == name)

def settings : Command → List Setting
  | .mode _ => [.first, .second, .objective, .xMax, .yMax, .format, .samples]
  | .solve => [.format, .samples]

end Command

structure Draft where
  first : Option (Line Float) := none
  second : Option (Line Float) := none
  objective : Option (Objective Float) := none
  xMax : Option Float := none
  yMax : Option Float := none
  format : Option Format := none
  samples : Option Nat := none
  plotData : Bool := false
  verbosity : Nat := 0
  file : Option String := none

def readFormat? (text : String) : Option Format := [Format.pretty, .json].find? (·.name == text)

def readSamples? (text : String) : Option Nat :=
  let digits := match text.toList with
    | '+' :: rest => rest
    | cs => cs
  if digits ≠ [] ∧ digits.all Char.isDigit ∧ digitsValue digits < UInt64.size then some (digitsValue digits) else none

def once {α : Type} (present : Option α) (value : Option α) : Except Refusal (Option α) :=
  match present, value with
  | none, some value => .ok (some value)
  | _, _ => .error .usage

def Draft.set (draft : Draft) (s : Setting) (text : String) : Except Refusal Draft :=
  match s with
  | .first => do
      pure { draft with first := ← once draft.first ((readCoefficients 3 text).toOption.map Line.ofVector) }
  | .second => do
      pure { draft with second := ← once draft.second ((readCoefficients 3 text).toOption.map Line.ofVector) }
  | .objective => do
      pure { draft with
        objective := ← once draft.objective ((readCoefficients 2 text).toOption.map Objective.ofVector) }
  | .xMax => do pure { draft with xMax := ← once draft.xMax (readNumber text.toList).toOption }
  | .yMax => do pure { draft with yMax := ← once draft.yMax (readNumber text.toList).toOption }
  | .format => do pure { draft with format := ← once draft.format (readFormat? text) }
  | .samples => do pure { draft with samples := ← once draft.samples (readSamples? text) }

def Draft.add (command : Command) (draft : Draft) : Item → Except Refusal Draft
  | .setting s text => draft.set s text
  | .plotData => if draft.plotData then .error .usage else .ok { draft with plotData := true }
  | .verbose => .ok { draft with verbosity := draft.verbosity + 1 }
  | .help => .error .help
  | .operand text =>
      if command = .solve ∧ text ≠ "" then do pure { draft with file := ← once draft.file (some text) }
      else .error .usage
  | .unknown => .error .usage

def Draft.output (draft : Draft) : Output :=
  { format := draft.format.getD .pretty
    plotData := draft.plotData
    samples := draft.samples.getD 1000 }

def Draft.source? (draft : Draft) : Command → Option Source
  | .solve => draft.file.map .file
  | .mode m => do
      pure (.coefficients m (← draft.first) (← draft.second) (← draft.objective)
        ⟨← draft.xMax, ← draft.yMax⟩)

-- The flags given to the command count before those ahead of it.
def Command.request (command : Command) (verbosity : Nat) (arguments : List String) : Except Refusal Arguments := do
  let draft ← (Item.ofArguments command.settings arguments).foldlM (Draft.add command) {}
  match draft.source? command with
  | some source =>
      pure { source
             output := draft.output
             verbosity := Nat.min 255 (if draft.verbosity = 0 then verbosity else draft.verbosity) }
  | none => throw .usage

def leadingVerbosity (items : List Item) : Except Refusal Nat :=
  items.foldlM (fun count (item : Item) =>
    match item with
    | .verbose => .ok (count + 1)
    | .help => .error .help
    | _ => .error .usage) 0

def helpRequest : List String → Refusal
  | [] => .help
  | [name] => if name = "help" ∨ (Command.ofName? name).isSome then .help else .usage
  | _ => .usage

def Arguments.parseFrom (verbosity : Nat) : List String → Except Refusal Arguments
  | [] => .error .usage
  | argument :: rest =>
      if argument = "--" then .error .usage
      else if argument = "help" then .error (helpRequest rest)
      else
        match Command.ofName? argument with
        | some command => command.request verbosity rest
        | none => do
            let more ← leadingVerbosity (Item.ofArgument [] argument).1
            parseFrom (verbosity + more) rest

def Arguments.parse (arguments : List String) : Except Refusal Arguments := parseFrom 0 arguments

end CommandLine

end PlanarLP
