set_option autoImplicit false

namespace PlanarLP

namespace CommandLine

inductive Setting where
  | first
  | second
  | objective
  | xMax
  | yMax
  | format
  | samples
deriving DecidableEq, Repr

namespace Setting

def name : Setting → String
  | .first => "first"
  | .second => "second"
  | .objective => "objective"
  | .xMax => "x-max"
  | .yMax => "y-max"
  | .format => "format"
  | .samples => "samples"

-- Coefficients may start with a minus sign.
def takesAny : Setting → Bool
  | .first | .second | .objective => true
  | _ => false

def accepts (s : Setting) (argument : String) : Bool :=
  s.takesAny || argument == "-" || argument.toList.head? != some '-'

end Setting

inductive Item where
  | setting (s : Setting) (value : String)
  | plotData
  | verbose
  | help
  | operand (text : String)
  | unknown
deriving DecidableEq, Repr

namespace Item

def bundle (settings : List Setting) : List Char → List Item × Option Setting
  | [] => ([], none)
  | c :: rest =>
      if c = 'v' then ((.verbose :: (bundle settings rest).1), (bundle settings rest).2)
      else if c = 'h' then ((.help :: (bundle settings rest).1), (bundle settings rest).2)
      else if c = 'f' ∧ .format ∈ settings then
        match rest with
        | [] => ([], some .format)
        | '=' :: value => ([.setting .format (String.ofList value)], none)
        | value => ([.setting .format (String.ofList value)], none)
      else ([.unknown], none)

def long (settings : List Setting) (name : String) (value : Option String) : List Item × Option Setting :=
  match settings.find? (·.name == name), value with
  | some s, some value => ([.setting s value], none)
  | some s, none => ([], some s)
  | none, some _ => ([.unknown], none)
  | none, none =>
      if name = "verbose" then ([.verbose], none)
      else if name = "help" then ([.help], none)
      else if name = "plot-data" ∧ settings ≠ [] then ([.plotData], none)
      else ([.unknown], none)

def nameAndValue (cs : List Char) : String × Option String :=
  match cs.dropWhile (· != '=') with
  | _ :: value => (String.ofList (cs.takeWhile (· != '=')), some (String.ofList value))
  | [] => (String.ofList cs, none)

def ofArgument (settings : List Setting) (argument : String) : List Item × Option Setting :=
  match argument.toList with
  | '-' :: '-' :: rest => long settings (nameAndValue rest).1 (nameAndValue rest).2
  | '-' :: c :: rest => bundle settings (c :: rest)
  | _ => ([.operand argument], none)

def ofArguments (settings : List Setting) : List String → List Item
  | [] => []
  | argument :: rest =>
      if argument = "--" then rest.map .operand
      else
        let (items, waiting) := ofArgument settings argument
        match waiting, rest with
        | none, rest => items ++ ofArguments settings rest
        | some s, value :: rest =>
            items ++ if s.accepts value then .setting s value :: ofArguments settings rest else [.unknown]
        | some _, [] => items ++ [.unknown]

end Item

end CommandLine

end PlanarLP
