import PlanarLP.CommandLine.Run

set_option autoImplicit false

namespace PlanarLP

namespace CommandLine

def usage : String :=
  "Usage: planar-lp [-v] maximize|minimize|optimize --first A,B,C --second A,B,C --objective G,H --x-max X --y-max Y\n" ++
    "       planar-lp [-v] solve FILE\n" ++
    "Options: -f, --format pretty|json  --plot-data  --samples N  -v, --verbose  -h, --help"

def readFault : IO.Error → ReadFault
  | .noFileOrDirectory .. => .notFound
  | .inappropriateType .. => .isDirectory
  | error => .other (toString error)

def readFile (path : String) : IO (Except ReadFault String) :=
  try
    let bytes ← IO.FS.readBinFile path
    match String.fromUTF8? bytes with
    | some text => pure (.ok text)
    | none => pure (.error .notText)
  catch error => pure (.error (readFault error))

def reader (source : Source) : IO Reader :=
  match source with
  | .file path => do
      let text ← readFile path
      pure fun _ => text
  | .coefficients .. => pure fun _ => .error .notFound

def Detail.text : Detail → String
  | .number value => plainText value
  | .index value => toString value
  | .text value => value

def journalLine (event : Event) : String :=
  event.severity.name.toUpper ++ " " ++ event.message ++
    String.join (event.details.map fun (name, detail) => " " ++ name ++ "=" ++ Detail.text detail)

def printJournal (verbosity : Nat) (events : List Event) : IO Unit :=
  events.forM fun event =>
    if verbosity > 1 ∨ (verbosity = 1 ∧ event.severity = .debug) then IO.eprintln (journalLine event) else pure ()

end CommandLine

end PlanarLP

open PlanarLP PlanarLP.CommandLine in
def main (args : List String) : IO UInt32 := do
  match Arguments.parse args with
  | .error refusal =>
      if refusal = .help then IO.println usage else IO.eprintln usage
      pure refusal.exitCode.toUInt32
  | .ok arguments =>
      let outcome := arguments.outcome (← reader arguments.source)
      printJournal arguments.verbosity outcome.journal
      IO.print outcome.output
      IO.eprint outcome.complaint
      pure outcome.exitCode.toUInt32
