import GeoSchema.SelfCheck.Samples

/-!
# The self-check program

Settings come from the environment, and from arguments of the form `NAME=text`, which stand for
the lines of a dotenv text. The log goes to standard error.
-/

namespace GeoSchema

def readEnvironment : IO (Variables String) :=
  [Setting.failFast, .maxIssues, .logLevel].filterMapM fun s => do
    let name := s.variableName.toUpper
    return (← IO.getEnv name).map fun text => (name, text)

def reportStartError : SelfCheck.StartError → IO Unit
  | .settings faults =>
    for fault in faults do
      IO.eprintln (fault.setting.name ++ ": " ++ fault.misfit.code)
  | .unknownLevel name => IO.eprintln (SelfCheck.levelMessage name)

end GeoSchema

def main (args : List String) : IO UInt32 := do
  let environment ← GeoSchema.readEnvironment
  let load := GeoSchema.Settings.withDotenv ("\n".intercalate args)
  match GeoSchema.SelfCheck.runWith load { environment } GeoSchema.SelfCheck.samples with
  | .ok outcome =>
    for r in outcome.shown do
      IO.eprintln r.line
    return outcome.exitCode
  | .error e =>
    GeoSchema.reportStartError e
    return 1
