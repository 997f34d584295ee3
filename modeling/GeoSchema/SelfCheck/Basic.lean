import GeoSchema.Settings.Sources
import GeoSchema.Text.UpperCase
import GeoSchema.Validation

/-!
# The self-check

Documents whose verdicts are known are validated, and each surprise is reported on the log.
-/

namespace GeoSchema

/-- `shouldValidate` is the verdict that the check expects. -/
structure SampleCheck where
  name : String
  document : Value
  schema : Schema
  shouldValidate : Bool

namespace SelfCheck

/-! ## One check -/

def info (text : String) : LogRecord := ⟨.info, .selfCheck, text⟩
def error (text : String) : LogRecord := ⟨.error, .selfCheck, text⟩

def expectedText (name : String) (shouldValidate : Bool) : String :=
  name ++ (if shouldValidate then " validates" else " fails to validate") ++ " as it should"

/-- What the self-check logs about a verdict. A document that was wrongly rejected is followed by
its issues. -/
def comments (name : String) (shouldValidate : Bool) : Verdict → List LogRecord
  | .valid _ =>
    if shouldValidate then [info (expectedText name true)]
    else [error (name ++ " should not validate but it did")]
  | .invalid rejection =>
    if shouldValidate then
      error (name ++ " did not validate but it should") ::
        (Issue.messages rejection.issues).map fun line => error ("  " ++ line)
    else [info (expectedText name false)]

/-- Whether the verdict is a surprise, and the records of the check: first that of the
validation, then the comments on it. -/
def runCheck (settings : Settings) (c : SampleCheck) : Bool × List LogRecord :=
  let (verdict, record) := c.schema.validate c.document settings
  (verdict.isValid != c.shouldValidate, record :: comments c.name c.shouldValidate verdict)

/-! ## All checks -/

structure Report where
  failures : List String := []
  log : List LogRecord := []
deriving DecidableEq, Repr

/-- The names of the checks that gave a surprise, and the log of all. -/
def runChecks (settings : Settings) : List SampleCheck → Report
  | [] => {}
  | c :: rest =>
    let (failed, log) := runCheck settings c
    let after := runChecks settings rest
    { failures := if failed then c.name :: after.failures else after.failures
      log := log ++ after.log }

def conclusion (count : Nat) (failures : List String) : LogRecord :=
  if failures.isEmpty then info ("All " ++ toString count ++ " sample checks passed")
  else
    error (toString failures.length ++ " sample check(s) failed: " ++ ", ".intercalate failures)

/-! ## The program -/

inductive StartError where
  | settings (faults : List Fault)
  | unknownLevel (name : String)
deriving DecidableEq, Repr

def levelMessage (name : String) : String := "Unknown level: " ++ Text.quoted name

structure Outcome where
  passed : Bool
  shown : List LogRecord
deriving DecidableEq, Repr

def Outcome.exitCode (o : Outcome) : UInt32 := if o.passed then 0 else 1

/-- Runs the checks and shows the log from the level of the settings on. The case of the level's
name does not matter. -/
def runAt (settings : Settings) (checks : List SampleCheck) : Except StartError Outcome :=
  match Level.ofName? (Text.upperCase settings.logLevel) with
  | none => .error (.unknownLevel (Text.upperCase settings.logLevel))
  | some level =>
    let report := runChecks settings checks
    .ok
      { passed := report.failures.isEmpty
        shown := LogRecord.shownFrom level
          (report.log ++ [conclusion checks.length report.failures]) }

def runWith (load : Loader) (sources : Sources) (checks : List SampleCheck) :
    Except StartError Outcome :=
  match load sources with
  | .ok settings => runAt settings checks
  | .error faults => .error (.settings faults)

def run (sources : Sources) (checks : List SampleCheck) : Except StartError Outcome :=
  runWith Settings.ofSources sources checks

end SelfCheck

end GeoSchema
