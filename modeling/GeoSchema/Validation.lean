import GeoSchema.Log
import GeoSchema.Schema.Check
import GeoSchema.Settings.Basic

/-!
# Validating a document

`Schema.validate` checks a document under settings and tells the outcome. A rejection holds at
least one issue, because a cap is at least one.
-/

namespace GeoSchema

/-! ## Outcomes -/

structure Rejection where
  issues : List Issue
  ne_nil : issues ≠ []

namespace Rejection

def ofIssues? (issues : List Issue) : Option Rejection :=
  if h : issues = [] then none else some ⟨issues, h⟩

theorem take_ne_nil {issues : List Issue} (h : issues ≠ []) (cap : Cap) :
    issues.take cap.limit ≠ [] := by
  simp [List.take_eq_nil_iff, h, Nat.ne_of_gt cap.pos]

def capped (r : Rejection) : Option Cap → Rejection
  | none => r
  | some cap => ⟨r.issues.take cap.limit, take_ne_nil r.ne_nil cap⟩

end Rejection

/-- A valid document is handed back as it came. -/
inductive Verdict where
  | valid (document : Value)
  | invalid (rejection : Rejection)

namespace Verdict

def isValid : Verdict → Bool
  | .valid _ => true
  | .invalid _ => false

def fold {α : Type} (onInvalid : List Issue → α) (onValid : Value → α) : Verdict → α
  | .valid document => onValid document
  | .invalid rejection => onInvalid rejection.issues

end Verdict

/-! ## Validation -/

def acceptedText (name : String) : String := "Document accepted by " ++ name

def rejectedText (name : String) (count : Nat) : String :=
  "Document rejected by " ++ name ++ " with " ++ toString count ++ " issue(s)"

def validationRecord (text : String) : LogRecord := ⟨.debug, .validation, text⟩

namespace Schema

/-- The verdict and the record of it. The record counts the issues before the cap. -/
def validate (s : Schema) (document : Value) (settings : Settings) : Verdict × LogRecord :=
  match Rejection.ofIssues? (s.check document [] settings.failFast) with
  | none => (.valid document, validationRecord (acceptedText s.name))
  | some rejection =>
    (.invalid (rejection.capped settings.maxIssues),
      validationRecord (rejectedText s.name rejection.issues.length))

/-- The document itself, or all the issues it has. -/
def decode (s : Schema) (document : Value) : Except Rejection Value :=
  match Rejection.ofIssues? (s.check document [] false) with
  | none => .ok document
  | some rejection => .error rejection

/-- A document is written as it is. -/
def encode (_ : Schema) (document : Value) : Value := document

end Schema

end GeoSchema
