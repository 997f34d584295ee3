import GeoSchema.Issue
import GeoSchema.Value.Lenient

/-!
# Issues made by hand

A draft is an issue of which parts may be missing or of the wrong kind. Building it gives the
issue, or the faults of the first issue that cannot be built; causes are built before the issue
they explain.
-/

namespace GeoSchema

/-- A part that is `none` is not there. -/
structure IssueDraft where
  path : List Value := []
  expected : Option Value := none
  kind : Option Value := none
  value : Value := .null
  causes : List IssueDraft := []

namespace IssueDraft

inductive Fault where
  | missing (part : String)
  | misfit (m : Misfit) (place : Path)
  | noKind
deriving DecidableEq, Repr

namespace Fault

def code : Fault → String
  | .missing _ => "missing"
  | .misfit m _ => m.code
  | .noKind => "enum"

def place : Fault → Path
  | .missing part => [.key part]
  | .misfit _ place => place
  | .noKind => [.key "kind"]

end Fault

/-! ## The parts -/

/-- A step is read as a key, or else as an index. One that is neither has two faults. -/
def segmentOf (step : Value) (i : Nat) : Except (List Fault) Segment :=
  match step.toText, step.toInteger with
  | .ok name, _ => .ok (.key name)
  | .error _, .ok n => .ok (.index n)
  | .error noKey, .error noIndex =>
    .error
      [.misfit noKey [.key "path", .index i, .key "str"],
        .misfit noIndex [.key "path", .index i, .key "int"]]

def faultsOf {α : Type} : Except (List Fault) α → List Fault
  | .ok _ => []
  | .error faults => faults

def pathFrom (i : Nat) : List Value → Except (List Fault) Path
  | [] => .ok []
  | step :: rest =>
    match segmentOf step i, pathFrom (i + 1) rest with
    | .ok segment, .ok path => .ok (segment :: path)
    | segment, path => .error (faultsOf segment ++ faultsOf path)

def expectedOf : Option Value → Except (List Fault) String
  | some v => v.toText.mapError fun m => [.misfit m [.key "expected"]]
  | none => .error [.missing "expected"]

def kindOf : Option Value → Except (List Fault) IssueKind
  | some v =>
    match v.toText.toOption.bind IssueKind.ofName? with
    | some kind => .ok kind
    | none => .error [.noKind]
  | none => .error [.missing "kind"]

/-! ## The issue -/

/-- The issue with these causes, or the faults of the other parts in order. -/
def assemble (steps : List Value) (expected kind : Option Value) (value : Value)
    (causes : List Issue) : Except (List Fault) Issue :=
  match pathFrom 0 steps, expectedOf expected, kindOf kind with
  | .ok path, .ok expected, .ok kind => .ok { path, expected, kind, value, causes }
  | path, expected, kind => .error (faultsOf path ++ faultsOf expected ++ faultsOf kind)

mutual

def build : IssueDraft → Except (List Fault) Issue
  | ⟨steps, expected, kind, value, causes⟩ =>
    match buildAll causes with
    | .ok causes => assemble steps expected kind value causes
    | .error faults => .error faults

def buildAll : List IssueDraft → Except (List Fault) (List Issue)
  | [] => .ok []
  | draft :: rest =>
    match build draft, buildAll rest with
    | .ok issue, .ok issues => .ok (issue :: issues)
    | .error faults, _ => .error faults
    | .ok _, .error faults => .error faults

end

end IssueDraft

end GeoSchema
