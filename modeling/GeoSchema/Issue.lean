import GeoSchema.Value.Text

/-!
# Issues

An issue says where a value was refused, what was expected there, and why. A refused union reports
one issue, whose causes are the issues of all its alternatives.
-/

namespace GeoSchema

/-! ## Paths -/

/-- A step into a document. Indices are those of sequences, and the integer keys of dictionaries. -/
inductive Segment where
  | key (name : String)
  | index (n : Int)
deriving DecidableEq, Repr

abbrev Path := List Segment

/-- The step to the entry with this key. A key that is neither text nor integer stands by its
written form. -/
def Segment.ofKey : Value → Segment
  | .text s => .key s
  | .int n => .index n
  | k => .key k.render

def Segment.render : Segment → String
  | .key name => name
  | .index n => toString n

def Path.render : Path → String
  | [] => "<root>"
  | path => "/".intercalate (path.map Segment.render)

/-! ## Issues -/

inductive IssueKind where
  | tagMismatch
  | shapeMismatch
  | emptinessViolation
  | missingField
  | allAlternativesFailed
deriving DecidableEq, Repr

namespace IssueKind

def all : List IssueKind :=
  [.tagMismatch, .shapeMismatch, .emptinessViolation, .missingField, .allAlternativesFailed]

def name : IssueKind → String
  | .tagMismatch => "tag_mismatch"
  | .shapeMismatch => "shape_mismatch"
  | .emptinessViolation => "emptiness_violation"
  | .missingField => "missing_field"
  | .allAlternativesFailed => "all_alternatives_failed"

def ofName? (s : String) : Option IssueKind := all.find? fun k => k.name == s

end IssueKind

/-- The value of a missing field is `null`. -/
structure Issue where
  path : Path
  expected : String
  kind : IssueKind
  value : Value := .null
  causes : List Issue := []

namespace Issue

/-- The value itself is refused, for no deeper cause. -/
def refusal (path : Path) (expected : String) (kind : IssueKind) (value : Value) : Issue :=
  { path, expected, kind, value }

def message (issue : Issue) : String :=
  match issue.kind with
  | .missingField =>
    "Missing required field " ++ issue.path.render ++ ": expected " ++ issue.expected
  | _ =>
    "Invalid value " ++ issue.value.render ++ " supplied to " ++ issue.path.render ++
      ": expected " ++ issue.expected

/-! ## Leaves -/

mutual

/-- The issue itself, or the leaves of its causes if it has any. -/
def leaves : Issue → List Issue
  | ⟨path, expected, kind, value, []⟩ => [⟨path, expected, kind, value, []⟩]
  | ⟨_, _, _, _, cause :: rest⟩ => cause.leaves ++ leavesOf rest

def leavesOf : List Issue → List Issue
  | [] => []
  | issue :: rest => issue.leaves ++ leavesOf rest

end

theorem leaves_of_no_causes {issue : Issue} (h : issue.causes = []) : issue.leaves = [issue] := by
  obtain ⟨path, expected, kind, value, causes⟩ := issue
  subst h
  rfl

theorem leaves_of_causes {issue : Issue} (h : issue.causes ≠ []) :
    issue.leaves = leavesOf issue.causes := by
  obtain ⟨path, expected, kind, value, _ | ⟨cause, rest⟩⟩ := issue
  · exact absurd rfl h
  · rfl

theorem leavesOf_append (issues more : List Issue) :
    leavesOf (issues ++ more) = leavesOf issues ++ leavesOf more := by
  induction issues with
  | nil => rfl
  | cons issue rest ih => simp [leavesOf, ih]

def messages (issues : List Issue) : List String := (leavesOf issues).map message

def errorText (issues : List Issue) : String :=
  let text := "\n".intercalate (messages issues)
  if text.isEmpty then "Invalid value" else text

end Issue

end GeoSchema
