import GeoSchema.Text.Template
import GeoSchema.Validation

/-!
# Guarding a field

A schema may guard a field of a larger model. The model takes one error for the field, and its
text comes from a template with two placeholders.
-/

namespace GeoSchema

structure GuardError where
  expected : String
  details : String
deriving DecidableEq, Repr

namespace GuardError

def code : String := "geojson_invalid"

def expectedMark : String := "\x7bexpected\x7d"

def detailsMark : String := "\x7bdetails\x7d"

def template : String := "Invalid " ++ expectedMark ++ ": " ++ detailsMark

/-- The details are filled in last, also where the expected text names their placeholder. -/
def message (e : GuardError) : String :=
  Text.replaceAll detailsMark e.details (Text.replaceAll expectedMark e.expected template)

end GuardError

/-- The document itself, or one error that tells of all its issues. -/
def Schema.guardField (s : Schema) (document : Value) : Except GuardError Value :=
  (s.decode document).mapError fun rejection =>
    { expected := s.name, details := "; ".intercalate (Issue.messages rejection.issues) }

end GeoSchema
