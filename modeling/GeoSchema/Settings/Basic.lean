import GeoSchema.Settings.Variables
import GeoSchema.Value.Lenient

/-!
# Settings

How a validation reports: whether it stops at the first failing part, how many issues it hands
over, and from which level on the self-check shows its log.

How settings are read off their sources is left to a loader. Sessions and the self-check run with
any loader, and what is proved of them holds of any.
-/

namespace GeoSchema

/-- An upper bound on a count of issues. It never hides all of them. -/
structure Cap where
  limit : Nat
  pos : 0 < limit
deriving DecidableEq, Repr

structure Settings where
  failFast : Bool := false
  maxIssues : Option Cap := none
  logLevel : String := "INFO"
deriving DecidableEq, Repr

inductive Setting where
  | failFast
  | maxIssues
  | logLevel
deriving DecidableEq, Repr

namespace Setting

def name : Setting → String
  | .failFast => "fail_fast"
  | .maxIssues => "max_issues"
  | .logLevel => "log_level"

/-- The name of the variable that holds the setting. Its case does not matter. -/
def variableName (s : Setting) : String := "geojson_io_" ++ s.name

end Setting

/-! ## Faults -/

structure Fault where
  setting : Setting
  misfit : Misfit
deriving DecidableEq, Repr

/-! ## Loaders -/

/-- What a caller gives by keywords, the environment, and what a dotenv text binds. -/
structure Sources where
  keywords : List (String × Value) := []
  environment : Variables String := []
  dotenv : Variables (Option String) := []

/-- Makes settings from sources, or tells what is wrong with them. -/
abbrev Loader := Sources → Except (List Fault) Settings

end GeoSchema
