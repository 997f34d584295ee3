import GeoSchema.Settings.Basic
import GeoSchema.Settings.Dotenv

/-!
# Where settings come from

The loaders that the programs run with, as instances of `Loader`. A setting is looked for among the
keywords, then in the environment, then in the dotenv text; the first source that mentions it
decides, and no other source is asked, even if the value does not fit.
-/

namespace GeoSchema

namespace Settings

/-! ## Caps -/

def capOfInteger (n : Int) : Except Misfit Cap :=
  if h : 0 < n.toNat then .ok ⟨n.toNat, h⟩ else .error .belowOne

/-- Only `null` itself lifts the cap, and no text does. -/
def capOf : Value → Except Misfit (Option Cap)
  | .null => .ok none
  | v => do return some (← capOfInteger (← v.toInteger))

end Settings

/-! ## Sources -/

namespace Sources

def find? (sources : Sources) (s : Setting) : Option Value :=
  sources.keywords.lookup s.name
    <|> (sources.environment.find? s.variableName).map Value.text
    <|> (sources.dotenv.find? s.variableName).join.map Value.text

/-- The setting, converted, or its default if no source mentions it. -/
def get {α : Type} (sources : Sources) (s : Setting) (convert : Value → Except Misfit α)
    (default : α) : Except Fault α :=
  match sources.find? s with
  | none => .ok default
  | some v => (convert v).mapError fun misfit => ⟨s, misfit⟩

def failFast (sources : Sources) : Except Fault Bool := sources.get .failFast Value.toFlag false

def maxIssues (sources : Sources) : Except Fault (Option Cap) :=
  sources.get .maxIssues Settings.capOf none

/-- Any text will do; whether it names a level is seen where it is used. -/
def logLevel (sources : Sources) : Except Fault String :=
  sources.get .logLevel Value.toText "INFO"

end Sources

/-! ## Settings from sources -/

def faultsOf {α : Type} : Except Fault α → List Fault
  | .ok _ => []
  | .error fault => [fault]

/-- The settings, or the faults of all the settings that have one. -/
def Settings.ofSources (sources : Sources) : Except (List Fault) Settings :=
  match sources.failFast, sources.maxIssues, sources.logLevel with
  | .ok failFast, .ok maxIssues, .ok logLevel => .ok { failFast, maxIssues, logLevel }
  | failFast, maxIssues, logLevel =>
    .error (faultsOf failFast ++ faultsOf maxIssues ++ faultsOf logLevel)

/-- The loader with a dotenv text of its own, whose references are to the environment of the call. -/
def Settings.withDotenv (text : String) : Loader := fun sources =>
  ofSources { sources with dotenv := Dotenv.boundIn sources.environment text }

end GeoSchema
