import GeoSchema.Scope
import GeoSchema.Settings.Sources
import GeoSchema.Validation

/-!
# Sessions

A session keeps the environment, the names defined so far, and a cache for the settings. The cache
keeps the first settings that could be made since it was last cleared; later changes of the
environment do not touch it. The loader stays the same in all steps, and so does the dotenv text if
it reads one: a session changes variables, but no file.
-/

namespace GeoSchema

structure Session where
  load : Loader := Settings.ofSources
  environment : Variables String := []
  cached : Option Settings := none
  scope : Scope := {}

inductive Step where
  | setVariable (name text : String)
  | unsetVariable (name : String)
  | clearCache
  | getSettings
  | define (name : String) (schema : Declaration)
  | validate (schema : Declaration) (document : Value) (keywords : Option (List (String × Value)))

inductive Answer where
  | done
  | settings (settings : Settings)
  | defined (displayName : String)
  | verdict (verdict : Verdict) (record : LogRecord)

inductive Failure where
  | build (e : BuildError)
  | settings (faults : List Fault)

namespace Session

/-! ## Settings -/

/-- The settings in the cache. An empty cache is filled with those of the environment, if it is
without faults. -/
def getSettings (session : Session) : Except (List Fault) (Settings × Session) :=
  match session.cached with
  | some settings => .ok (settings, session)
  | none =>
    match session.load { environment := session.environment } with
    | .ok settings => .ok (settings, { session with cached := some settings })
    | .error faults => .error faults

/-- Settings given by keywords do not touch the cache, but take from the environment what the
keywords leave open. -/
def settingsFor (session : Session) :
    Option (List (String × Value)) → Except (List Fault) (Settings × Session)
  | none => session.getSettings
  | some keywords =>
    match session.load { keywords, environment := session.environment } with
    | .ok settings => .ok (settings, session)
    | .error faults => .error faults

/-! ## Steps -/

/-- The schema is built before the settings are asked for. -/
def validate (session : Session) (schema : Declaration) (document : Value)
    (keywords : Option (List (String × Value))) :
    Except Failure ((Verdict × LogRecord) × Session) := do
  let (s, _) ← (schema.build session.scope).mapError Failure.build
  let (settings, after) ← (session.settingsFor keywords).mapError Failure.settings
  return (s.schema.validate document settings, after)

def define (session : Session) (name : String) (schema : Declaration) :
    Except Failure (String × Session) := do
  let (s, scope) ← (schema.build session.scope).mapError Failure.build
  return (s.schema.name, { session with scope := scope.define name s })

def perform (session : Session) : Step → Except Failure (Answer × Session)
  | .setVariable name text =>
    .ok (.done, { session with environment := Variables.set name text session.environment })
  | .unsetVariable name =>
    .ok (.done, { session with environment := Variables.unset name session.environment })
  | .clearCache => .ok (.done, { session with cached := none })
  | .getSettings => do
    let (settings, after) ← session.getSettings.mapError Failure.settings
    return (.settings settings, after)
  | .define name schema => do
    let (displayName, after) ← session.define name schema
    return (.defined displayName, after)
  | .validate schema document keywords => do
    let ((verdict, record), after) ← session.validate schema document keywords
    return (.verdict verdict record, after)

/-- A step that fails changes nothing, and the session goes on. -/
def step (session : Session) (s : Step) : Except Failure Answer × Session :=
  match session.perform s with
  | .ok (answer, after) => (.ok answer, after)
  | .error failure => (.error failure, session)

def run (session : Session) : List Step → List (Except Failure Answer)
  | [] => []
  | s :: rest => (session.step s).1 :: run (session.step s).2 rest

end Session

end GeoSchema
