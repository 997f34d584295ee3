/-!
# Log records

A record has a level, the logger that wrote it, and a text. A log is shown from a level on.
-/

namespace GeoSchema

inductive Level where
  | notSet
  | debug
  | info
  | warning
  | error
  | critical
deriving DecidableEq, Repr

namespace Level

/-- Levels by name. Two of them go by a second name. -/
def byName : List (String × Level) :=
  [("NOTSET", .notSet), ("DEBUG", .debug), ("INFO", .info), ("WARNING", .warning),
    ("WARN", .warning), ("ERROR", .error), ("CRITICAL", .critical), ("FATAL", .critical)]

def ofName? (name : String) : Option Level := byName.lookup name

def name : Level → String
  | .notSet => "NOTSET"
  | .debug => "DEBUG"
  | .info => "INFO"
  | .warning => "WARNING"
  | .error => "ERROR"
  | .critical => "CRITICAL"

def severity : Level → Nat
  | .notSet => 0
  | .debug => 10
  | .info => 20
  | .warning => 30
  | .error => 40
  | .critical => 50

end Level

inductive Logger where
  | validation
  | selfCheck
deriving DecidableEq, Repr

def Logger.name : Logger → String
  | .validation => "geojson_io.validators"
  | .selfCheck => "scripts.self_check"

structure LogRecord where
  level : Level
  logger : Logger
  text : String
deriving DecidableEq, Repr

namespace LogRecord

def line (r : LogRecord) : String := r.level.name ++ " " ++ r.logger.name ++ ": " ++ r.text

def shownFrom (threshold : Level) (log : List LogRecord) : List LogRecord :=
  log.filter fun r => threshold.severity ≤ r.level.severity

def writtenBy (logger : Logger) (log : List LogRecord) : List LogRecord :=
  log.filter fun r => r.logger == logger

end LogRecord

end GeoSchema
