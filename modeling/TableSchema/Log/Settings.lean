import TableSchema.Json.Variant
import TableSchema.Log.Filter

set_option autoImplicit false

namespace TableSchema

/-- The form of log lines: one object on each line, or words for a reader. -/
inductive LogFormat where
  | json
  | pretty
  deriving DecidableEq, Repr

namespace LogFormat

def name : LogFormat → String
  | .json => "json"
  | .pretty => "pretty"

def default : LogFormat := .json

def toJson (format : LogFormat) : Json :=
  .text format.name

def reader : Reader LogFormat :=
  Reader.variant [("json", .json), ("pretty", .pretty)]

end LogFormat

structure LogSettings where
  level : String
  format : LogFormat
  deriving DecidableEq, Repr

inductive LogSetupError where
  | unknownLevel (text : String)
  deriving DecidableEq, Repr

namespace LogSetupError

def message : LogSetupError → String
  | .unknownLevel text => "invalid log level '" ++ text ++ "'"

end LogSetupError

namespace LogSettings

def default : LogSettings := ⟨"info", .default⟩

/-- The target that all components of the compiler are below. -/
def target : String := "worldschema"

/-- The filter in force: the override where it can be read, else the level of the settings. -/
def filter (settings : LogSettings) (override : Option String) :
    Except LogSetupError LogFilter :=
  match Level.ofName? settings.level with
  | none => .error (.unknownLevel settings.level)
  | some level => .ok ((override.bind LogFilter.ofText?).getD (LogFilter.ofTarget target level))

end LogSettings

end TableSchema
