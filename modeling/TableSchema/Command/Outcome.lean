import TableSchema.Command.Basic
import TableSchema.Log.Line

/-!
Outcomes: everything that a run of a command leaves behind.

Nothing is logged before the configuration has been read, since it says what to log and how.
-/

set_option autoImplicit false

namespace TableSchema

/-- What a run leaves behind: the bytes of its output, the records that its filter shows, their
format, and the error that ended it. -/
structure Outcome where
  output : List UInt8
  records : List LogRecord
  format : LogFormat
  failure : Option CommandError

namespace Outcome

def status (outcome : Outcome) : UInt8 :=
  if outcome.failure.isSome then 1 else 0

/-- A run that an error ended before anything was written or logged. -/
def ofFailure (e : CommandError) : Outcome :=
  ⟨[], [], .default, some e⟩

def ofResult (result : Except CommandError Unit × Sink) (records : List LogRecord)
    (format : LogFormat) : Outcome :=
  let failure := match result.1 with
    | .ok () => none
    | .error e => some e
  ⟨result.2.written, records, format, failure⟩

def messages (outcome : Outcome) : List String :=
  outcome.records.map (LogRecord.line outcome.format) ++
    outcome.failure.toList.map CommandError.display

end Outcome

namespace Command

def runConfigured [Wording] (files : Files) (override : Option String) (path : String)
    (action : Files → Configuration → Sink → Logged (Except CommandError Unit × Sink)) : Outcome :=
  match Configuration.load files path with
  | .error e => .ofFailure (.ofConfigurationError e)
  | .ok config =>
    match config.logSettings.filter override with
    | .error e => .ofFailure (.ofLogSetupError e)
    | .ok filter =>
      let run := do
        Logged.tell (.configLoaded path config.declarations.length)
        action files config Sink.unlimited
      .ofResult run.value (run.records.filter filter.shows) config.logFormat

/-- Runs a command. The override, if there is one, says what to log in place of the
configuration. -/
def run [Wording] (files : Files) (override : Option String) : Command → Outcome
  | .check path => runConfigured files override path runCheck
  | .compile path => runConfigured files override path runCompile
  | .catalog => .ofResult (runCatalog Sink.unlimited) [] .default

end Command

end TableSchema
