import TableSchema.Configuration

set_option autoImplicit false

namespace TableSchema

inductive CommandError where
  | config (message : String)
  | output (message : String)
  | log (message : String)
  | buildFailed (rejected : Nat)
  deriving DecidableEq, Repr

namespace CommandError

def code : CommandError → String
  | .config _ => "WORLDSCHEMA_CLI_CONFIG_ERROR"
  | .output _ => "WORLDSCHEMA_CLI_IO_ERROR"
  | .log _ => "WORLDSCHEMA_CLI_LOGGING_ERROR"
  | .buildFailed _ => "WORLDSCHEMA_CLI_BUILD_FAILED"

def message : CommandError → String
  | .config message | .output message | .log message => message
  | .buildFailed rejected => toString rejected ++ " namespace(s) or declaration(s) rejected"

def display (e : CommandError) : String :=
  e.code ++ ": " ++ e.message

def ofConfigurationError [Wording] (e : ConfigurationError) : CommandError :=
  .config e.message

def ofLogSetupError (e : LogSetupError) : CommandError :=
  .log e.message

def ofReport (report : BuildReport) : CommandError :=
  .buildFailed (report.failures.length + report.declarationErrors.length)

end CommandError

end TableSchema
