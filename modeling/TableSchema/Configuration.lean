import TableSchema.Build
import TableSchema.Json.Options
import TableSchema.Json.Record
import TableSchema.Log.Settings

set_option autoImplicit false

namespace TableSchema

/-- A configuration. `logLevel` is a level by its name. -/
structure Configuration where
  declarations : List String
  recognizedHints : HintSet
  parallelValidation : Bool
  maxParallelism : UInt64
  logLevel : String
  logFormat : LogFormat
  deriving DecidableEq

inductive ConfigurationFlaw where
  | noDeclarations
  | noWorkers
  | unknownLevel (text : String)
  deriving DecidableEq, Repr

namespace ConfigurationFlaw

def message : ConfigurationFlaw → String
  | .noDeclarations => "declarations must list at least one path"
  | .noWorkers => "max_parallelism must be > 0"
  | .unknownLevel text =>
    "Invalid log_level: '" ++ text ++ "'. Expected one of " ++ ", ".intercalate Level.names ++ "."

end ConfigurationFlaw

inductive ConfigurationError where
  | unreadable (path : String) (failure : FileFailure)
  | malformed (problem : Problem)
  | invalid (flaw : ConfigurationFlaw)
  deriving DecidableEq, Repr

namespace ConfigurationError

def message [Wording] : ConfigurationError → String
  | .unreadable path failure => "failed to read config " ++ path ++ ": " ++ failure.message
  | .malformed problem => "invalid config JSON: " ++ Wording.ofConfiguration problem
  | .invalid flaw => flaw.message

end ConfigurationError

namespace Configuration

def ofDeclarations (declarations : List String) : Configuration :=
  { declarations
    recognizedHints := HintSet.default
    parallelValidation := BuildOptions.default.parallel
    maxParallelism := BuildOptions.default.maxWorkers.toUInt64
    logLevel := LogSettings.default.level
    logFormat := LogSettings.default.format }

def flaw? (config : Configuration) : Option ConfigurationFlaw :=
  if config.declarations.isEmpty then some .noDeclarations
  else if config.maxParallelism = 0 then some .noWorkers
  else if config.logLevel ∉ Level.names then some (.unknownLevel config.logLevel)
  else none

def buildOptions (config : Configuration) : BuildOptions :=
  ⟨config.parallelValidation, config.maxParallelism.toNat⟩

def logSettings (config : Configuration) : LogSettings :=
  ⟨config.logLevel, config.logFormat⟩

def toJson (config : Configuration) : Json :=
  .object [
    ("declarations", .ofTexts config.declarations),
    ("recognized_codegen_hints", config.recognizedHints.toJson),
    ("parallel_validation", .bool config.parallelValidation),
    ("max_parallelism", .ofNat config.maxParallelism.toNat),
    ("log_level", .text config.logLevel),
    ("log_format", config.logFormat.toJson)]

structure Draft where
  declarations : Option (List String) := none
  recognizedHints : Option HintSet := none
  parallelValidation : Option Bool := none
  maxParallelism : Option UInt64 := none
  logLevel : Option String := none
  logFormat : Option LogFormat := none

private def count : Reader UInt64 :=
  (Reader.natural UInt64.size "usize").map fun n => n.val.toUInt64

def shape : RecordShape Draft Configuration where
  title := "struct CompilerConfig"
  strict := true
  blank := {}
  fields := [
    .of "declarations" true Draft.declarations (fun d v => { d with declarations := some v })
      (Reader.listOf (Reader.textOf "path string")),
    .of "recognized_codegen_hints" false Draft.recognizedHints
      (fun d v => { d with recognizedHints := some v }) HintSet.reader,
    .of "parallel_validation" false Draft.parallelValidation
      (fun d v => { d with parallelValidation := some v }) Reader.bool,
    .of "max_parallelism" false Draft.maxParallelism
      (fun d v => { d with maxParallelism := some v }) count,
    .of "log_level" false Draft.logLevel (fun d v => { d with logLevel := some v }) Reader.text,
    .of "log_format" false Draft.logFormat (fun d v => { d with logFormat := some v })
      LogFormat.reader]
  finish draft := do
    let declarations ← RecordShape.need "declarations" draft.declarations
    let defaults := ofDeclarations declarations
    return {
      declarations
      recognizedHints := draft.recognizedHints.getD defaults.recognizedHints
      parallelValidation := draft.parallelValidation.getD defaults.parallelValidation
      maxParallelism := draft.maxParallelism.getD defaults.maxParallelism
      logLevel := draft.logLevel.getD defaults.logLevel
      logFormat := draft.logFormat.getD defaults.logFormat }

def ofText (text : String) : Except ConfigurationError Configuration :=
  match Reader.run shape.reader text with
  | .error problem => .error (.malformed problem)
  | .ok config =>
    match config.flaw? with
    | some flaw => .error (.invalid flaw)
    | none => .ok config

/-- The configuration of a file. Relative declarations start from the file's directory. -/
def load (files : Files) (path : String) : Except ConfigurationError Configuration :=
  match files.readText path with
  | .error failure => .error (.unreadable path failure)
  | .ok text => (ofText text).map fun config =>
    { config with
      declarations := config.declarations.map (FilePath.joinText (FilePath.parent path)) }

end Configuration

end TableSchema
