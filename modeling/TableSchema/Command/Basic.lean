import TableSchema.Catalog.Basic
import TableSchema.Command.Response
import TableSchema.NormalForm.Json
import TableSchema.Loading
import TableSchema.Violation.Json

set_option autoImplicit false

namespace TableSchema

inductive Command where
  | check (config : String)
  | compile (config : String)
  | catalog
  deriving DecidableEq, Repr

namespace BuildReport

def summary (report : BuildReport) : Json :=
  .object [("namespaces", .array (report.registry.namespaces.map fun ns =>
    .object [("name", .text ns.name), ("tables", .ofNat ns.tables.length)]))]

def schema (report : BuildReport) : Json :=
  .object [("namespaces", .array (report.registry.namespaces.map NormalNamespace.toJson))]

/-- Everything that went wrong. -/
def problems [Wording] (report : BuildReport) : Json :=
  .object [
    ("violations", .array (report.violations.map Violation.toJson)),
    ("declaration_errors", .array (report.declarationErrors.map DeclarationError.toJson))]

/-- Answers with the given data, or with everything that went wrong. -/
def respond [Wording] (report : BuildReport) (data : BuildReport → Json) (sink : Sink) :
    Except CommandError Unit × Sink :=
  if report.isSuccess then sink.write (.ok (data report))
  else
    let failure := CommandError.ofReport report
    match sink.write (.error failure.code report.problems) with
    | (.error e, sink) => (.error e, sink)
    | (.ok (), sink) => (.error failure, sink)

end BuildReport

namespace Command

def build (files : Files) (config : Configuration) : Logged BuildReport := do
  let loaded ← Loading.ofPaths files (config.declarations.map FilePath.ofText)
  Build.ofLoaded config.buildOptions loaded config.recognizedHints

def runCheck [Wording] (files : Files) (config : Configuration) (sink : Sink) :
    Logged (Except CommandError Unit × Sink) := do
  let report ← build files config
  return report.respond BuildReport.summary sink

def runCompile [Wording] (files : Files) (config : Configuration) (sink : Sink) :
    Logged (Except CommandError Unit × Sink) := do
  let report ← build files config
  return report.respond BuildReport.schema sink

def width (type : ColumnType) : Json :=
  match type.staticByteLength? with
  | some length => .ofNat length
  | none => .null

def catalogData : Json :=
  .object [("types", .array (Scalar.all.map fun kind =>
    .object [
      ("type", .text (ColumnType.scalar kind).name),
      ("array_type", .text (ColumnType.array kind).name),
      ("static_byte_length", width (.scalar kind)),
      ("key_eligible", .bool (ColumnType.scalar kind).isKeyEligible)]))]

def runCatalog (sink : Sink) : Except CommandError Unit × Sink :=
  sink.write (.ok catalogData)

end Command

end TableSchema
