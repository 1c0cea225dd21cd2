import TableSchema.NormalForm
import TableSchema.Violation

/-!
The rules of a namespace.

In every table the column names differ and the column types are in the catalog; key entries differ
and name columns of fixed width; codegen hints are among those that the namespace recognizes. The
tables of a namespace differ in name and in resource id. Every violation is reported: table by
table, and in a table those of the columns, of the key, of the table's name, and of the hints.
-/

set_option autoImplicit false

namespace TableSchema

/-- The compiled namespace, or all its violations in the order in which they are found. -/
abbrev Verdict := Except (List Violation) NormalNamespace

namespace Table

/-- Columns by name with their types; of columns with one name the first counts, and an unknown
type is `none`. -/
def columnTypes (table : Table) : List (String × Option ColumnType) :=
  table.columns.foldl (fun types column =>
    if (types.lookup column.name).isSome then types
    else types ++ [(column.name, ColumnType.ofName? column.typeName)]) []

def columnViolations (ns table : String) : List String → List Column → List Violation
  | _, [] => []
  | seen, column :: rest =>
    let repeated :=
      if seen.contains column.name then [Violation.duplicateColumn ns table column.name] else []
    let unknown :=
      match ColumnType.ofName? column.typeName with
      | some _ => []
      | none => [Violation.unknownType ns table column.name column.typeName]
    repeated ++ unknown ++ columnViolations ns table (column.name :: seen) rest

/-- Violations of the key entries after those that are `seen`. A repeated entry is reported as
that alone, and an entry whose column has an unknown type is not reported again. -/
def keyViolations (ns table : String) (types : List (String × Option ColumnType)) :
    List String → List String → List Violation
  | _, [] => []
  | seen, entry :: rest =>
    let found :=
      if seen.contains entry then [Violation.duplicateKeyColumn ns table entry]
      else match types.lookup entry with
        | none => [Violation.invalidKeyColumn ns table entry]
        | some none => []
        | some (some type) =>
          if type.isKeyEligible then []
          else [Violation.ineligibleKeyType ns table entry type.name]
    found ++ keyViolations ns table types (entry :: seen) rest

def hintViolations (ns : Namespace) (table : Table) : List Violation :=
  (table.codegen.names.filter fun hint => !ns.recognizedHints.contains hint).map
    (Violation.unknownCodegenHint ns.name table.name)

def typedColumns (table : Table) : List TypedColumn :=
  let types := table.columnTypes
  table.columns.filterMap fun column =>
    match types.lookup column.name with
    | some (some type) => some ⟨column.name, type⟩
    | _ => none

end Table

/-- Table names met so far, and the latest table met under each resource id. A table whose name
was met before leaves no id. -/
structure SeenTables where
  names : List String
  ids : List (ResourceId × String)

namespace SeenTables

def empty : SeenTables := ⟨[], []⟩

def add (seen : SeenTables) (ns : Namespace) (table : Table) : SeenTables :=
  if seen.names.contains table.name then seen
  else
    { names := table.name :: seen.names
      ids := (ResourceId.ofTable ns.name table.name table.persisted, table.name) :: seen.ids }

def nameViolations (seen : SeenTables) (ns : Namespace) (table : Table) : List Violation :=
  if seen.names.contains table.name then [Violation.duplicateTable ns.name table.name]
  else match seen.ids.lookup (ResourceId.ofTable ns.name table.name table.persisted) with
    | some existing => [Violation.tableIdCollision ns.name table.name existing]
    | none => []

end SeenTables

namespace Namespace

def tableViolations (ns : Namespace) (seen : SeenTables) (table : Table) : List Violation :=
  Table.columnViolations ns.name table.name [] table.columns ++
  Table.keyViolations ns.name table.name table.columnTypes [] table.key ++
  seen.nameViolations ns table ++
  Table.hintViolations ns table

/-- The violations of tables after those seen. -/
def violationsAfter (ns : Namespace) : SeenTables → List Table → List Violation
  | _, [] => []
  | seen, table :: rest =>
    ns.tableViolations seen table ++ violationsAfter ns (seen.add ns table) rest

def violations (ns : Namespace) : List Violation :=
  ns.violationsAfter SeenTables.empty ns.tables

def validate (ns : Namespace) : Verdict :=
  match ns.violations with
  | [] => .ok (NormalNamespace.ofTables ns (ns.tables.map fun table =>
      NormalTable.ofTable ns.name table table.typedColumns))
  | found => .error found

end Namespace

end TableSchema
