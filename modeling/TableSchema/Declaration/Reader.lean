import TableSchema.Declaration.Basic
import TableSchema.Json.Options
import TableSchema.Json.Record

set_option autoImplicit false

namespace TableSchema

namespace FullTable

structure Draft where
  schema : Option (List (String × String)) := none
  key : Option (List String) := none
  tableType : Option (Option String) := none
  codegen : Option Options := none

def shape : RecordShape Draft FullTable where
  title := "struct TableBody"
  strict := true
  blank := {}
  fields := [
    .of "schema" true Draft.schema (fun d v => { d with schema := some v })
      (Reader.membersOf "a JSON object" Reader.text),
    .of "key" true Draft.key (fun d v => { d with key := some v }) (Reader.listOf Reader.text),
    .of "type" false Draft.tableType (fun d v => { d with tableType := some v })
      (Reader.optional Reader.text),
    .of "codegen" false Draft.codegen (fun d v => { d with codegen := some v }) Options.reader]
  finish draft := do
    return {
      schema := ← RecordShape.need "schema" draft.schema
      key := ← RecordShape.need "key" draft.key
      tableType := draft.tableType.getD none
      codegen := draft.codegen.getD Options.empty }

end FullTable

namespace TableDeclaration

/-- A type name or a body; a body is always an object. -/
def reader : Reader TableDeclaration := fun depth node =>
  match node with
  | .text (some valueType) => .ok (.shorthand valueType)
  | .object members ending => (FullTable.shape.readObject depth members ending).map .full
  | node => .error (node.mismatch "a table object or a type name")

end TableDeclaration

namespace Declaration

structure Draft where
  namespaceName : Option String := none
  tables : Option (List (String × TableDeclaration)) := none
  deploy : Option Options := none
  codegenHints : Option (Option (List String)) := none

def shape : RecordShape Draft Declaration where
  title := "struct NamespaceDeclaration"
  strict := true
  blank := {}
  fields := [
    .of "namespace" true Draft.namespaceName (fun d v => { d with namespaceName := some v })
      Reader.text,
    .of "tables" false Draft.tables (fun d v => { d with tables := some v })
      (Reader.membersOf "a JSON object" TableDeclaration.reader),
    .of "deploy" false Draft.deploy (fun d v => { d with deploy := some v }) Options.reader,
    .of "codegenHints" false Draft.codegenHints (fun d v => { d with codegenHints := some v })
      (Reader.optional (Reader.listOf Reader.text))]
  finish draft := do
    return {
      namespaceName := ← RecordShape.need "namespace" draft.namespaceName
      tables := draft.tables.getD []
      deploy := draft.deploy.getD Options.empty
      codegenHints := draft.codegenHints.getD none }

/-- One declaration, or an array of declarations. A single declaration is an object: an array is
always taken for several. -/
def documentReader : Reader (List Declaration) := fun depth node =>
  match node with
  | .array .. => Reader.listOf shape.reader depth node
  | node => (shape.reader depth node).map fun one => [one]

def ofText (text : String) : Except Problem (List Declaration) :=
  Reader.run documentReader text

end Declaration

end TableSchema
