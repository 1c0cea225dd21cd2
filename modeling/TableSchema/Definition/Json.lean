import TableSchema.Json.Options
import TableSchema.Json.Record
import TableSchema.Definition

set_option autoImplicit false

namespace TableSchema

namespace Column

def toJson (column : Column) : Json :=
  .object [("name", .text column.name), ("type", .text column.typeName)]

structure Draft where
  name : Option String := none
  typeName : Option String := none

def shape : RecordShape Draft Column where
  title := "struct Column"
  strict := false
  blank := {}
  fields := [
    .of "name" true Draft.name (fun d v => { d with name := some v }) Reader.text,
    .of "type" true Draft.typeName (fun d v => { d with typeName := some v }) Reader.text]
  finish draft := do
    return {
      name := ← RecordShape.need "name" draft.name
      typeName := ← RecordShape.need "type" draft.typeName }

end Column

namespace Table

def toJson (table : Table) : Json :=
  .object [
    ("name", .text table.name),
    ("columns", .array (table.columns.map Column.toJson)),
    ("key", .ofTexts table.key),
    ("persisted", .bool table.persisted),
    ("codegen", table.codegen.toJson)]

structure Draft where
  name : Option String := none
  columns : Option (List Column) := none
  key : Option (List String) := none
  persisted : Option Bool := none
  codegen : Option Options := none

def shape : RecordShape Draft Table where
  title := "struct Table"
  strict := false
  blank := {}
  fields := [
    .of "name" true Draft.name (fun d v => { d with name := some v }) Reader.text,
    .of "columns" true Draft.columns (fun d v => { d with columns := some v })
      (Reader.listOf Column.shape.reader),
    .of "key" true Draft.key (fun d v => { d with key := some v }) (Reader.listOf Reader.text),
    .of "persisted" true Draft.persisted (fun d v => { d with persisted := some v }) Reader.bool,
    .of "codegen" false Draft.codegen (fun d v => { d with codegen := some v }) Options.reader]
  finish draft := do
    return {
      name := ← RecordShape.need "name" draft.name
      columns := ← RecordShape.need "columns" draft.columns
      key := ← RecordShape.need "key" draft.key
      persisted := ← RecordShape.need "persisted" draft.persisted
      codegen := draft.codegen.getD Options.empty }

end Table

namespace Namespace

def toJson (ns : Namespace) : Json :=
  .object [
    ("name", .text ns.name),
    ("tables", .array (ns.tables.map Table.toJson)),
    ("deploy", ns.deploy.toJson),
    ("recognized_hints", ns.recognizedHints.toJson)]

structure Draft where
  name : Option String := none
  tables : Option (List Table) := none
  deploy : Option Options := none
  recognizedHints : Option HintSet := none

def shape : RecordShape Draft Namespace where
  title := "struct Namespace"
  strict := false
  blank := {}
  fields := [
    .of "name" true Draft.name (fun d v => { d with name := some v }) Reader.text,
    .of "tables" true Draft.tables (fun d v => { d with tables := some v })
      (Reader.listOf Table.shape.reader),
    .of "deploy" false Draft.deploy (fun d v => { d with deploy := some v }) Options.reader,
    .of "recognized_hints" true Draft.recognizedHints
      (fun d v => { d with recognizedHints := some v }) HintSet.reader]
  finish draft := do
    return {
      name := ← RecordShape.need "name" draft.name
      tables := ← RecordShape.need "tables" draft.tables
      deploy := draft.deploy.getD Options.empty
      recognizedHints := ← RecordShape.need "recognized_hints" draft.recognizedHints }

end Namespace

end TableSchema
