import TableSchema.Json.Record
import TableSchema.Json.Variant
import TableSchema.Violation

set_option autoImplicit false

namespace TableSchema

namespace Rule

def toJson (rule : Rule) : Json :=
  .text rule.code

def reader : Reader Rule :=
  Reader.variant (all.map fun rule => (rule.code, rule))

end Rule

namespace Violation

def toJson (v : Violation) : Json :=
  .object (
    [("kind", v.rule.toJson), ("namespace", .text v.namespaceName)] ++
    v.table.toList.map (fun name => ("table", .text name)) ++
    v.column.toList.map (fun name => ("column", .text name)) ++
    [("message", .text v.message)])

structure Draft where
  rule : Option Rule := none
  namespaceName : Option String := none
  table : Option (Option String) := none
  column : Option (Option String) := none
  message : Option String := none

def shape : RecordShape Draft Violation where
  title := "struct SchemaViolation"
  strict := false
  blank := {}
  fields := [
    .of "kind" true Draft.rule (fun d v => { d with rule := some v }) Rule.reader,
    .of "namespace" true Draft.namespaceName (fun d v => { d with namespaceName := some v })
      Reader.text,
    .of "table" false Draft.table (fun d v => { d with table := some v })
      (Reader.optional Reader.text),
    .of "column" false Draft.column (fun d v => { d with column := some v })
      (Reader.optional Reader.text),
    .of "message" true Draft.message (fun d v => { d with message := some v }) Reader.text]
  finish draft := do
    return {
      rule := ← RecordShape.need "kind" draft.rule
      namespaceName := ← RecordShape.need "namespace" draft.namespaceName
      table := draft.table.getD none
      column := draft.column.getD none
      message := ← RecordShape.need "message" draft.message }

end Violation

end TableSchema
