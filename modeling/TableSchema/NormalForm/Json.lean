import TableSchema.NormalForm

set_option autoImplicit false

namespace TableSchema

namespace TypedColumn

def toJson (column : TypedColumn) : Json :=
  .object [("name", .text column.name), ("type", .text column.type.name)]

end TypedColumn

namespace Layout

def toJson (layout : Layout) : Json :=
  .object [
    ("static_byte_length", .ofNat layout.staticByteLength),
    ("static_fields", .ofNat layout.staticFields),
    ("dynamic_fields", .ofNat layout.dynamicFields)]

end Layout

namespace NormalTable

def toJson (table : NormalTable) : Json :=
  .object [
    ("name", .text table.name),
    ("resource_id", .text table.resourceId.toHex),
    ("persisted", .bool table.persisted),
    ("columns", .array (table.columns.map TypedColumn.toJson)),
    ("key_schema", .array (table.keySchema.map TypedColumn.toJson)),
    ("value_schema", .array (table.valueSchema.map TypedColumn.toJson)),
    ("layout", table.layout.toJson),
    ("codegen", table.codegen.toJson)]

end NormalTable

namespace NormalNamespace

def toJson (ns : NormalNamespace) : Json :=
  .object [
    ("name", .text ns.name),
    ("deploy", ns.deploy.toJson),
    ("tables", .array (ns.tables.map NormalTable.toJson))]

end NormalNamespace

end TableSchema
