import TableSchema.Catalog.Basic
import TableSchema.Definition
import TableSchema.ResourceId

/-!
Compiled schemas: tables in normal form, as the registry stores them.

In the normal form the key columns stand in key order, and the others with those of fixed width
first, each group in declaration order.
-/

set_option autoImplicit false

namespace TableSchema

structure TypedColumn where
  name : String
  type : ColumnType
  deriving DecidableEq, Repr

/-- How the values of a table are laid out: the sum of the fixed widths, and how many columns are
of fixed and of variable width. -/
structure Layout where
  staticByteLength : Nat
  staticFields : Nat
  dynamicFields : Nat
  deriving DecidableEq, Repr

namespace Layout

def empty : Layout := ⟨0, 0, 0⟩

def add (layout : Layout) (column : TypedColumn) : Layout :=
  match column.type.staticByteLength? with
  | some length =>
    { layout with
      staticByteLength := layout.staticByteLength + length
      staticFields := layout.staticFields + 1 }
  | none => { layout with dynamicFields := layout.dynamicFields + 1 }

def ofColumns (columns : List TypedColumn) : Layout :=
  columns.foldl add empty

end Layout

structure NormalTable where
  name : String
  resourceId : ResourceId
  persisted : Bool
  columns : List TypedColumn
  keySchema : List TypedColumn
  valueSchema : List TypedColumn
  layout : Layout
  codegen : Options
  deriving DecidableEq

namespace NormalTable

/-- Brings a table into normal form. The columns must be those of the table, in declaration order,
without repeats, and every key entry must name one of them. -/
def ofTable (namespaceName : String) (table : Table) (columns : List TypedColumn) :
    NormalTable :=
  let key := table.key.filterMap fun entry => columns.find? (·.name == entry)
  let values := columns.filter fun column => !table.key.contains column.name
  let (dynamicValues, staticValues) := values.partition (·.type.isVariableWidth)
  let values := staticValues ++ dynamicValues
  { name := table.name
    resourceId := ResourceId.ofTable namespaceName table.name table.persisted
    persisted := table.persisted
    columns := columns
    keySchema := key
    valueSchema := values
    layout := Layout.ofColumns values
    codegen := table.codegen }

def isSingleton (table : NormalTable) : Bool :=
  table.keySchema.isEmpty

end NormalTable

structure NormalNamespace where
  name : String
  deploy : Options
  tables : List NormalTable
  definition : Namespace
  deriving DecidableEq

namespace NormalNamespace

def ofTables (definition : Namespace) (tables : List NormalTable) : NormalNamespace :=
  ⟨definition.name, definition.deploy, tables, definition⟩

def table? (ns : NormalNamespace) (name : String) : Option NormalTable :=
  ns.tables.find? (·.name == name)

end NormalNamespace

end TableSchema
