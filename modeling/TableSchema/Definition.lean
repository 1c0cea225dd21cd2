import TableSchema.HintSet
import TableSchema.Options

set_option autoImplicit false

namespace TableSchema

structure Column where
  name : String
  typeName : String
  deriving DecidableEq, Repr

structure Table where
  name : String
  columns : List Column
  key : List String
  persisted : Bool
  codegen : Options
  deriving DecidableEq

/-- A declared namespace, with the names of the codegen hints that it understands. -/
structure Namespace where
  name : String
  tables : List Table
  deploy : Options
  recognizedHints : HintSet
  deriving DecidableEq

namespace Table

def column? (table : Table) (name : String) : Option Column :=
  table.columns.find? (·.name == name)

/-- A table without key holds one row at most. -/
def isSingleton (table : Table) : Bool :=
  table.key.isEmpty

def isOffchain (table : Table) : Bool :=
  !table.persisted

end Table

namespace Namespace

def ofTables (name : String) (tables : List Table) (deploy : Options) : Namespace :=
  ⟨name, tables, deploy, HintSet.default⟩

def recognizing (ns : Namespace) (hints : HintSet) : Namespace :=
  { ns with recognizedHints := hints }

def table? (ns : Namespace) (name : String) : Option Table :=
  ns.tables.find? (·.name == name)

end Namespace

end TableSchema
