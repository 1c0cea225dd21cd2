import TableSchema.ResourceId

set_option autoImplicit false

namespace TableSchema

inductive Rule where
  | unknownType
  | duplicateColumn
  | duplicateTable
  | duplicateNamespace
  | invalidKeyColumn
  | ineligibleKeyType
  | duplicateKeyColumn
  | unknownCodegenHint
  deriving DecidableEq, Repr

namespace Rule

def code : Rule → String
  | .unknownType => "UnknownType"
  | .duplicateColumn => "DuplicateColumn"
  | .duplicateTable => "DuplicateTable"
  | .duplicateNamespace => "DuplicateNamespace"
  | .invalidKeyColumn => "InvalidKeyColumn"
  | .ineligibleKeyType => "IneligibleKeyType"
  | .duplicateKeyColumn => "DuplicateKeyColumn"
  | .unknownCodegenHint => "UnknownCodegenHint"

def all : List Rule :=
  [.unknownType, .duplicateColumn, .duplicateTable, .duplicateNamespace, .invalidKeyColumn,
    .ineligibleKeyType, .duplicateKeyColumn, .unknownCodegenHint]

end Rule

/-- A broken rule. `column` names the column, the key entry or the hint in question. -/
structure Violation where
  rule : Rule
  namespaceName : String
  table : Option String
  column : Option String
  message : String
  deriving DecidableEq, Repr

namespace Violation

def location (v : Violation) : String :=
  ".".intercalate (v.namespaceName :: (v.table.toList ++ v.column.toList))

def display (v : Violation) : String :=
  "[" ++ v.rule.code ++ "] " ++ v.location ++ ": " ++ v.message

def inColumn (rule : Rule) (ns table column message : String) : Violation :=
  ⟨rule, ns, some table, some column, message⟩

def inTable (ns table message : String) : Violation :=
  ⟨.duplicateTable, ns, some table, none, message⟩

def inNamespace (ns message : String) : Violation :=
  ⟨.duplicateNamespace, ns, none, none, message⟩

def unknownType (ns table column typeName : String) : Violation :=
  inColumn .unknownType ns table column s!"Column '{column}' has unknown type '{typeName}'"

def duplicateColumn (ns table column : String) : Violation :=
  inColumn .duplicateColumn ns table column s!"Column '{column}' is declared more than once"

def duplicateTable (ns table : String) : Violation :=
  inTable ns table s!"Table '{table}' is declared more than once in namespace '{ns}'"

def tableIdCollision (ns table existing : String) : Violation :=
  inTable ns table <|
    s!"Table '{table}' has the same resource id as table '{existing}' " ++
      s!"in namespace '{ns}' (table names are truncated to {tableSlotBytes} bytes)"

def duplicateNamespace (ns : String) : Violation :=
  inNamespace ns s!"Namespace '{ns}' is already registered"

def namespaceIdCollision (ns existing : String) : Violation :=
  inNamespace ns <|
    s!"Namespace '{ns}' has the same resource id as registered namespace " ++
      s!"'{existing}' (namespaces are truncated to {namespaceSlotBytes} bytes)"

def invalidKeyColumn (ns table column : String) : Violation :=
  inColumn .invalidKeyColumn ns table column s!"Key column '{column}' is not a declared column"

def ineligibleKeyType (ns table column typeName : String) : Violation :=
  inColumn .ineligibleKeyType ns table column <|
    s!"Key column '{column}' has variable-width type '{typeName}'; " ++
      "keys require fixed-width types"

def duplicateKeyColumn (ns table column : String) : Violation :=
  inColumn .duplicateKeyColumn ns table column
    s!"Key column '{column}' appears more than once in the key"

def unknownCodegenHint (ns table hint : String) : Violation :=
  inColumn .unknownCodegenHint ns table hint
    s!"Codegen hint '{hint}' is not recognized by namespace '{ns}'"

end Violation

end TableSchema
