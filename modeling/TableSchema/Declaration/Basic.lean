import TableSchema.Files
import TableSchema.Json.Problem
import TableSchema.Definition

/-!
Declarations: namespaces as a document writes them, and their lowering to definitions.

Tables and columns keep the order and the repeats of the document, so that a repeated name reaches
the rules instead of hiding an earlier entry.
-/

set_option autoImplicit false

namespace TableSchema

structure FullTable where
  schema : List (String × String)
  key : List String
  tableType : Option String
  codegen : Options
  deriving DecidableEq

/-- A declared table: the type of its one value column, or a body. -/
inductive TableDeclaration where
  | shorthand (valueType : String)
  | full (body : FullTable)
  deriving DecidableEq

/-- A declared namespace. Without hints of its own it understands those of the build. -/
structure Declaration where
  namespaceName : String
  tables : List (String × TableDeclaration)
  deploy : Options
  codegenHints : Option (List String)
  deriving DecidableEq

/-- How the reader tells what is wrong with a document. Its words also tell the place in the
document, so they depend on the file. -/
class Wording where
  ofConfiguration : Problem → String
  ofDeclarations : FilePath → Problem → String

instance : Wording := ⟨Problem.message, fun _ => Problem.message⟩

inductive DeclarationError where
  | missingPath (path : FilePath)
  | unreadable (path : FilePath) (failure : FileFailure)
  | malformed (path : FilePath) (problem : Problem)
  | unknownTableType (namespaceName table tableType : String)
  deriving DecidableEq, Repr

namespace DeclarationError

def code : DeclarationError → String
  | .missingPath _ => "DECLARATION_MISSING_PATH"
  | .unreadable .. => "DECLARATION_IO"
  | .malformed .. => "DECLARATION_MALFORMED"
  | .unknownTableType .. => "DECLARATION_UNKNOWN_TABLE_TYPE"

def message [Wording] : DeclarationError → String
  | .missingPath path => "declaration path does not exist: " ++ path.display
  | .unreadable path failure => "failed to read " ++ path.display ++ ": " ++ failure.message
  | .malformed path problem =>
    "malformed declaration in " ++ path.display ++ ": " ++ Wording.ofDeclarations path problem
  | .unknownTableType ns table tableType =>
    "table '" ++ table ++ "' in namespace '" ++ ns ++ "' has unknown type '" ++ tableType ++
      "' (expected 'table' or 'offchainTable')"

def toJson [Wording] (e : DeclarationError) : Json :=
  .object [("code", .text e.code), ("message", .text e.message)]

end DeclarationError

def tableType : String := "table"

/-- The `type` of a table that is kept off chain. -/
def offchainTableType : String := "offchainTable"

/-- Whether a table of the declared type is persisted; a type that is not known is given back. -/
def FullTable.persisted (body : FullTable) : Except String Bool :=
  match body.tableType with
  | none => .ok true
  | some type =>
    if type = TableSchema.tableType then .ok true
    else if type = offchainTableType then .ok false
    else .error type

/-- The definition of a declared table. A shorthand stands for a value under an id of 32 bytes. -/
def TableDeclaration.lower (declaration : TableDeclaration) (ns name : String) :
    Except DeclarationError Table :=
  match declaration with
  | .shorthand valueType =>
    .ok { name, columns := [⟨"id", "bytes32"⟩, ⟨"value", valueType⟩], key := ["id"],
          persisted := true, codegen := Options.empty }
  | .full body =>
    match body.persisted with
    | .ok persisted =>
      .ok { name, columns := body.schema.map fun column => ⟨column.1, column.2⟩, key := body.key,
            persisted, codegen := body.codegen }
    | .error type => .error (.unknownTableType ns name type)

/-- A namespace as far as its declaration could be lowered, with an error for each table that
could not. -/
structure Lowering where
  definition : Namespace
  errors : List DeclarationError

namespace Lowering

def isComplete (lowered : Lowering) : Bool :=
  lowered.errors.isEmpty

theorem isComplete_iff {lowered : Lowering} : lowered.isComplete = true ↔ lowered.errors = [] :=
  List.isEmpty_iff

end Lowering

namespace Declaration

def lowerTables (ns : String) :
    List (String × TableDeclaration) → List Table × List DeclarationError
  | [] => ([], [])
  | (name, declaration) :: rest =>
    let (tables, errors) := lowerTables ns rest
    match declaration.lower ns name with
    | .ok table => (table :: tables, errors)
    | .error e => (tables, e :: errors)

/-- Lowers every table that can be. The default hints count where the declaration lists none. -/
def lower (declaration : Declaration) (defaultHints : HintSet) : Lowering :=
  let (tables, errors) := lowerTables declaration.namespaceName declaration.tables
  let hints := match declaration.codegenHints with
    | some names => HintSet.ofList names
    | none => defaultHints
  ⟨(Namespace.ofTables declaration.namespaceName tables declaration.deploy).recognizing
    hints, errors⟩

def toNamespace (declaration : Declaration) (defaultHints : HintSet) :
    Except (List DeclarationError) Namespace :=
  let lowered := declaration.lower defaultHints
  if lowered.isComplete then .ok lowered.definition else .error lowered.errors

end Declaration

end TableSchema
