import TableSchema.Json.Node
import TableSchema.Text.Quoted

set_option autoImplicit false

namespace TableSchema

inductive Found where
  | null
  | bool (value : Bool)
  | integer (value : Int)
  | double (value : Double)
  | text (value : String)
  | sequence
  | map
  deriving DecidableEq, Repr

inductive Mismatch where
  | invalidType (found : Found) (expected : String)
  | invalidValue (found : Found) (expected : String)
  | invalidLength (length : Nat) (expected : String)
  | missingField (field : String)
  | unknownField (field : String) (known : List String)
  | duplicateField (field : String)
  | unknownVariant (variant : String) (known : List String)
  deriving DecidableEq, Repr

inductive Problem where
  | fault (fault : Fault)
  | mismatch (reason : Mismatch)
  deriving DecidableEq, Repr

namespace Found

def words : Found → String
  | .null => "null"
  | .bool value => "boolean `" ++ (if value then "true" else "false") ++ "`"
  | .integer value => "integer `" ++ toString value ++ "`"
  | .double value => "floating point `" ++ String.ofList value.text ++ "`"
  | .text value => "string " ++ Text.quoted value
  | .sequence => "sequence"
  | .map => "map"

end Found

namespace Mismatch

private def ticked (name : String) : String :=
  "`" ++ name ++ "`"

private def alternatives : List String → String
  | [] => "nothing"
  | [one] => ticked one
  | [one, other] => ticked one ++ " or " ++ ticked other
  | names => "one of " ++ ", ".intercalate (names.map ticked)

def message : Mismatch → String
  | .invalidType found expected => "invalid type: " ++ found.words ++ ", expected " ++ expected
  | .invalidValue found expected => "invalid value: " ++ found.words ++ ", expected " ++ expected
  | .invalidLength length expected =>
    "invalid length " ++ toString length ++ ", expected " ++ expected
  | .missingField field => "missing field " ++ ticked field
  | .unknownField field known =>
    "unknown field " ++ ticked field ++ ", expected " ++ alternatives known
  | .duplicateField field => "duplicate field " ++ ticked field
  | .unknownVariant variant known =>
    "unknown variant " ++ ticked variant ++ ", expected " ++ alternatives known

end Mismatch

namespace Problem

def malformed : Problem :=
  .fault .malformed

def message : Problem → String
  | .fault .malformed => "syntax"
  | .fault .truncated => "EOF"
  | .mismatch reason => reason.message

end Problem

end TableSchema
