import TableSchema.Catalog.Basic
import TableSchema.Json.Variant

set_option autoImplicit false

namespace TableSchema

namespace Scalar

def tag : Scalar → String
  | .uint _ => "uint"
  | .int _ => "int"
  | .bool => "bool"
  | .address => "address"
  | .fixedBytes _ => "fixed_bytes"
  | .bytes => "bytes"
  | .string => "string"

/-- Bits of an integer, bytes of a fixed vector. -/
def size? : Scalar → Option Nat
  | .uint bits | .int bits => some bits.toNat
  | .fixedBytes length => some length.toNat
  | .bool | .address | .bytes | .string => none

def toJson (kind : Scalar) : Json :=
  .object (("kind", .text kind.tag) :: (kind.size?.toList.map fun n => ("size", .ofNat n)))

private def bits : Reader UInt16 :=
  (Reader.natural UInt16.size "u16").map fun n => n.val.toUInt16

private def length : Reader UInt8 :=
  (Reader.natural UInt8.size "u8").map fun n => n.val.toUInt8

def shape : TaggedShape Scalar where
  name := "ScalarKind"
  tag := "kind"
  content := "size"
  variants := [
    ("uint", .holding fun _ => bits.map .uint),
    ("int", .holding fun _ => bits.map .int),
    ("bool", .alone "ScalarKind::Bool" .bool),
    ("address", .alone "ScalarKind::Address" .address),
    ("fixed_bytes", .holding fun _ => length.map .fixedBytes),
    ("bytes", .alone "ScalarKind::Bytes" .bytes),
    ("string", .alone "ScalarKind::String" .string)]

def reader : Reader Scalar :=
  shape.reader false

end Scalar

namespace ColumnType

def tag : ColumnType → String
  | .scalar _ => "scalar"
  | .array _ => "array"

def toJson (type : ColumnType) : Json :=
  .object [("shape", .text type.tag), ("element", type.kind.toJson)]

def shape : TaggedShape ColumnType where
  name := "CatalogType"
  tag := "shape"
  content := "element"
  variants := [
    ("scalar", .holding fun later => (Scalar.shape.reader later).map .scalar),
    ("array", .holding fun later => (Scalar.shape.reader later).map .array)]

def reader : Reader ColumnType :=
  shape.reader false

end ColumnType

end TableSchema
