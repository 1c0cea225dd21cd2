import TableSchema.Text.Hexadecimal

/-!
Resource ids: 32 bytes that tell the kind of a table, its namespace and its name.

A name takes a slot of fixed width. A longer name is cut after that many bytes, even inside a
character, and a shorter one is followed by zero bytes, so different names can share a slot.
-/

set_option autoImplicit false

namespace TableSchema

abbrev namespaceSlotBytes : Nat := 14

abbrev tableSlotBytes : Nat := 16

/-- The first bytes of a name, filled up with zeros. -/
def nameSlot (width : Nat) (name : String) : Vector UInt8 width :=
  Vector.ofFn fun i => (name.toUTF8.data[i.val]?).getD 0

abbrev NamespaceSlot := Vector UInt8 namespaceSlotBytes

def namespaceSlot (name : String) : NamespaceSlot :=
  nameSlot namespaceSlotBytes name

def hexBytes (bytes : List UInt8) : List Char :=
  bytes.flatMap fun byte => [Text.hexDigit (byte.toNat / 16), Text.hexDigit (byte.toNat % 16)]

structure ResourceId where
  bytes : Vector UInt8 32
  deriving DecidableEq, Repr

namespace ResourceId

/-- The two letters that begin the id of a persisted table, `tb`, and of one that is kept off
chain, `ot`. -/
def kindBytes (persisted : Bool) : Vector UInt8 2 :=
  if persisted then #v[0x74, 0x62] else #v[0x6f, 0x74]

def ofTable (namespaceName tableName : String) (persisted : Bool) : ResourceId :=
  ⟨kindBytes persisted ++ namespaceSlot namespaceName ++ nameSlot tableSlotBytes tableName⟩

def toHex (id : ResourceId) : String :=
  String.ofList ('0' :: 'x' :: hexBytes id.bytes.toList)

end ResourceId

end TableSchema
