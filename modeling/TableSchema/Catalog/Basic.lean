import TableSchema.Text.Decimal

/-!
The catalog of column types.

A type is a scalar or an array of scalars. A scalar kind in general may have any size that a word
holds; the catalog is the list `Scalar.all`, and a name denotes a type exactly when it is the
name of one whose kind is in that list.
-/

set_option autoImplicit false

namespace TableSchema

/-- Scalar kinds. Integers have a width in bits, fixed vectors a length in bytes. -/
inductive Scalar where
  | uint (bits : UInt16)
  | int (bits : UInt16)
  | bool
  | address
  | fixedBytes (length : UInt8)
  | bytes
  | string
  deriving DecidableEq, Repr

/-- The type of a column. Arrays do not nest. -/
inductive ColumnType where
  | scalar (kind : Scalar)
  | array (kind : Scalar)
  deriving DecidableEq, Repr

def addressBytes : Nat := 20

def maxFixedBytes : Nat := 32

def maxIntBits : Nat := 256

/-- The digits of a number between 1 and 999 in the only spelling that has no sign and no leading
zero. -/
def plainDecimal? (digits : List Char) : Option Nat :=
  if digits.isEmpty || 3 < digits.length || digits.head? = some '0' then none
  else if digits.all Char.isDigit then
    some (digits.foldl (fun value digit => value * 10 + (digit.toNat - 48)) 0)
  else none

theorem plainDecimal?_eq_some_iff {digits : List Char} {n : Nat} :
    plainDecimal? digits = some n ↔ digits = Nat.toDigits 10 n ∧ 0 < n ∧ n < 1000 := by
  have short_iff : (Nat.toDigits 10 n).length ≤ 3 ↔ n < 1000 :=
    Nat.length_toDigits_le_iff (by decide) (by decide)
  unfold plainDecimal?
  constructor
  · intro read
    split at read
    · cases read
    · rename_i shape
      split at read
      · rename_i decimal
        rw [List.all_eq_true] at decimal
        cases digits with
        | nil => simp at shape
        | cons digit rest =>
          simp only [List.isEmpty_cons, Bool.false_or, Bool.or_eq_true, decide_eq_true_eq,
            List.head?_cons, Option.some.injEq, not_or] at shape
          have first := decimal digit List.mem_cons_self
          obtain ⟨small, spelled⟩ := Text.digitChar_value first
          have leading := Text.digit_pos first shape.2
          have whole := Text.toDigits_append leading fun other member =>
            decimal other (List.mem_cons_of_mem digit member)
          rw [List.foldl_cons, Nat.zero_mul, Nat.zero_add, Option.some.injEq] at read
          rw [Nat.toDigits_of_lt_base small, spelled, read, List.singleton_append] at whole
          have grown := Text.le_foldl_digits rest (digit.toNat - 48)
          refine ⟨whole, by omega, short_iff.1 ?_⟩
          rw [← whole]
          omega
      · cases read
  · rintro ⟨rfl, positive, small⟩
    have short := short_iff.2 small
    have decimal : (Nat.toDigits 10 n).all Char.isDigit = true :=
      List.all_eq_true.2 fun digit => Nat.isDigit_of_mem_toDigits (by decide) (by decide)
    rw [if_neg, if_pos decimal, Text.foldl_toDigits]
    simp [Nat.toDigits_ne_nil, Text.head?_toDigits_ne positive, short]

namespace Scalar

/-- Bytes that every value of the kind takes, if that is the same for all of them. -/
def staticByteLength? : Scalar → Option Nat
  | .uint bits | .int bits => some (bits.toNat / 8)
  | .bool => some 1
  | .address => some addressBytes
  | .fixedBytes length => some length.toNat
  | .bytes | .string => none

def name : Scalar → String
  | .uint bits => "uint" ++ toString bits.toNat
  | .int bits => "int" ++ toString bits.toNat
  | .bool => "bool"
  | .address => "address"
  | .fixedBytes length => "bytes" ++ toString length.toNat
  | .bytes => "bytes"
  | .string => "string"

private def width? (digits : List Char) : Option UInt16 :=
  match plainDecimal? digits with
  | some bits => if bits ≤ maxIntBits && bits % 8 == 0 then some bits.toUInt16 else none
  | none => none

private def length? (digits : List Char) : Option UInt8 :=
  match plainDecimal? digits with
  | some length => if length ≤ maxFixedBytes then some length.toUInt8 else none
  | none => none

def ofName? (name : List Char) : Option Scalar :=
  if name = "bool".toList then some .bool
  else if name = "address".toList then some .address
  else if name = "bytes".toList then some .bytes
  else if name = "string".toList then some .string
  else match name with
    | 'u' :: 'i' :: 'n' :: 't' :: digits => (width? digits).map .uint
    | 'i' :: 'n' :: 't' :: digits => (width? digits).map .int
    | 'b' :: 'y' :: 't' :: 'e' :: 's' :: digits => (length? digits).map .fixedBytes
    | _ => none

def all : List Scalar :=
  let widths := (List.range (maxIntBits / 8)).map fun n => (8 * (n + 1)).toUInt16
  let lengths := (List.range maxFixedBytes).map fun n => (n + 1).toUInt8
  widths.map .uint ++ widths.map .int ++ [.bool, .address] ++ lengths.map .fixedBytes ++
    [.bytes, .string]

private theorem width?_eq_some_iff {digits : List Char} {bits : UInt16} :
    width? digits = some bits ↔
      digits = Nat.toDigits 10 bits.toNat ∧
        0 < bits.toNat ∧ bits.toNat ≤ maxIntBits ∧ bits.toNat % 8 = 0 := by
  unfold width?
  constructor
  · intro read
    split at read
    · rename_i value decimal
      obtain ⟨spelled, positive, _⟩ := plainDecimal?_eq_some_iff.1 decimal
      split at read
      · rename_i fits
        rw [Bool.and_eq_true, beq_iff_eq, decide_eq_true_eq] at fits
        have same : value.toUInt16.toNat = value :=
          Nat.mod_eq_of_lt (Nat.lt_of_le_of_lt fits.1 (by decide))
        rw [← Option.some.inj read, same]
        exact ⟨spelled, positive, fits⟩
      · cases read
    · cases read
  · rintro ⟨spelled, positive, small, whole⟩
    have decimal : plainDecimal? digits = some bits.toNat :=
      plainDecimal?_eq_some_iff.2 ⟨spelled, positive, Nat.lt_of_le_of_lt small (by decide)⟩
    simp [decimal, small, whole]

private theorem length?_eq_some_iff {digits : List Char} {length : UInt8} :
    length? digits = some length ↔
      digits = Nat.toDigits 10 length.toNat ∧ 0 < length.toNat ∧ length.toNat ≤ maxFixedBytes := by
  unfold length?
  constructor
  · intro read
    split at read
    · rename_i value decimal
      obtain ⟨spelled, positive, _⟩ := plainDecimal?_eq_some_iff.1 decimal
      split at read
      · rename_i fits
        have same : value.toUInt8.toNat = value :=
          Nat.mod_eq_of_lt (Nat.lt_of_le_of_lt fits (by decide))
        rw [← Option.some.inj read, same]
        exact ⟨spelled, positive, fits⟩
      · cases read
    · cases read
  · rintro ⟨spelled, positive, small⟩
    have decimal : plainDecimal? digits = some length.toNat :=
      plainDecimal?_eq_some_iff.2 ⟨spelled, positive, Nat.lt_of_le_of_lt small (by decide)⟩
    simp [decimal, small]

private theorem mem_widths_iff {bits : UInt16} :
    bits ∈ (List.range (maxIntBits / 8)).map (fun n => (8 * (n + 1)).toUInt16) ↔
      0 < bits.toNat ∧ bits.toNat ≤ maxIntBits ∧ bits.toNat % 8 = 0 := by
  simp only [List.mem_map, List.mem_range, maxIntBits]
  constructor
  · rintro ⟨n, below, rfl⟩
    have same : (8 * (n + 1)).toUInt16.toNat = 8 * (n + 1) :=
      Nat.mod_eq_of_lt (Nat.lt_of_le_of_lt (m := 256) (by omega) (by decide))
    omega
  · rintro ⟨positive, small, whole⟩
    refine ⟨bits.toNat / 8 - 1, by omega, ?_⟩
    have same : 8 * (bits.toNat / 8 - 1 + 1) = bits.toNat := by omega
    rw [same]
    exact UInt16.ofNat_toNat

private theorem mem_lengths_iff {length : UInt8} :
    length ∈ (List.range maxFixedBytes).map (fun n => (n + 1).toUInt8) ↔
      0 < length.toNat ∧ length.toNat ≤ maxFixedBytes := by
  simp only [List.mem_map, List.mem_range, maxFixedBytes]
  constructor
  · rintro ⟨n, below, rfl⟩
    have same : (n + 1).toUInt8.toNat = n + 1 :=
      Nat.mod_eq_of_lt (Nat.lt_of_le_of_lt below (by decide))
    omega
  · rintro ⟨positive, small⟩
    refine ⟨length.toNat - 1, by omega, ?_⟩
    have same : length.toNat - 1 + 1 = length.toNat := by omega
    rw [same]
    exact UInt8.ofNat_toNat

theorem uint_mem_all_iff {bits : UInt16} :
    uint bits ∈ all ↔ 0 < bits.toNat ∧ bits.toNat ≤ maxIntBits ∧ bits.toNat % 8 = 0 := by
  rw [← mem_widths_iff]
  simp [all]

theorem int_mem_all_iff {bits : UInt16} :
    int bits ∈ all ↔ 0 < bits.toNat ∧ bits.toNat ≤ maxIntBits ∧ bits.toNat % 8 = 0 := by
  rw [← mem_widths_iff]
  simp [all]

theorem fixedBytes_mem_all_iff {length : UInt8} :
    fixedBytes length ∈ all ↔ 0 < length.toNat ∧ length.toNat ≤ maxFixedBytes := by
  rw [← mem_lengths_iff]
  simp [all]

/-- Every kind of the catalog is found under its own name, and no other name leads to one. -/
theorem ofName?_eq_some_iff {name : List Char} {kind : Scalar} :
    ofName? name = some kind ↔ kind ∈ all ∧ name = kind.name.toList := by
  constructor
  · intro known
    unfold ofName? at known
    have sizeless {plain : Scalar} (member : plain ∈ all) (named : name = plain.name.toList)
        (known : some plain = some kind) : kind ∈ all ∧ name = kind.name.toList := by
      rw [← Option.some.inj known]
      exact ⟨member, named⟩
    split at known
    · exact sizeless (by simp [all]) ‹_› known
    split at known
    · exact sizeless (by simp [all]) ‹_› known
    split at known
    · exact sizeless (by simp [all]) ‹_› known
    split at known
    · exact sizeless (by simp [all]) ‹_› known
    split at known
    · obtain ⟨bits, read, rfl⟩ := Option.map_eq_some_iff.1 known
      obtain ⟨rfl, fits⟩ := width?_eq_some_iff.1 read
      exact ⟨uint_mem_all_iff.2 fits, by simp [Scalar.name]⟩
    · obtain ⟨bits, read, rfl⟩ := Option.map_eq_some_iff.1 known
      obtain ⟨rfl, fits⟩ := width?_eq_some_iff.1 read
      exact ⟨int_mem_all_iff.2 fits, by simp [Scalar.name]⟩
    · obtain ⟨length, read, rfl⟩ := Option.map_eq_some_iff.1 known
      obtain ⟨rfl, fits⟩ := length?_eq_some_iff.1 read
      exact ⟨fixedBytes_mem_all_iff.2 fits, by simp [Scalar.name]⟩
    · cases known
  · rintro ⟨member, rfl⟩
    unfold ofName?
    cases kind with
    | uint bits =>
      have read := width?_eq_some_iff.2 ⟨rfl, uint_mem_all_iff.1 member⟩
      simp [Scalar.name, read]
    | int bits =>
      have read := width?_eq_some_iff.2 ⟨rfl, int_mem_all_iff.1 member⟩
      simp [Scalar.name, read]
    | fixedBytes length =>
      have read := length?_eq_some_iff.2 ⟨rfl, fixedBytes_mem_all_iff.1 member⟩
      simp [Scalar.name, read, Nat.toDigits_ne_nil]
    | bool => rfl
    | address => rfl
    | bytes => rfl
    | string => rfl

theorem width_bounds {kind : Scalar} (member : kind ∈ all) {width : Nat}
    (fixed : kind.staticByteLength? = some width) : 1 ≤ width ∧ width ≤ 32 := by
  have bounded : ∀ kind ∈ all, ∀ width ∈ kind.staticByteLength?, 1 ≤ width ∧ width ≤ 32 := by
    decide
  exact bounded kind member width fixed

end Scalar

namespace ColumnType

def kind : ColumnType → Scalar
  | .scalar kind | .array kind => kind

def name : ColumnType → String
  | .scalar kind => kind.name
  | .array kind => kind.name ++ "[]"

/-- What comes before the brackets of an array's name. -/
private def beforeBrackets? (name : List Char) : Option (List Char) :=
  match name.reverse with
  | ']' :: '[' :: item => some item.reverse
  | _ => none

def ofName? (name : String) : Option ColumnType :=
  match beforeBrackets? name.toList with
  | some item => (Scalar.ofName? item).map .array
  | none => (Scalar.ofName? name.toList).map .scalar

def staticByteLength? : ColumnType → Option Nat
  | .scalar kind => kind.staticByteLength?
  | .array _ => none

/-- Whether values of the type differ in their number of bytes. -/
def isVariableWidth (type : ColumnType) : Bool :=
  type.staticByteLength?.isNone

def isKeyEligible (type : ColumnType) : Bool :=
  !type.isVariableWidth

private theorem beforeBrackets?_eq_some_iff {name item : List Char} :
    beforeBrackets? name = some item ↔ name = item ++ ['[', ']'] := by
  unfold beforeBrackets?
  constructor
  · intro found
    split at found
    · rename_i before reversed
      obtain rfl := Option.some.inj found
      have forward := congrArg List.reverse reversed
      simpa using forward
    · cases found
  · rintro rfl
    simp

private theorem bracket_not_mem_scalarName (kind : Scalar) : ']' ∉ kind.name.toList := by
  have decimal (n : Nat) : ']' ∉ Nat.toDigits 10 n := by
    intro member
    exact absurd (Nat.isDigit_of_mem_toDigits (by decide) (by decide) member) (by decide)
  cases kind <;> simp [Scalar.name, decimal]

private theorem beforeBrackets?_scalarName (kind : Scalar) :
    beforeBrackets? kind.name.toList = none := by
  rw [Option.eq_none_iff_forall_ne_some]
  intro item found
  apply bracket_not_mem_scalarName kind
  rw [beforeBrackets?_eq_some_iff.1 found]
  simp

theorem ofName?_eq_some_iff {name : String} {type : ColumnType} :
    ofName? name = some type ↔ type.kind ∈ Scalar.all ∧ name = type.name := by
  unfold ofName?
  constructor
  · intro known
    split at known
    · rename_i item bracketed
      obtain ⟨kind, read, rfl⟩ := Option.map_eq_some_iff.1 known
      obtain ⟨member, rfl⟩ := Scalar.ofName?_eq_some_iff.1 read
      refine ⟨member, String.toList_injective ?_⟩
      simpa [ColumnType.name] using beforeBrackets?_eq_some_iff.1 bracketed
    · obtain ⟨kind, read, rfl⟩ := Option.map_eq_some_iff.1 known
      obtain ⟨member, spelled⟩ := Scalar.ofName?_eq_some_iff.1 read
      exact ⟨member, String.toList_injective spelled⟩
  · rintro ⟨member, rfl⟩
    cases type with
    | scalar kind =>
      have read : Scalar.ofName? kind.name.toList = some kind :=
        Scalar.ofName?_eq_some_iff.2 ⟨member, rfl⟩
      simp [ColumnType.name, beforeBrackets?_scalarName, read]
    | array kind =>
      have read : Scalar.ofName? kind.name.toList = some kind :=
        Scalar.ofName?_eq_some_iff.2 ⟨member, rfl⟩
      have bracketed : beforeBrackets? (ColumnType.array kind).name.toList =
          some kind.name.toList :=
        beforeBrackets?_eq_some_iff.2 (by simp [ColumnType.name])
      simp [bracketed, read]

theorem kind_mem_all_of_ofName? {name : String} {type : ColumnType}
    (known : ofName? name = some type) : type.kind ∈ Scalar.all :=
  (ofName?_eq_some_iff.1 known).1

theorem width_bounds_of_ofName? {name : String} {type : ColumnType}
    (known : ofName? name = some type) {width : Nat} (fixed : type.staticByteLength? = some width) :
    1 ≤ width ∧ width ≤ 32 := by
  cases type with
  | scalar kind => exact Scalar.width_bounds (kind_mem_all_of_ofName? known) fixed
  | array kind => cases fixed

end ColumnType

structure UnknownType where
  name : String
  deriving DecidableEq, Repr

namespace UnknownType

def message (unknown : UnknownType) : String :=
  "unknown type '" ++ unknown.name ++ "'"

end UnknownType

namespace ColumnType

def ofName (name : String) : Except UnknownType ColumnType :=
  match ofName? name with
  | some type => .ok type
  | none => .error ⟨name⟩

theorem ofName_eq_ok_iff {name : String} {type : ColumnType} :
    ofName name = .ok type ↔ type.kind ∈ Scalar.all ∧ name = type.name := by
  rw [← ofName?_eq_some_iff, ofName]
  cases ofName? name <;> simp

theorem ofName_eq_error_iff {name : String} {unknown : UnknownType} :
    ofName name = .error unknown ↔
      unknown = ⟨name⟩ ∧ ∀ type : ColumnType, type.kind ∈ Scalar.all → name ≠ type.name := by
  have none_iff : ofName? name = none ↔
      ∀ type : ColumnType, type.kind ∈ Scalar.all → name ≠ type.name := by
    simp only [Option.eq_none_iff_forall_ne_some, ne_eq, ofName?_eq_some_iff, not_and]
  rw [← none_iff, ofName]
  cases ofName? name <;> simp [eq_comm]

end ColumnType

end TableSchema
