import TableSchema.Proofs.Text.ByteOrder

set_option autoImplicit false

namespace TableSchema.Text

theorem utf8_injective : Function.Injective utf8 := by
  intro a b same
  have data : a.toUTF8.data = b.toUTF8.data := Array.toList_inj.1 same
  have bytes : a.toUTF8 = b.toUTF8 := ByteArray.ext data
  rw [String.toUTF8_eq_toByteArray, String.toUTF8_eq_toByteArray] at bytes
  exact String.toByteArray_inj.1 bytes

-- A code of several bytes has none below 128.
theorem mem_utf8EncodeChar_iff {c : Char} {n : Nat} (ascii : n < 128) :
    UInt8.ofNat n ∈ String.utf8EncodeChar c ↔ c.toNat = n := by
  have value : c.toNat = c.val.toNat := rfl
  rw [value]
  simp only [String.utf8EncodeChar]
  generalize c.val.toNat = v
  have byte_eq_iff (m : Nat) : UInt8.ofNat n = UInt8.ofNat m ↔ n = m % 256 := by
    rw [← UInt8.toNat_inj, UInt8.toNat_ofNat', UInt8.toNat_ofNat']
    omega
  split_ifs <;> simp only [List.mem_cons, List.not_mem_nil, or_false, byte_eq_iff] <;> omega

theorem mem_utf8_iff {a : Char} (ascii : a.toNat < 128) {text : String} :
    UInt8.ofNat a.toNat ∈ utf8 text ↔ a ∈ text.toList := by
  rw [utf8_eq_flatMap, List.mem_flatMap]
  constructor
  · rintro ⟨c, member, byte⟩
    obtain rfl : c = a := Char.toNat_inj.1 ((mem_utf8EncodeChar_iff ascii).1 byte)
    exact member
  · intro member
    exact ⟨a, member, (mem_utf8EncodeChar_iff ascii).2 rfl⟩

private theorem utf8EncodeChar_ascii {a : Char} (ascii : a.toNat < 128) :
    String.utf8EncodeChar a = [UInt8.ofNat a.toNat] := by
  have small : a.val.toNat ≤ 0x7f := Nat.le_of_lt_succ ascii
  rw [String.utf8EncodeChar, if_pos small]
  rfl

private theorem utf8EncodeChar_ne_nil (c : Char) : String.utf8EncodeChar c ≠ [] := by
  refine List.ne_nil_of_length_pos ?_
  rw [String.length_utf8EncodeChar]
  exact c.utf8Size_pos

theorem head?_utf8_eq_iff {a : Char} (ascii : a.toNat < 128) {text : String} :
    (utf8 text).head? = some (UInt8.ofNat a.toNat) ↔ text.toList.head? = some a := by
  rw [utf8_eq_flatMap]
  cases text.toList with
  | nil => simp
  | cons c rest =>
    rw [List.flatMap_cons, List.head?_cons, Option.some.injEq,
      List.head?_append_of_ne_nil _ (utf8EncodeChar_ne_nil c)]
    constructor
    · intro first
      exact Char.toNat_inj.1 ((mem_utf8EncodeChar_iff ascii).1 (List.mem_of_mem_head? first))
    · rintro rfl
      rw [utf8EncodeChar_ascii ascii]
      rfl

theorem getLast?_utf8_eq_iff {a : Char} (ascii : a.toNat < 128) {text : String} :
    (utf8 text).getLast? = some (UInt8.ofNat a.toNat) ↔ text.toList.getLast? = some a := by
  rw [utf8_eq_flatMap]
  rcases List.eq_nil_or_concat text.toList with none | ⟨front, c, whole⟩
  · simp [none]
  · rw [whole, List.concat_eq_append, List.flatMap_append, List.flatMap_singleton,
      List.getLast?_concat, Option.some.injEq,
      List.getLast?_append_of_ne_nil _ (utf8EncodeChar_ne_nil c)]
    constructor
    · intro last
      exact Char.toNat_inj.1 ((mem_utf8EncodeChar_iff ascii).1 (List.mem_of_mem_getLast? last))
    · rintro rfl
      rw [utf8EncodeChar_ascii ascii]
      rfl

end TableSchema.Text
