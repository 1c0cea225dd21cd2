import Mathlib.Data.String.Basic

set_option autoImplicit false

namespace TableSchema.Text

def utf8 (text : String) : List UInt8 :=
  text.toUTF8.data.toList

theorem utf8_eq_flatMap (text : String) :
    utf8 text = text.toList.flatMap String.utf8EncodeChar := by
  rw [utf8, String.toUTF8_eq_toByteArray, ← String.utf8Encode_toList, List.utf8Encode]
  simp

private theorem cons_lt_cons_of_nat {m n : Nat} {r s : List UInt8} (bound : n < 256)
    (h : m < n ∨ m = n ∧ r < s) : UInt8.ofNat m :: r < UInt8.ofNat n :: s := by
  rw [List.cons_lt_cons_iff]
  rcases h with below | ⟨rfl, rest⟩
  · refine Or.inl ?_
    rw [UInt8.lt_iff_toNat_lt, UInt8.toNat_ofNat', UInt8.toNat_ofNat']
    omega
  · exact Or.inr ⟨rfl, rest⟩

-- Every byte of a code but the first holds six bits. What these leave open is decided by the bytes
-- before them.
private theorem continuation_lt {v w : Nat} {r s : List UInt8} (h : v < w ∨ v = w ∧ r < s) :
    v / 64 < w / 64 ∨ v / 64 = w / 64 ∧
      UInt8.ofNat (v % 64 + 128) :: r < UInt8.ofNat (w % 64 + 128) :: s := by
  by_cases same : v / 64 = w / 64
  · refine Or.inr ⟨same, cons_lt_cons_of_nat (by omega) ?_⟩
    rcases h with below | ⟨rfl, rest⟩
    · exact Or.inl (by omega)
    · exact Or.inr ⟨rfl, rest⟩
  · exact Or.inl (by omega)

private theorem leading_lt {v w bits offset : Nat} {r s : List UInt8} (fits : w < bits)
    (bound : bits + offset ≤ 256) (h : v < w ∨ v = w ∧ r < s) :
    UInt8.ofNat (v % bits + offset) :: r < UInt8.ofNat (w % bits + offset) :: s := by
  rw [Nat.mod_eq_of_lt fits, Nat.mod_eq_of_lt (by omega : v < bits)]
  refine cons_lt_cons_of_nat (by omega) ?_
  rcases h with below | ⟨rfl, rest⟩
  · exact Or.inl (by omega)
  · exact Or.inr ⟨rfl, rest⟩

theorem utf8EncodeChar_append_lt {c d : Char} (h : c < d) (r s : List UInt8) :
    String.utf8EncodeChar c ++ r < String.utf8EncodeChar d ++ s := by
  have below : c.val.toNat < d.val.toNat := h
  have largest : d.val.toNat < 0x110000 := by
    have valid := d.valid
    simp only [UInt32.isValidChar, Nat.isValidChar] at valid
    omega
  simp only [String.utf8EncodeChar]
  generalize c.val.toNat = v at *
  generalize d.val.toNat = w at *
  have last := continuation_lt (r := r) (s := s) (Or.inl below)
  have lastTwo := continuation_lt last
  have lastThree := continuation_lt lastTwo
  simp only [Nat.div_div_eq_div_mul] at lastTwo lastThree
  -- Codes of different lengths differ in their first byte already. That leaves two codes of two,
  -- of three and of four bytes.
  split_ifs <;> simp only [List.cons_append, List.nil_append] <;>
    try exact cons_lt_cons_of_nat (by omega) (Or.inl (by omega))
  · exact leading_lt (by omega) (by omega) last
  · exact leading_lt (by omega) (by omega) lastTwo
  · exact leading_lt (by omega) (by omega) lastThree

private theorem flatMap_utf8EncodeChar_lt {cs ds : List Char} (h : cs < ds) :
    cs.flatMap String.utf8EncodeChar < ds.flatMap String.utf8EncodeChar := by
  induction cs generalizing ds with
  | nil =>
    obtain _ | ⟨d, ds⟩ := ds
    · exact absurd h (List.not_lt_nil _)
    · have size := String.length_utf8EncodeChar d
      cases code : String.utf8EncodeChar d with
      | nil =>
        rw [code] at size
        exact absurd size d.utf8Size_pos.ne
      | cons x r => simp [code]
  | cons c cs ih =>
    obtain _ | ⟨d, ds⟩ := ds
    · exact absurd h (List.not_lt_nil _)
    · rw [List.flatMap_cons, List.flatMap_cons]
      rcases List.cons_lt_cons_iff.1 h with below | ⟨rfl, rest⟩
      · exact utf8EncodeChar_append_lt below _ _
      · exact List.append_left_lt (ih rest)

theorem utf8_lt {a b : String} (h : a < b) : utf8 a < utf8 b := by
  rw [utf8_eq_flatMap, utf8_eq_flatMap]
  exact flatMap_utf8EncodeChar_lt (String.lt_iff_toList_lt.1 h)

end TableSchema.Text
