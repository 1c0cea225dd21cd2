import Mathlib.Data.List.TakeWhile
import TableSchema.Proofs.Text.ByteOrder
import TableSchema.Text.Lossy

set_option autoImplicit false

namespace TableSchema.Text

private theorem continuation?_of_two {n s : Nat} (first : 0xC2 ≤ n ∧ n < 0xE0)
    (second : 0x80 ≤ s ∧ s ≤ 0xBF) :
    ∃ low high, continuation? n = some (low, high, 1) ∧ low ≤ s ∧ s ≤ high := by
  rw [continuation?, if_neg (by omega), if_pos first.2]
  exact ⟨_, _, rfl, second⟩

-- After the least first byte and after the one of the surrogates not every second byte may come.
private theorem continuation?_of_three {n s : Nat} (first : 0xE0 ≤ n ∧ n < 0xF0)
    (second : 0x80 ≤ s ∧ s ≤ 0xBF) (least : n = 0xE0 → 0xA0 ≤ s) (surrogate : n = 0xED → s ≤ 0x9F) :
    ∃ low high, continuation? n = some (low, high, 2) ∧ low ≤ s ∧ s ≤ high := by
  rw [continuation?, if_neg (by omega), if_neg (by omega)]
  split
  · exact ⟨_, _, rfl, least ‹_›, second.2⟩
  · split
    · exact ⟨_, _, rfl, second.1, surrogate ‹_›⟩
    · rw [if_pos first.2]
      exact ⟨_, _, rfl, second⟩

private theorem continuation?_of_four {n s : Nat} (first : 0xF0 ≤ n ∧ n < 0xF5)
    (second : 0x80 ≤ s ∧ s ≤ 0xBF) (least : n = 0xF0 → 0x90 ≤ s) (last : n = 0xF4 → s ≤ 0x8F) :
    ∃ low high, continuation? n = some (low, high, 3) ∧ low ≤ s ∧ s ≤ high := by
  rw [continuation?, if_neg (by omega), if_neg (by omega), if_neg (by omega), if_neg (by omega),
    if_neg (by omega)]
  split
  · exact ⟨_, _, rfl, least ‹_›, second.2⟩
  · split
    · exact ⟨_, _, rfl, second⟩
    · rw [if_pos (by omega)]
      exact ⟨_, _, rfl, second.1, last (by omega)⟩

private theorem continued_cons {first second : UInt8} {more rest : List UInt8}
    (lead : ∃ low high, continuation? first.toNat = some (low, high, more.length + 1) ∧
      low ≤ second.toNat ∧ second.toNat ≤ high)
    (continuing : ∀ byte ∈ more, isContinuation byte = true) :
    continued first (second :: more ++ rest) = more.length + 1 := by
  obtain ⟨low, high, lead, within⟩ := lead
  have taken : ((more ++ rest).take more.length).takeWhile isContinuation = more := by
    rw [List.take_left]
    exact List.takeWhile_eq_self_iff.2 continuing
  simp only [continued, lead, List.cons_append, if_pos within, Nat.add_sub_cancel, taken]
  omega

private theorem isContinuation_ofNat (v : Nat) :
    isContinuation (UInt8.ofNat (v % 64 + 128)) = true := by
  rw [isContinuation, UInt8.toNat_ofNat', Bool.and_eq_true, decide_eq_true_iff, decide_eq_true_iff]
  omega

theorem continued_utf8EncodeChar {first : UInt8} {tail : List UInt8} {c : Char}
    (code : String.utf8EncodeChar c = first :: tail) (rest : List UInt8) :
    continued first (tail ++ rest) = tail.length := by
  have valid : c.val.toNat < 0x110000 ∧ ¬ (0xD800 ≤ c.val.toNat ∧ c.val.toNat < 0xE000) := by
    have valid := c.valid
    simp only [UInt32.isValidChar, Nat.isValidChar] at valid
    omega
  simp only [String.utf8EncodeChar] at code
  generalize c.val.toNat = v at *
  split_ifs at code with one two three <;> obtain ⟨rfl, rfl⟩ := List.cons.inj code
  · have alone : continuation? (UInt8.ofNat v).toNat = none := by
      rw [UInt8.toNat_ofNat', continuation?, if_pos (by omega)]
    simp only [continued, alone, List.length_nil]
  · refine continued_cons (continuation?_of_two ?_ ?_) (List.forall_mem_nil _) <;>
      simp only [UInt8.toNat_ofNat'] <;> omega
  · refine continued_cons (continuation?_of_three ?_ ?_ ?_ ?_)
      (List.forall_mem_singleton.2 (isContinuation_ofNat v)) <;>
      simp only [UInt8.toNat_ofNat'] <;> omega
  · refine continued_cons (continuation?_of_four ?_ ?_ ?_ ?_) (List.forall_mem_cons.2
      ⟨isContinuation_ofNat (v / 64), List.forall_mem_singleton.2 (isContinuation_ofNat v)⟩) <;>
      simp only [UInt8.toNat_ofNat'] <;> omega

theorem decodeLossy_utf8EncodeChar (c : Char) (rest : List UInt8) :
    decodeLossy (String.utf8EncodeChar c ++ rest) = c :: decodeLossy rest := by
  obtain ⟨first, tail, code⟩ : ∃ first tail, String.utf8EncodeChar c = first :: tail := by
    refine List.exists_cons_of_length_pos ?_
    rw [String.length_utf8EncodeChar]
    exact c.utf8Size_pos
  have whole : (first :: tail).toByteArray.utf8DecodeChar? 0 = some c := by
    have decoded := @List.utf8DecodeChar?_utf8Encode_singleton c
    rwa [List.utf8Encode, List.flatMap_singleton, code] at decoded
  simp only [code, List.cons_append, decodeLossy, continued_utf8EncodeChar code, List.take_left,
    List.drop_left, whole, Option.getD_some]

theorem decodeLossy_utf8 (text : String) : decodeLossy (utf8 text) = text.toList := by
  rw [utf8_eq_flatMap]
  induction text.toList with
  | nil => rw [List.flatMap_nil, decodeLossy]
  | cons c rest ih => rw [List.flatMap_cons, decodeLossy_utf8EncodeChar, ih]

end TableSchema.Text
