set_option autoImplicit false

namespace TableSchema.Text

theorem le_foldl_digits (digits : List Char) (value : Nat) :
    value ≤ digits.foldl (fun value digit => value * 10 + (digit.toNat - 48)) value := by
  induction digits generalizing value with
  | nil => exact Nat.le_refl value
  | cons digit rest ih =>
    rw [List.foldl_cons]
    have grown : value ≤ value * 10 + (digit.toNat - 48) := by omega
    exact Nat.le_trans grown (ih _)

theorem digit_pos {digit : Char} (decimal : digit.isDigit = true) (nonzero : digit ≠ '0') :
    0 < digit.toNat - 48 := by
  have other : digit.toNat ≠ 48 := fun same => nonzero (Char.toNat_inj.1 same)
  simp only [Char.isDigit, Bool.and_eq_true, decide_eq_true_eq, ge_iff_le,
    UInt32.le_iff_toNat_le] at decimal
  have least : 48 ≤ digit.toNat := decimal.1
  omega

theorem digitChar_value {digit : Char} (decimal : digit.isDigit = true) :
    digit.toNat - 48 < 10 ∧ Nat.digitChar (digit.toNat - 48) = digit := by
  simp only [Char.isDigit, Bool.and_eq_true, decide_eq_true_eq, ge_iff_le,
    UInt32.le_iff_toNat_le] at decimal
  have least : 48 ≤ digit.toNat := decimal.1
  have most : digit.toNat ≤ 57 := decimal.2
  have small : digit.toNat - 48 < 10 := by omega
  refine ⟨small, Char.toNat_inj.1 ?_⟩
  rw [Nat.toNat_digitChar_of_lt_ten small]
  omega

theorem toDigits_append {digits : List Char} {value : Nat} (positive : 0 < value)
    (decimal : ∀ digit ∈ digits, digit.isDigit = true) :
    Nat.toDigits 10 value ++ digits = Nat.toDigits 10
      (digits.foldl (fun value digit => value * 10 + (digit.toNat - 48)) value) := by
  induction digits generalizing value with
  | nil => exact List.append_nil _
  | cons digit rest ih =>
    obtain ⟨small, spelled⟩ := digitChar_value (decimal digit List.mem_cons_self)
    have grown : 0 < value * 10 + (digit.toNat - 48) := by omega
    have further := Nat.toDigits_append_toDigits (by decide) positive small
    rw [Nat.toDigits_of_lt_base small, spelled, Nat.mul_comm] at further
    have others := ih grown fun other member => decimal other (List.mem_cons_of_mem digit member)
    rw [List.foldl_cons, ← others, ← further, List.append_assoc, List.singleton_append]

theorem head?_toDigits_ne {n : Nat} (positive : 0 < n) :
    (Nat.toDigits 10 n).head? ≠ some '0' := by
  induction n using Nat.strongRecOn with
  | ind n ih =>
    rw [Nat.toDigits_eq_if (by decide)]
    split
    · rw [List.head?_cons, ne_eq, Option.some.injEq, Nat.digitChar_eq_zero]
      omega
    · have shorter := ih (n / 10) (by omega) (by omega)
      rw [List.head?_append, Option.or_of_isSome (by simp [Nat.toDigits_ne_nil])]
      exact shorter

theorem toDigits_eq_cons {n : Nat} (positive : 0 < n) :
    ∃ digit rest, Nat.toDigits 10 n = digit :: rest ∧ digit ≠ '0' ∧
      ∀ c ∈ digit :: rest, c.isDigit = true := by
  obtain ⟨digit, rest, spelled⟩ :=
    List.exists_cons_of_ne_nil (Nat.toDigits_ne_nil (n := n) (b := 10))
  have leading := head?_toDigits_ne positive
  rw [spelled, List.head?_cons, ne_eq, Option.some.injEq] at leading
  refine ⟨digit, rest, spelled, leading, fun c member => ?_⟩
  rw [← spelled] at member
  exact Nat.isDigit_of_mem_toDigits (by decide) (by decide) member

theorem foldl_toDigits (n : Nat) :
    (Nat.toDigits 10 n).foldl (fun value digit => value * 10 + (digit.toNat - 48)) 0 = n := by
  have read := Nat.ofDigitChars_ten_toDigits (n := n)
  simp only [Nat.ofDigitChars_eq_foldl, Nat.mul_comm 10] at read
  exact read

end TableSchema.Text
