import TableSchema.Json.Printer
import TableSchema.Proofs.Text.Bytes

set_option autoImplicit false

namespace TableSchema

namespace Text

/-- No character is below the blank, so none ends a line. -/
def Inline (chars : List Char) : Prop :=
  ∀ c ∈ chars, 0x20 ≤ c.toNat

@[simp] theorem inline_nil : Inline [] := List.forall_mem_nil _

@[simp] theorem inline_cons {c : Char} {rest : List Char} :
    Inline (c :: rest) ↔ 0x20 ≤ c.toNat ∧ Inline rest :=
  List.forall_mem_cons

@[simp] theorem inline_append {chars others : List Char} :
    Inline (chars ++ others) ↔ Inline chars ∧ Inline others :=
  List.forall_mem_append

theorem Inline.subset {chars others : List Char} (inside : others ⊆ chars) (inline : Inline chars) :
    Inline others :=
  fun c member => inline c (inside member)

theorem inline_toDigits (n : Nat) : Inline (Nat.toDigits 10 n) := by
  intro c member
  have digit : c.isDigit = true := Nat.isDigit_of_mem_toDigits (by decide) (by decide) member
  simp only [Char.isDigit, Bool.and_eq_true, decide_eq_true_eq] at digit
  have low : (48 : UInt32).toNat ≤ c.val.toNat := digit.1
  exact Nat.le_trans (by decide) low

theorem inline_toString (value : Int) : Inline (toString value).toList := by
  cases value with
  | ofNat n =>
    change Inline n.repr.toList
    rw [Nat.toList_repr]
    exact inline_toDigits n
  | negSucc n =>
    change Inline ("-" ++ (n + 1).repr).toList
    rw [String.toList_append, Nat.toList_repr, inline_append]
    exact ⟨by simp, inline_toDigits (n + 1)⟩

end Text

open Text (Inline inline_nil inline_cons inline_append inline_toDigits)

theorem Double.inline_text (x : Double) : Inline x.text := by
  have digits := inline_toDigits x.shortest.digits
  have first (n : Nat) := digits.subset (List.take_subset n _)
  have later (n : Nat) := digits.subset (List.drop_subset n _)
  have rest := digits.subset fun _ => List.mem_of_mem_tail
  have zeros (n : Nat) : Inline (List.replicate n '0') := by
    intro c member
    rw [List.eq_of_mem_replicate member]
    decide
  simp only [Double.text]
  -- Digits, zeros and marks in one order or another.
  split_ifs <;> simp [digits, first, later, rest, zeros, inline_toDigits]

theorem Number.inline_text (value : Number) : Inline value.text := by
  cases value with
  | integer value => exact Text.inline_toString value
  | double value => exact value.inline_text

namespace Json

theorem inline_escapedChar (c : Char) : Inline (escapedChar c) := by
  unfold escapedChar
  iterate 7
    split
    · simp
  split
  · rename_i control
    have digit : ∀ n : Fin 16, 0x20 ≤ (Text.hexDigit n).toNat := by decide
    have high := digit ⟨c.toNat / 16, by omega⟩
    have low := digit ⟨c.toNat % 16, by omega⟩
    simp [high, low]
  · rename_i visible
    exact inline_cons.2 ⟨by omega, inline_nil⟩

theorem inline_printText (text : String) : Inline (printText text) := by
  have content : Inline (text.toList.flatMap escapedChar) := by
    intro c member
    obtain ⟨source, _, inside⟩ := List.mem_flatMap.1 member
    exact inline_escapedChar source c inside
  simp [printText, content]

mutual

theorem inline_print (value : Json) : Inline value.print := by
  match value with
  | .null | .bool true | .bool false | .array [] | .object [] => simp [print]
  | .number value => exact value.inline_text
  | .text value => exact inline_printText value
  | .array (item :: rest) => simp [print, inline_print item, inline_printItems rest]
  | .object ((key, value) :: rest) =>
    simp [print, inline_printText key, inline_print value, inline_printMembers rest]

theorem inline_printItems (items : List Json) : Inline (printItems items) := by
  match items with
  | [] => simp [printItems]
  | item :: rest => simp [printItems, inline_print item, inline_printItems rest]

theorem inline_printMembers (members : List (String × Json)) : Inline (printMembers members) := by
  match members with
  | [] => simp [printMembers]
  | (key, value) :: rest =>
    simp [printMembers, inline_printText key, inline_print value, inline_printMembers rest]

end

theorem lineEnd_not_mem_utf8_render (value : Json) : 10 ∉ Text.utf8 value.render := by
  intro member
  have newline : '\n' ∈ value.render.toList := (Text.mem_utf8_iff (by decide)).1 member
  rw [render, String.toList_ofList] at newline
  exact absurd (inline_print value '\n' newline) (by decide)

end Json

end TableSchema
