set_option autoImplicit false

namespace TableSchema.Text

/-- The bounds of a second byte, and how many bytes come after the first one in a whole code. -/
def continuation? (first : Nat) : Option (Nat × Nat × Nat) :=
  if first < 0xC2 then none
  else if first < 0xE0 then some (0x80, 0xBF, 1)
  else if first = 0xE0 then some (0xA0, 0xBF, 2)
  else if first = 0xED then some (0x80, 0x9F, 2)
  else if first < 0xF0 then some (0x80, 0xBF, 2)
  else if first = 0xF0 then some (0x90, 0xBF, 3)
  else if first < 0xF4 then some (0x80, 0xBF, 3)
  else if first = 0xF4 then some (0x80, 0x8F, 3)
  else none

def isContinuation (byte : UInt8) : Bool :=
  0x80 ≤ byte.toNat && byte.toNat < 0xC0

/-- How many of the bytes after the first one belong to its code, whole or broken off. -/
def continued (first : UInt8) (rest : List UInt8) : Nat :=
  match continuation? first.toNat, rest with
  | some (low, high, count), second :: more =>
    if low ≤ second.toNat ∧ second.toNat ≤ high then
      1 + ((more.take (count - 1)).takeWhile isContinuation).length
    else 0
  | _, _ => 0

/-- Reads bytes as UTF-8 with one replacement character for each code that is broken off. -/
def decodeLossy : List UInt8 → List Char
  | [] => []
  | first :: rest =>
    let code := first :: rest.take (continued first rest)
    (code.toByteArray.utf8DecodeChar? 0).getD '\uFFFD' ::
      decodeLossy (rest.drop (continued first rest))
termination_by bytes => bytes.length
decreasing_by simp only [List.length_cons, List.length_drop]; omega

end TableSchema.Text
