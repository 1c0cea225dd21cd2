import TableSchema.Json.Printer
import TableSchema.Proofs.Json.Reading

set_option autoImplicit false

namespace TableSchema

namespace Spells

variable {tokens others : List Token} {text rest : List Char}

theorem blanks_append {blanks : List Char} (blank : ∀ c ∈ blanks, Scanner.isBlank c = true)
    (spells : Spells tokens text) : Spells tokens (blanks ++ text) := by
  cases spells with
  | nil blank' =>
    refine .nil fun c member => ?_
    exact (List.mem_append.1 member).elim (blank c) (blank' c)
  | @cons blanks' _ _ _ _ blank' first others =>
    rw [List.append_assoc, ← List.append_assoc, ← List.append_assoc]
    refine .cons (fun c member => ?_) first others
    exact (List.mem_append.1 member).elim (blank c) (blank' c)

theorem append (spells : Spells tokens text) (later : Spells others rest) :
    Spells (tokens ++ others) (text ++ rest) := by
  induction spells with
  | nil blank => exact later.blanks_append blank
  | cons blank first _ ih =>
    rw [List.append_assoc]
    exact .cons blank first ih

theorem token {token : Token} {spelling : List Char} (first : token.Spelling spelling)
    (spells : Spells tokens text) : Spells (token :: tokens) (spelling ++ text) :=
  .cons (fun _ none => absurd none List.not_mem_nil) first spells

theorem singleton {token : Token} {spelling : List Char} (only : token.Spelling spelling) :
    Spells [token] spelling := by
  have spells := Spells.token only (.nil fun _ none => absurd none List.not_mem_nil)
  rw [List.append_nil] at spells
  exact spells

end Spells

namespace Json

mutual

/-- No number in the value is a double. -/
def FloatFree : Json → Prop
  | .number (.double _) => False
  | .null | .bool _ | .number (.integer ..) | .text _ => True
  | .array items => FloatFreeItems items
  | .object members => FloatFreeMembers members

def FloatFreeItems : List Json → Prop
  | [] => True
  | item :: rest => item.FloatFree ∧ FloatFreeItems rest

def FloatFreeMembers : List (String × Json) → Prop
  | [] => True
  | (_, value) :: rest => value.FloatFree ∧ FloatFreeMembers rest

end

private theorem spelling_escapedChar (c : Char) : CharSpelling c (escapedChar c) := by
  unfold escapedChar
  -- The seven characters with a letter of their own come first.
  iterate 7
    split
    · rename_i same
      exact .escape (by rw [same]; decide)
  rename_i quote backslash _ _ _ _ _
  split
  · rename_i control
    have high := Text.hexDigit?_hexDigit (n := c.toNat / 16) (by omega)
    have low := Text.hexDigit?_hexDigit (n := c.toNat % 16) (by omega)
    exact .unit (.digits (w := 0) (x := 0) rfl rfl high low (by omega))
  · rename_i visible
    exact .plain (by omega) quote backslash

private theorem spelling_printText (text : String) :
    Token.Spelling (.text (some text)) (printText text) := by
  have content : ∀ chars : List Char, TextSpelling chars (chars.flatMap escapedChar) := by
    intro chars
    induction chars with
    | nil => exact .nil
    | cons c rest ih =>
      rw [List.flatMap_cons]
      exact .cons (spelling_escapedChar c) ih
  exact .text (content text.toList)

mutual

theorem spells_print (value : Json) (floatFree : value.FloatFree) :
    Spells value.tokens value.print := by
  match value with
  | .null => exact .singleton .null
  | .bool true => exact .singleton .boolTrue
  | .bool false => exact .singleton .boolFalse
  | .number (.integer value low high) => exact .singleton (.integer value low high)
  | .text value => exact .singleton (spelling_printText value)
  | .array [] => exact .token .openBracket (.singleton .closeBracket)
  | .array (item :: rest) =>
    have first := spells_print item floatFree.1
    have others := spells_printItems rest floatFree.2
    have spells := Spells.token .openBracket (first.append others)
    exact spells
  | .object [] => exact .token .openBrace (.singleton .closeBrace)
  | .object ((key, value) :: rest) =>
    have first := spells_print value floatFree.1
    have others := spells_printMembers rest floatFree.2
    have member := Spells.token (spelling_printText key) (.token .colon (first.append others))
    have spells := Spells.token .openBrace member
    simp only [List.cons_append, List.nil_append] at spells
    simp only [tokens, print, List.cons_append, List.append_assoc]
    exact spells

theorem spells_printItems (items : List Json) (floatFree : FloatFreeItems items) :
    Spells (tokensOfItems items) (printItems items) := by
  match items with
  | [] => exact .singleton .closeBracket
  | item :: rest =>
    have first := spells_print item floatFree.1
    have others := spells_printItems rest floatFree.2
    have spells := Spells.token .comma (first.append others)
    exact spells

theorem spells_printMembers (members : List (String × Json))
    (floatFree : FloatFreeMembers members) :
    Spells (tokensOfMembers members) (printMembers members) := by
  match members with
  | [] => exact .singleton .closeBrace
  | (key, value) :: rest =>
    have first := spells_print value floatFree.1
    have others := spells_printMembers rest floatFree.2
    have member := Spells.token (spelling_printText key) (.token .colon (first.append others))
    have spells := Spells.token .comma member
    simp only [List.cons_append, List.nil_append] at spells
    simp only [tokensOfMembers, printMembers, List.cons_append, List.append_assoc]
    exact spells

end

theorem spells_render (value : Json) (floatFree : value.FloatFree) :
    Spells value.tokens value.render.toList := by
  rw [render, String.toList_ofList]
  exact spells_print value floatFree

/-- Reading the compact text of a value gives its canonical form. -/
theorem ofText_render {value : Json} (floatFree : value.FloatFree)
    (shallow : value.nesting ≤ Reader.maxDepth) : ofText value.render = .ok value.normalize :=
  ofText_of_spells shallow (value.spells_render floatFree)

end Json

end TableSchema
