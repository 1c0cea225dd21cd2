import TableSchema.Proofs.Json.Spelling
import TableSchema.Json.Node

set_option autoImplicit false

namespace TableSchema

namespace Json

mutual

def tokens : Json → List Token
  | .null => [.null]
  | .bool value => [.bool value]
  | .number value => [.number (some value)]
  | .text value => [.text (some value)]
  | .array [] => [.openBracket, .closeBracket]
  | .array (item :: rest) => .openBracket :: (item.tokens ++ tokensOfItems rest)
  | .object [] => [.openBrace, .closeBrace]
  | .object ((key, value) :: rest) =>
    .openBrace :: .text (some key) :: .colon :: (value.tokens ++ tokensOfMembers rest)

def tokensOfItems : List Json → List Token
  | [] => [.closeBracket]
  | item :: rest => .comma :: (item.tokens ++ tokensOfItems rest)

def tokensOfMembers : List (String × Json) → List Token
  | [] => [.closeBrace]
  | (key, value) :: rest =>
    .comma :: .text (some key) :: .colon :: (value.tokens ++ tokensOfMembers rest)

end

mutual

/-- The node of a value in a text without faults. -/
def node : Json → Node
  | .null => .null
  | .bool value => .bool value
  | .number value => .number (some value)
  | .text value => .text (some value)
  | .array items => .array (nodesOfItems items) .closed
  | .object members => .object (nodesOfMembers members) .closed

def nodesOfItems : List Json → List Node
  | [] => []
  | item :: rest => item.node :: nodesOfItems rest

def nodesOfMembers : List (String × Json) → List (Option String × Node)
  | [] => []
  | (key, value) :: rest => (some key, value.node) :: nodesOfMembers rest

end

theorem nodesOfItems_eq_map (items : List Json) : nodesOfItems items = items.map node := by
  induction items with
  | nil => rfl
  | cons item rest ih => rw [nodesOfItems, ih, List.map_cons]

theorem nodesOfMembers_eq_map (members : List (String × Json)) :
    nodesOfMembers members = members.map fun m => (some m.1, m.2.node) := by
  induction members with
  | nil => rfl
  | cons m rest ih => rw [nodesOfMembers, ih, List.map_cons]

theorem nodesOfMembers_append (members others : List (String × Json)) :
    nodesOfMembers (members ++ others) = nodesOfMembers members ++ nodesOfMembers others := by
  simp only [nodesOfMembers_eq_map, List.map_append]

end Json

section Apart

open Token (Apart)

private theorem apart_cons {token : Token} {rest : List Token} (other : token.isNumber = false)
    (apart : Apart rest) : Apart (token :: rest) := by
  cases rest with
  | nil => exact List.isChain_singleton _
  | cons next rest =>
    refine List.isChain_cons_cons.2 ⟨fun number => ?_, apart⟩
    rw [other] at number
    cases number

private theorem apart_append {before after : List Token} (first : Apart before)
    (second : Apart after) (other : ∀ token ∈ after.head?, token.isNumber = false) :
    Apart (before ++ after) :=
  List.isChain_append.2 ⟨first, second, fun _ _ token member _ => other token member⟩

private theorem head_tokensOfItems (items : List Json) :
    ∀ token ∈ (Json.tokensOfItems items).head?, token.isNumber = false := by
  intro token first
  cases items <;> cases first <;> rfl

private theorem head_tokensOfMembers (members : List (String × Json)) :
    ∀ token ∈ (Json.tokensOfMembers members).head?, token.isNumber = false := by
  intro token first
  cases members <;> cases first <;> rfl

namespace Json

mutual

theorem apart_tokens : (value : Json) → Apart value.tokens
  | .null | .bool _ | .number _ | .text _ => List.isChain_singleton _
  | .array [] | .object [] => apart_cons rfl (List.isChain_singleton _)
  | .array (item :: rest) =>
    apart_cons rfl
      (apart_append (apart_tokens item) (apart_tokensOfItems rest) (head_tokensOfItems rest))
  | .object ((_, value) :: rest) =>
    apart_cons rfl (apart_cons rfl (apart_cons rfl
      (apart_append (apart_tokens value) (apart_tokensOfMembers rest)
        (head_tokensOfMembers rest))))

theorem apart_tokensOfItems : (items : List Json) → Apart (tokensOfItems items)
  | [] => List.isChain_singleton _
  | item :: rest =>
    apart_cons rfl
      (apart_append (apart_tokens item) (apart_tokensOfItems rest) (head_tokensOfItems rest))

theorem apart_tokensOfMembers : (members : List (String × Json)) → Apart (tokensOfMembers members)
  | [] => List.isChain_singleton _
  | (_, value) :: rest =>
    apart_cons rfl (apart_cons rfl (apart_cons rfl
      (apart_append (apart_tokens value) (apart_tokensOfMembers rest)
        (head_tokensOfMembers rest))))

end

end Json

end Apart

section Assembly

open Assembly (step place)

/-- The first item of an array is taken like any other value: it does not close the array. -/
private theorem foldl_step_first (value : Json) (frames : List Frame) :
    value.tokens.foldl step (.within (.array [] :: frames) .itemOrClose) =
      value.tokens.foldl step (.within (.array [] :: frames) .value) := by
  match value with
  | .null | .bool _ | .number _ | .text _ => rfl
  | .array [] | .array (_ :: _) => rfl
  | .object [] | .object (_ :: _) => rfl

namespace Json

mutual

/-- Where a value must stand, the tokens of a value place its node. -/
theorem foldl_step_tokens (value : Json) (frames : List Frame) :
    value.tokens.foldl step (.within frames .value) = place value.node frames := by
  match value with
  | .null | .bool _ | .number _ | .text _ => rfl
  | .array [] | .object [] => rfl
  | .array (item :: rest) =>
    rw [tokens, List.foldl_cons, List.foldl_append]
    -- The first item stands where the array could also close, every later one after a comma.
    have opened : step (.within frames .value) .openBracket =
      .within (.array [] :: frames) .itemOrClose := rfl
    rw [opened, foldl_step_first, foldl_step_tokens item]
    exact foldl_step_tokensOfItems rest [item.node] frames
  | .object ((key, value) :: rest) =>
    have placed := foldl_step_tokens value (.object [] (some key) :: frames)
    have further := foldl_step_tokensOfMembers rest [(some key, value.node)] frames
    rw [tokens, List.foldl_cons, List.foldl_cons, List.foldl_cons, List.foldl_append]
    exact (congrArg (fun assembly => (tokensOfMembers rest).foldl step assembly) placed).trans
      further

theorem foldl_step_tokensOfItems (items : List Json) (before : List Node)
    (frames : List Frame) :
    (tokensOfItems items).foldl step (.within (.array before :: frames) .separator) =
      place (.array (before.reverse ++ nodesOfItems items) .closed) frames := by
  match items with
  | [] =>
    rw [nodesOfItems, List.append_nil]
    rfl
  | item :: rest =>
    have placed := foldl_step_tokens item (.array before :: frames)
    have further := foldl_step_tokensOfItems rest (item.node :: before) frames
    rw [List.reverse_cons, List.append_assoc] at further
    rw [tokensOfItems, List.foldl_cons, List.foldl_append]
    exact (congrArg (fun assembly => (tokensOfItems rest).foldl step assembly) placed).trans
      further

theorem foldl_step_tokensOfMembers (members : List (String × Json))
    (before : List (Option String × Node)) (frames : List Frame) :
    (tokensOfMembers members).foldl step (.within (.object before none :: frames) .separator) =
      place (.object (before.reverse ++ nodesOfMembers members) .closed) frames := by
  match members with
  | [] =>
    rw [nodesOfMembers, List.append_nil]
    rfl
  | (key, value) :: rest =>
    have placed := foldl_step_tokens value (.object before (some key) :: frames)
    have further := foldl_step_tokensOfMembers rest ((some key, value.node) :: before) frames
    rw [List.reverse_cons, List.append_assoc] at further
    rw [tokensOfMembers, List.foldl_cons, List.foldl_cons, List.foldl_cons, List.foldl_append]
    exact (congrArg (fun assembly => (tokensOfMembers rest).foldl step assembly) placed).trans
      further

end

end Json

end Assembly

theorem Document.ofText_of_spells {value : Json} {text : String}
    (spells : Spells value.tokens text.toList) : Document.ofText text = ⟨value.node, false⟩ := by
  rw [Document.ofText, Token.scan_of_spells spells value.apart_tokens, Document.ofTokens,
    Json.foldl_step_tokens]
  rfl

end TableSchema
