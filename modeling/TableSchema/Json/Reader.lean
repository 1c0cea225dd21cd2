import TableSchema.Json.Problem

/-!
Readers: from a node to a value, or to the first problem in the order of the text.

A reader is given how many containers may still be opened. A container one level deeper than
`Reader.maxDepth` is malformed, whatever it holds; passing over a value counts no levels.
-/

set_option autoImplicit false

namespace TableSchema

/-- Reads a value from a node, below which the given number of containers may still be opened. -/
abbrev Reader (α : Type) :=
  Nat → Node → Except Problem α

namespace Node

/-- The problem with a node of the wrong kind. A scalar is read in full before its kind is told. -/
def mismatch (expected : String) : Node → Problem
  | .broken wanted _ _ => .fault wanted
  | .number none | .text none => .malformed
  | .null => .mismatch (.invalidType .null expected)
  | .bool value => .mismatch (.invalidType (.bool value) expected)
  | .number (some (.integer value _ _)) => .mismatch (.invalidType (.integer value) expected)
  | .number (some (.double value)) => .mismatch (.invalidType (.double value) expected)
  | .text (some value) => .mismatch (.invalidType (.text value) expected)
  | .array _ _ => .mismatch (.invalidType .sequence expected)
  | .object _ _ => .mismatch (.invalidType .map expected)

end Node

theorem exists_of_bind_eq_ok {ε α β : Type} {first : Except ε α} {next : α → Except ε β} {value : β}
    (read : first >>= next = .ok value) : ∃ found, first = .ok found ∧ next found = .ok value := by
  cases first with
  | error problem => cases read
  | ok found => exact ⟨found, rfl, read⟩

theorem exists_of_map_eq_ok {ε α β : Type} {f : α → β} {first : Except ε α} {value : β}
    (read : first.map f = .ok value) : ∃ found, first = .ok found ∧ f found = value := by
  cases first with
  | error problem => cases read
  | ok found => exact ⟨found, rfl, Except.ok.inj read⟩

namespace Reader

def maxDepth : Nat := 127

/-- Opens one container. -/
def descend {α : Type} (depth : Nat) (read : Nat → Except Problem α) : Except Problem α :=
  match depth with
  | 0 => .error .malformed
  | depth + 1 => read depth

/-- Goes on where there is no fault. -/
def orFault {α : Type} (fault : Option Fault) (value : α) : Except Problem α :=
  match fault with
  | none => .ok value
  | some fault => .error (.fault fault)

theorem descend_eq_ok {α : Type} {depth : Nat} {read : Nat → Except Problem α} {value : α}
    (opened : descend depth read = .ok value) : ∃ below, read below = .ok value := by
  cases depth with
  | zero => cases opened
  | succ below => exact ⟨below, opened⟩

theorem orFault_eq_ok {α : Type} {fault : Option Fault} {value result : α}
    (sound : orFault fault value = .ok result) : fault = none ∧ value = result := by
  cases fault with
  | none => exact ⟨rfl, Except.ok.inj sound⟩
  | some fault => cases sound

def map {α β : Type} (f : α → β) (read : Reader α) : Reader β := fun depth node =>
  (read depth node).map f

/-- Passes over a value; its numbers and texts need not have one. -/
def passOver : Reader Unit := fun _ node =>
  orFault node.passedFault? ()

def textOf (expected : String) : Reader String := fun _ node =>
  match node with
  | .text (some value) => .ok value
  | node => .error (node.mismatch expected)

def text : Reader String :=
  textOf "a string"

def bool : Reader Bool := fun _ node =>
  match node with
  | .bool value => .ok value
  | node => .error (node.mismatch "a boolean")

def natural (limit : Nat) (expected : String) : Reader { n : Nat // n < limit } := fun _ node =>
  match node with
  | .number (some (.integer value _ _)) =>
    if h : 0 ≤ value ∧ value.toNat < limit then .ok ⟨value.toNat, h.2⟩
    else .error (.mismatch (.invalidValue (.integer value) expected))
  | node => .error (node.mismatch expected)

/-- Null stands for no value. -/
def optional {α : Type} (read : Reader α) : Reader (Option α) := fun depth node =>
  match node with
  | .null => .ok none
  | node => (read depth node).map some

def listOf {α : Type} (read : Reader α) : Reader (List α) := fun depth node =>
  match node with
  | .array items ending => descend depth fun depth => do
    let values ← items.mapM (read depth)
    orFault ending.fault? values
  | node => .error (node.mismatch "a sequence")

def member {α : Type} (read : Reader α) (depth : Nat) (m : Option String × Node) :
    Except Problem (String × α) :=
  match m.1 with
  | none => .error .malformed
  | some key => (read depth m.2).map fun value => (key, value)

/-- The members of an object in the order of the text, repeated keys included. -/
def membersOf {α : Type} (expected : String) (read : Reader α) : Reader (List (String × α)) :=
  fun depth node =>
    match node with
    | .object members ending => descend depth fun depth => do
      let entries ← members.mapM (member read depth)
      orFault ending.fault? entries
    | node => .error (node.mismatch expected)

mutual

def json (depth : Nat) : Node → Except Problem Json
  | .null => .ok .null
  | .bool value => .ok (.bool value)
  | .number (some value) => .ok (.number value)
  | .text (some value) => .ok (.text value)
  | .number none | .text none => .error .malformed
  | .broken wanted _ _ => .error (.fault wanted)
  | .array items ending =>
    match depth with
    | 0 => .error .malformed
    | depth + 1 => do
      let values ← jsonItems depth items
      orFault ending.fault? (.array values)
  | .object members ending =>
    match depth with
    | 0 => .error .malformed
    | depth + 1 => do
      let entries ← jsonMembers depth members
      orFault ending.fault? (.object entries)

def jsonItems (depth : Nat) : List Node → Except Problem (List Json)
  | [] => .ok []
  | item :: rest => do
    let value ← json depth item
    let values ← jsonItems depth rest
    return value :: values

def jsonMembers (depth : Nat) : List (Option String × Node) →
    Except Problem (List (String × Json))
  | [] => .ok []
  | (none, _) :: _ => .error .malformed
  | (some key, node) :: rest => do
    let value ← json depth node
    let entries ← jsonMembers depth rest
    return (key, value) :: entries

end

/-- Reads a document from its text. Nothing but blanks may follow the value. -/
def run {α : Type} (read : Reader α) (text : String) : Except Problem α :=
  let document := Document.ofText text
  match read maxDepth document.root with
  | .error problem => .error problem
  | .ok value => if document.trailing then .error .malformed else .ok value

end Reader

namespace Json

def ofText (text : String) : Except Problem Json :=
  (Reader.run Reader.json text).map normalize

end Json

end TableSchema
