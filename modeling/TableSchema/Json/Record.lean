import TableSchema.Json.Reader

/-!
Readers of records with named fields.

A record is an object with its fields as members in any order, or an array of its fields in their
declared order. It is read into a draft that holds the fields met so far.
-/

set_option autoImplicit false

namespace TableSchema

/-- A field of a record whose drafts are of type `σ`. -/
structure Field (σ : Type) where
  name : String
  required : Bool
  present : σ → Bool
  read : Nat → Node → σ → Except Problem σ

/-- How a record is read: `title` is its name in messages, `strict` says that it takes no fields
but its own, and `finish` makes the record of a draft or names a field that the draft lacks. -/
structure RecordShape (σ α : Type) where
  title : String
  strict : Bool
  blank : σ
  fields : List (Field σ)
  finish : σ → Except String α

namespace Field

def of {σ β : Type} (name : String) (required : Bool) (get : σ → Option β)
    (put : σ → β → σ) (reader : Reader β) : Field σ where
  name := name
  required := required
  present draft := (get draft).isSome
  read depth node draft := (reader depth node).map (put draft)

end Field

namespace RecordShape

variable {σ α : Type}

def need {β : Type} (field : String) : Option β → Except String β
  | some value => .ok value
  | none => .error field

theorem need_eq_ok_iff {β : Type} {field : String} {component : Option β} {value : β} :
    need field component = .ok value ↔ component = some value := by
  cases component <;> simp [need]

def fieldNames (shape : RecordShape σ α) : List String :=
  shape.fields.map (·.name)

/-- Reads members into the draft. A key is judged before its value is looked at. -/
def readMembers (shape : RecordShape σ α) (depth : Nat) :
    σ → List (Option String × Node) → Except Problem σ
  | draft, [] => .ok draft
  | _, (none, _) :: _ => .error .malformed
  | draft, (some key, node) :: rest =>
    match shape.fields.find? (·.name == key) with
    | some field =>
      if field.present draft then .error (.mismatch (.duplicateField key))
      else do
        let draft ← field.read depth node draft
        readMembers shape depth draft rest
    | none =>
      if shape.strict then .error (.mismatch (.unknownField key shape.fieldNames))
      else do
        Reader.passOver depth node
        readMembers shape depth draft rest

/-- Reads items into the draft, one for each field. Where the items end, the remaining fields must
be ones that may be left out; the first that may not is told by its position. -/
def readItems (shape : RecordShape σ α) (depth : Nat) (ending : ArrayEnd) :
    List (Field σ) → List Node → σ → Except Problem σ
  | [], [], draft => Reader.orFault ending.fault? draft
  | [], _ :: _, _ => .error .malformed
  | field :: fields, item :: items, draft => do
    let draft ← field.read depth item draft
    readItems shape depth ending fields items draft
  | field :: fields, [], draft =>
    match ending with
    | .unclosed fault => .error (.fault fault)
    | .closed =>
      if field.required then
        .error (.mismatch (.invalidLength (shape.fields.length - (fields.length + 1))
          (shape.title ++ " with " ++ toString shape.fields.length ++ " elements")))
      else readItems shape depth ending fields [] draft

private def complete (shape : RecordShape σ α) (draft : σ) : Except Problem α :=
  match shape.finish draft with
  | .ok value => .ok value
  | .error field => .error (.mismatch (.missingField field))

def readObject (shape : RecordShape σ α) (depth : Nat) (members : List (Option String × Node))
    (ending : ObjectEnd) : Except Problem α :=
  Reader.descend depth fun depth => do
    let draft ← shape.readMembers depth shape.blank members
    let draft ← Reader.orFault ending.fault? draft
    shape.complete draft

theorem readObject_of_finish {shape : RecordShape σ α} {depth : Nat} {draft : σ} {value : α}
    {members : List (Option String × Node)}
    (read : shape.readMembers depth shape.blank members = .ok draft)
    (finished : shape.finish draft = .ok value) :
    shape.readObject (depth + 1) members .closed = .ok value := by
  have completed : shape.complete draft = .ok value := by rw [complete, finished]
  simp only [readObject, Reader.descend, read]
  exact completed

def reader (shape : RecordShape σ α) : Reader α := fun depth node =>
  match node with
  | .object members ending => shape.readObject depth members ending
  | .array items ending => Reader.descend depth fun depth => do
    let draft ← shape.readItems depth ending shape.fields items shape.blank
    shape.complete draft
  | node => .error (node.mismatch shape.title)

theorem exists_draft_of_reader {shape : RecordShape σ α} {depth : Nat} {node : Node} {value : α}
    (read : shape.reader depth node = .ok value) :
    ∃ below draft, shape.finish draft = .ok value ∧
      ((∃ members ending, node = .object members ending ∧
          shape.readMembers below shape.blank members = .ok draft) ∨
        ∃ items ending, node = .array items ending ∧
          shape.readItems below ending shape.fields items shape.blank = .ok draft) := by
  have finished {draft : σ} (completed : shape.complete draft = .ok value) :
      shape.finish draft = .ok value := by
    unfold complete at completed
    cases done : shape.finish draft with
    | ok made => simpa [done] using completed
    | error field => simp [done] at completed
  cases node with
  | object members ending =>
    obtain ⟨below, read⟩ := Reader.descend_eq_ok read
    obtain ⟨draft, filled, read⟩ := exists_of_bind_eq_ok read
    obtain ⟨_, sound, completed⟩ := exists_of_bind_eq_ok read
    obtain ⟨_, rfl⟩ := Reader.orFault_eq_ok sound
    exact ⟨below, draft, finished completed, Or.inl ⟨members, ending, rfl, filled⟩⟩
  | array items ending =>
    obtain ⟨below, read⟩ := Reader.descend_eq_ok read
    obtain ⟨draft, filled, completed⟩ := exists_of_bind_eq_ok read
    exact ⟨below, draft, finished completed, Or.inr ⟨items, ending, rfl, filled⟩⟩
  | _ => cases read

end RecordShape

end TableSchema
