import TableSchema.Json.Reader

set_option autoImplicit false

namespace TableSchema

namespace Reader

/-- The alternative of the given name. -/
def variantOf {α : Type} (variants : List (String × α)) (name : String) : Except Problem α :=
  match variants.lookup name with
  | some value => .ok value
  | none => .error (.mismatch (.unknownVariant name (variants.map (·.1))))

def nullOf (expected : String) : Reader Unit := fun _ node =>
  match node with
  | .null => .ok ()
  | node => .error (node.mismatch expected)

/-- An alternative by its name: a text, or an object with the name as its only key and null as its
value. Any other value is malformed. -/
def variant {α : Type} (variants : List (String × α)) : Reader α := fun depth node =>
  match node with
  | .text (some name) => variantOf variants name
  | .object members ending => descend depth fun depth =>
    match members, ending with
    | [], .unclosed fault => .error (.fault fault)
    | [], .brokenKey wanted _ => .error (.fault wanted)
    | [], _ => .error .malformed
    | (none, _) :: _, _ => .error .malformed
    | (some name, content) :: rest, ending => do
      let value ← variantOf variants name
      nullOf "unit" depth content
      match rest, ending with
      | [], .closed => .ok value
      | [], .unclosed fault => .error (.fault fault)
      | _, _ => .error .malformed
  | .broken _ _ named => .error (.fault named)
  | _ => .error .malformed

/-- The same for a value that has been read in full before its alternative is asked for. -/
def variantLater {α : Type} (variants : List (String × α)) : Reader α := fun depth node =>
  match node with
  | .object [(some name, content)] _ => do
    let value ← variantOf variants name
    match content with
    | .object [] _ => .ok value
    | content => do
      nullOf "unit" depth content
      return value
  | .object _ _ => .error (.mismatch (.invalidValue .map "map with a single key"))
  | .text (some name) => variantOf variants name
  | node => .error (node.mismatch "string or map")

/-- An alternative by its bare name; `later` and by number, from zero, for a value that has been
read in full before. -/
def variantName {α : Type} (variants : List (String × α)) (later : Bool) : Reader α :=
  fun _ node =>
    match node, later with
    | .text (some name), _ => variantOf variants name
    | .number (some (.integer (.ofNat index) _ _)), true =>
      match variants[index]? with
      | some (_, value) => .ok value
      | none => .error (.mismatch (.invalidValue (.integer index)
        ("variant index 0 <= i < " ++ toString variants.length)))
    | node, _ => .error (node.mismatch "variant identifier")

end Reader

/-- What comes with an alternative: nothing, or a content that determines the value. -/
inductive Payload (α : Type) where
  | alone (label : String) (value : α)
  | holding (read : Bool → Reader α)

/-- Alternatives told by the field `tag`, with their content in the field `content`. -/
structure TaggedShape (α : Type) where
  name : String
  tag : String
  content : String
  variants : List (String × Payload α)

namespace TaggedShape

variable {α : Type}

def title (shape : TaggedShape α) : String :=
  "adjacently tagged enum " ++ shape.name

private def readTag (shape : TaggedShape α) (later : Bool) : Reader (Payload α) :=
  if later then Reader.variantLater shape.variants else Reader.variant shape.variants

private def readContent (payload : Payload α) (later : Bool) : Reader α := fun depth node =>
  match payload with
  | .alone label value => do
    Reader.nullOf ("unit variant " ++ label) depth node
    return value
  | .holding read => read later depth node

private def duplicate (field : String) : Problem :=
  .mismatch (.duplicateField field)

private def missing (field : String) : Problem :=
  .mismatch (.missingField field)

/-- What of an object is known so far. Content that comes before its tag waits for it. -/
inductive Draft (α : Type) where
  | blank
  | tagged (payload : Payload α)
  | waiting (content : Node)
  | complete (value : α)

/-- Reads members; others than the two fields are passed over. -/
def readMembers (shape : TaggedShape α) (later : Bool) (depth : Nat) :
    Draft α → List (Option String × Node) → Except Problem (Draft α)
  | draft, [] => .ok draft
  | _, (none, _) :: _ => .error .malformed
  | draft, (some key, node) :: rest =>
    if key = shape.tag then
      match draft with
      | .blank => do
        let payload ← shape.readTag later depth node
        readMembers shape later depth (.tagged payload) rest
      | .waiting content => do
        let payload ← shape.readTag later depth node
        let value ← readContent payload true depth content
        readMembers shape later depth (.complete value) rest
      | .tagged _ | .complete _ => .error (duplicate key)
    else if key = shape.content then
      match draft with
      | .blank => do
        discard (Reader.json depth node)
        readMembers shape later depth (.waiting node) rest
      | .tagged payload => do
        let value ← readContent payload later depth node
        readMembers shape later depth (.complete value) rest
      | .waiting _ | .complete _ => .error (duplicate key)
    else do
      Reader.passOver depth node
      readMembers shape later depth draft rest

private def finish (shape : TaggedShape α) : Draft α → Except Problem α
  | .complete value => .ok value
  | .tagged (.alone _ value) => .ok value
  | .tagged (.holding _) => .error (missing shape.content)
  | .blank | .waiting _ => .error (missing shape.tag)

private def excess (later : Bool) (count : Nat) : Problem :=
  if later then .mismatch (.invalidLength count "2 elements in sequence") else .malformed

/-- Reads an alternative from an object of the two fields, in either order, or from an array of
the tag and the content. `later`: the node has been read in full before. -/
def reader (shape : TaggedShape α) (later : Bool) : Reader α := fun depth node =>
  match node with
  | .object members ending => Reader.descend depth fun depth => do
    let draft ← shape.readMembers later depth .blank members
    let draft ← Reader.orFault ending.fault? draft
    shape.finish draft
  | .array items ending => Reader.descend depth fun depth => do
    match items with
    | [] =>
      Reader.orFault ending.fault? ()
      .error (.mismatch (.invalidLength 0 shape.title))
    | tag :: rest =>
      let payload ← Reader.variantName shape.variants later depth tag
      match rest with
      | [] =>
        Reader.orFault ending.fault? ()
        .error (.mismatch (.invalidLength 1 shape.title))
      | content :: rest =>
        let value ← readContent payload later depth content
        match rest with
        | [] => Reader.orFault ending.fault? value
        | _ :: _ => .error (excess later (rest.length + 2))
  | node => .error (node.mismatch shape.title)

section Members

variable {shape : TaggedShape α} {later : Bool} {depth : Nat} {draft : Draft α}
  {rest : List (Option String × Node)}

theorem readMembers_other {key : String} {node : Node} (untagged : key ≠ shape.tag)
    (empty : key ≠ shape.content) (sound : Reader.passOver depth node = .ok ()) :
    shape.readMembers later depth draft ((some key, node) :: rest) =
      shape.readMembers later depth draft rest := by
  rw [readMembers.eq_def]
  simp only [if_neg untagged, if_neg empty, sound]
  rfl

private theorem readTag_text {name : String} {payload : Payload α}
    (known : shape.variants.lookup name = some payload) :
    shape.readTag later depth (.text (some name)) = .ok payload := by
  cases later <;> simp [readTag, Reader.variantLater, Reader.variant, Reader.variantOf, known]

theorem readMembers_tag {name : String} {payload : Payload α}
    (known : shape.variants.lookup name = some payload) :
    shape.readMembers later depth .blank ((some shape.tag, .text (some name)) :: rest) =
      shape.readMembers later depth (.tagged payload) rest := by
  simp only [readMembers, if_true, readTag_text known]
  rfl

theorem readMembers_content (apart : shape.content ≠ shape.tag) {node : Node}
    {read : Bool → Reader α} {value : α} (reads : read later depth node = .ok value) :
    shape.readMembers later depth (.tagged (.holding read)) ((some shape.content, node) :: rest) =
      shape.readMembers later depth (.complete value) rest := by
  simp only [readMembers, if_neg apart, if_true, readContent, reads]
  rfl

theorem readMembers_content_first (apart : shape.content ≠ shape.tag) {node : Node} {kept : Json}
    (sound : Reader.json depth node = .ok kept) :
    shape.readMembers later depth .blank ((some shape.content, node) :: rest) =
      shape.readMembers later depth (.waiting node) rest := by
  simp only [readMembers, if_neg apart, if_true, sound]
  rfl

theorem readMembers_tag_last {name : String} {read : Bool → Reader α} {content : Node} {value : α}
    (known : shape.variants.lookup name = some (.holding read))
    (reads : read true depth content = .ok value) :
    shape.readMembers later depth (.waiting content)
        ((some shape.tag, .text (some name)) :: rest) =
      shape.readMembers later depth (.complete value) rest := by
  simp only [readMembers, if_true, readTag_text known]
  simp only [bind, Except.bind, readContent, reads]

theorem reader_of_complete {members : List (Option String × Node)} {value : α}
    (read : shape.readMembers later depth .blank members = .ok (.complete value)) :
    shape.reader later (depth + 1) (.object members .closed) = .ok value := by
  simp only [reader, Reader.descend, read]
  rfl

theorem reader_of_tagged {members : List (Option String × Node)} {label : String} {value : α}
    (read : shape.readMembers later depth .blank members = .ok (.tagged (.alone label value))) :
    shape.reader later (depth + 1) (.object members .closed) = .ok value := by
  simp only [reader, Reader.descend, read]
  rfl

end Members

end TaggedShape

end TableSchema
