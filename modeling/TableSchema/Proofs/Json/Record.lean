import Mathlib.Data.List.Pairwise
import TableSchema.Json.Record
import TableSchema.Proofs.Json.Reading

set_option autoImplicit false

namespace TableSchema

variable {σ α : Type}

namespace Field

/-- Once read, the field is there. -/
def Marks (field : Field σ) : Prop :=
  ∀ ⦃depth : Nat⦄ ⦃node : Node⦄ ⦃draft next : σ⦄,
    field.read depth node draft = .ok next → field.present next = true

/-- Reading the one field leaves the other as it was, and may as well come after it. -/
structure Spares (first second : Field σ) : Prop where
  keeps : ∀ {depth : Nat} {node : Node} {draft next : σ},
    first.read depth node draft = .ok next → second.present next = second.present draft
  commutes : ∀ {depth : Nat} {node node' : Node} {draft next last : σ},
    first.read depth node draft = .ok next → second.read depth node' next = .ok last →
    ∃ other, second.read depth node' draft = .ok other ∧ first.read depth node other = .ok last

/-- Fields that do not touch each other. -/
def Independent (first second : Field σ) : Prop :=
  first.Spares second ∧ second.Spares first

instance : Std.Symm (@Independent σ) :=
  ⟨fun _ _ apart => apart.symm⟩

section Of

variable {β γ : Type} {name name' : String} {required required' : Bool}
  {get : σ → Option β} {put : σ → β → σ} {reader : Reader β}
  {get' : σ → Option γ} {put' : σ → γ → σ} {reader' : Reader γ}

theorem read_of_eq_ok {depth : Nat} {node : Node} {draft next : σ} :
    (Field.of name required get put reader).read depth node draft = .ok next ↔
      ∃ value, reader depth node = .ok value ∧ put draft value = next := by
  cases known : reader depth node <;> simp [Field.of, known, Except.map]

theorem marks_of (kept : ∀ draft value, get (put draft value) = some value) :
    (Field.of name required get put reader).Marks := by
  intro depth node draft next read
  obtain ⟨value, _, rfl⟩ := read_of_eq_ok.1 read
  exact Option.isSome_iff_exists.2 ⟨value, kept draft value⟩

private theorem spares_of (frame : ∀ draft value, get' (put draft value) = get' draft)
    (swap : ∀ draft value value', put' (put draft value) value' = put (put' draft value') value) :
    (Field.of name required get put reader).Spares
      (Field.of name' required' get' put' reader') where
  keeps := by
    intro depth node draft next read
    obtain ⟨value, _, rfl⟩ := read_of_eq_ok.1 read
    exact congrArg Option.isSome (frame draft value)
  commutes := by
    intro depth node node' draft next last read read'
    obtain ⟨value, known, rfl⟩ := read_of_eq_ok.1 read
    obtain ⟨value', known', rfl⟩ := read_of_eq_ok.1 read'
    refine ⟨put' draft value', read_of_eq_ok.2 ⟨value', known', rfl⟩, ?_⟩
    exact read_of_eq_ok.2 ⟨value, known, (swap draft value value').symm⟩

theorem independent_of (frame : ∀ draft value, get' (put draft value) = get' draft)
    (frame' : ∀ draft value, get (put' draft value) = get draft)
    (swap : ∀ draft value value', put' (put draft value) value' = put (put' draft value') value) :
    (Field.of name required get put reader).Independent
      (Field.of name' required' get' put' reader') :=
  ⟨spares_of frame swap, spares_of frame' fun draft value' value => (swap draft value value').symm⟩

end Of

end Field

namespace RecordShape

/-- Every field marks the draft, and no two touch each other. -/
structure Separate (shape : RecordShape σ α) : Prop where
  marks : ∀ field ∈ shape.fields, field.Marks
  apart : shape.fields.Pairwise Field.Independent

/-- What one member does to a draft: it fills a field that is not there yet, or it is passed
over. -/
inductive Takes (shape : RecordShape σ α) (depth : Nat) (draft : σ) :
    Option String × Node → σ → Prop
  | field {key : String} {node : Node} {field : Field σ} {next : σ}
      (known : shape.fields.find? (·.name == key) = some field)
      (absent : field.present draft = false) (read : field.read depth node draft = .ok next) :
      Takes shape depth draft (some key, node) next
  | passed {key : String} {node : Node}
      (unknown : shape.fields.find? (·.name == key) = none) (lax : shape.strict = false)
      (sound : Reader.passOver depth node = .ok ()) : Takes shape depth draft (some key, node) draft

variable {shape : RecordShape σ α} {depth : Nat}

theorem readMembers_cons_eq_ok {draft result : σ} {m : Option String × Node}
    {rest : List (Option String × Node)} :
    shape.readMembers depth draft (m :: rest) = .ok result ↔
      ∃ next, shape.Takes depth draft m next ∧ shape.readMembers depth next rest = .ok result := by
  constructor
  · intro read
    obtain ⟨key | key, node⟩ := m
    · cases read
    · rw [readMembers] at read
      split at read
      · rename_i field known
        split at read
        · cases read
        · rename_i absent
          obtain ⟨next, taken, read⟩ := exists_of_bind_eq_ok read
          exact ⟨next, .field known (by simpa using absent) taken, read⟩
      · rename_i unknown
        split at read
        · cases read
        · rename_i lax
          obtain ⟨_, sound, read⟩ := exists_of_bind_eq_ok read
          exact ⟨draft, .passed unknown (by simpa using lax) sound, read⟩
  · rintro ⟨next, takes, read⟩
    cases takes with
    | field known absent taken =>
      simp only [readMembers, known, absent, taken]
      exact read
    | passed unknown lax sound =>
      simp only [readMembers, unknown, lax, sound]
      exact read

theorem Separate.takes_swap (separate : shape.Separate) {draft next last : σ}
    {m m' : Option String × Node} (first : shape.Takes depth draft m next)
    (second : shape.Takes depth next m' last) :
    ∃ other, shape.Takes depth draft m' other ∧ shape.Takes depth other m last := by
  cases first with
  | passed unknown lax sound => exact ⟨last, second, .passed unknown lax sound⟩
  | @field _ _ field _ known absent read =>
    cases second with
    | passed unknown lax sound => exact ⟨draft, .passed unknown lax sound, .field known absent read⟩
    | @field _ _ field' _ known' absent' read' =>
      have member := List.mem_of_find?_eq_some known
      -- The second field was absent after the first had been read, so it is another one.
      have other : field ≠ field' := by
        rintro rfl
        rw [separate.marks field member read] at absent'
        cases absent'
      have apart : field.Independent field' :=
        separate.apart.forall member (List.mem_of_find?_eq_some known') other
      obtain ⟨between, early, late⟩ := apart.1.commutes read read'
      rw [apart.1.keeps read] at absent'
      rw [← apart.2.keeps early] at absent
      exact ⟨between, .field known' absent' early, .field known absent late⟩

theorem Separate.readMembers_perm (separate : shape.Separate) {draft result : σ}
    {members shuffled : List (Option String × Node)} (same : members.Perm shuffled)
    (read : shape.readMembers depth draft members = .ok result) :
    shape.readMembers depth draft shuffled = .ok result := by
  induction same generalizing draft with
  | nil => exact read
  | cons m _ ih =>
    obtain ⟨next, takes, later⟩ := readMembers_cons_eq_ok.1 read
    exact readMembers_cons_eq_ok.2 ⟨next, takes, ih later⟩
  | swap m m' rest =>
    obtain ⟨next, first, later⟩ := readMembers_cons_eq_ok.1 read
    obtain ⟨last, second, later⟩ := readMembers_cons_eq_ok.1 later
    obtain ⟨other, early, late⟩ := separate.takes_swap first second
    exact readMembers_cons_eq_ok.2 ⟨other, early, readMembers_cons_eq_ok.2 ⟨last, late, later⟩⟩
  | trans _ _ ih ih' => exact ih' (ih read)

/-- The member that writes a field, or none where the field may be left out. -/
inductive WrittenField (name : String) (writes : Json → Prop) (omissible : Prop) :
    List (String × Json) → Prop
  | given {value : Json} (content : writes value) :
      WrittenField name writes omissible [(name, value)]
  | omitted (default : omissible) : WrittenField name writes omissible []

variable (shape) in
theorem readMembers_written {β : Type} {name : String} {required : Bool} {get : σ → Option β}
    {put : σ → β → σ} {reader : Reader β} {content : β} {writes : Json → Prop} {omissible : Prop}
    {members : List (String × Json)} (written : WrittenField name writes omissible members)
    (known : shape.fields.find? (·.name == name) = some (.of name required get put reader))
    (fill : Option β → σ) (absent : get (fill none) = none)
    (puts : ∀ value, put (fill none) value = fill (some value))
    (reads : ∀ value, writes value → reader.Reads value content)
    (shallow : Json.nestingOfMembers members ≤ depth) (rest : List (Option String × Node)) :
    ∃ slot : Option β, (slot = some content ∨ slot = none ∧ omissible) ∧
      shape.readMembers depth (fill none) (Json.nodesOfMembers members ++ rest) =
        shape.readMembers depth (fill slot) rest := by
  cases written with
  | @given value given =>
    have read := reads value given (Nat.le_trans (Nat.le_max_left _ _) shallow)
    have blank : (Field.of name required get put reader).present (fill none) = false := by
      simp only [Field.of, absent, Option.isSome_none]
    refine ⟨some content, .inl rfl, ?_⟩
    rw [← puts content]
    simp only [Json.nodesOfMembers, List.cons_append, List.nil_append, readMembers, known, blank]
    simp only [Field.of, read]
    rfl
  | omitted default => exact ⟨none, .inr ⟨rfl, default⟩, rfl⟩

theorem getD_slot {β : Type} {slot : Option β} {content default : β}
    (kept : slot = some content ∨ slot = none ∧ content = default) :
    slot.getD default = content := by
  rcases kept with rfl | ⟨rfl, rfl⟩ <;> rfl

theorem Separate.reads (separate : shape.Separate) {value : α}
    {members sorted : List (String × Json)} (order : members.Perm sorted)
    (read : ∀ ⦃depth : Nat⦄, Json.nestingOfMembers sorted ≤ depth → ∃ draft,
      shape.readMembers depth shape.blank (Json.nodesOfMembers sorted) = .ok draft ∧
        shape.finish draft = .ok value) :
    shape.reader.Reads (.object members) value := by
  intro depth shallow
  obtain ⟨below, rfl, inside⟩ := Reader.exists_below shallow
  have within := Json.nestingOfMembers_le_iff.1 inside
  have sortedShallow : Json.nestingOfMembers sorted ≤ below :=
    Json.nestingOfMembers_le_iff.2 fun m member => within m (order.mem_iff.2 member)
  obtain ⟨draft, filled, finished⟩ := read sortedShallow
  have same : (Json.nodesOfMembers sorted).Perm (Json.nodesOfMembers members) := by
    rw [Json.nodesOfMembers_eq_map, Json.nodesOfMembers_eq_map]
    exact order.symm.map _
  exact readObject_of_finish (separate.readMembers_perm same filled) finished

end RecordShape

end TableSchema
