import TableSchema.Json.Options
import TableSchema.Proofs.Json.Record

/-!
Readers and the number of levels that are left to them.

The number only refuses containers nested too deep. Where a node was read, it is read alike with
every number of levels that its own nesting keeps to.
-/

set_option autoImplicit false

namespace TableSchema

namespace Node

mutual

/-- How many containers stand inside one another. -/
def nesting : Node → Nat
  | .broken _ _ _ | .null | .bool _ | .number _ | .text _ => 0
  | .array items _ => nestingOfItems items + 1
  | .object members _ => nestingOfMembers members + 1

def nestingOfItems : List Node → Nat
  | [] => 0
  | item :: rest => max item.nesting (nestingOfItems rest)

def nestingOfMembers : List (Option String × Node) → Nat
  | [] => 0
  | (_, value) :: rest => max value.nesting (nestingOfMembers rest)

end

theorem nestingOfItems_le_iff {items : List Node} {depth : Nat} :
    nestingOfItems items ≤ depth ↔ ∀ item ∈ items, item.nesting ≤ depth := by
  induction items with
  | nil => simp [nestingOfItems]
  | cons item rest ih =>
    simp only [nestingOfItems, Nat.max_le, ih, List.mem_cons, forall_eq_or_imp]

theorem nestingOfMembers_le_iff {members : List (Option String × Node)} {depth : Nat} :
    nestingOfMembers members ≤ depth ↔ ∀ m ∈ members, m.2.nesting ≤ depth := by
  induction members with
  | nil => simp [nestingOfMembers]
  | cons m rest ih =>
    simp only [nestingOfMembers, Nat.max_le, ih, List.mem_cons, forall_eq_or_imp]

end Node

namespace Reader

/-- What is read with some number of levels is read with every number that the node keeps to. -/
def AnyDepth {α : Type} (read : Reader α) : Prop :=
  ∀ ⦃depth other : Nat⦄ ⦃node : Node⦄ ⦃value : α⦄,
    read depth node = .ok value → node.nesting ≤ other → read other node = .ok value

variable {α β : Type} {read : Reader α}

theorem anyDepth_text : AnyDepth text :=
  fun _ _ _ _ found _ => found

theorem AnyDepth.map (anyDepth : AnyDepth read) (f : α → β) : AnyDepth (Reader.map f read) := by
  intro depth other node value found shallow
  obtain ⟨content, inner, rfl⟩ := exists_of_map_eq_ok found
  rw [Reader.map, anyDepth inner shallow]
  rfl

theorem AnyDepth.optional (anyDepth : AnyDepth read) : AnyDepth (Reader.optional read) := by
  intro depth other node value found shallow
  cases node with
  | null => exact found
  | _ => exact anyDepth.map some found shallow

private theorem mapM_congr_ok {γ ε : Type} {first second : γ → Except ε α} {items : List γ}
    {values : List α} (found : items.mapM first = .ok values)
    (agree : ∀ item ∈ items, ∀ value, first item = .ok value → second item = .ok value) :
    items.mapM second = .ok values := by
  refine mapM_eq_ok_iff.2 ?_
  refine ((List.forall₂_and_left _ _).2 ⟨agree, mapM_eq_ok_iff.1 found⟩).imp ?_
  exact fun item value both => both.1 value both.2

theorem AnyDepth.listOf (anyDepth : AnyDepth read) : AnyDepth (Reader.listOf read) := by
  intro depth other node values found shallow
  cases node with
  | array items ending =>
    obtain ⟨below, found⟩ := descend_eq_ok found
    obtain ⟨contents, all, sound⟩ := exists_of_bind_eq_ok found
    obtain ⟨left, rfl, inside⟩ := exists_below shallow
    have each := Node.nestingOfItems_le_iff.1 inside
    have again := mapM_congr_ok all fun item member value inner => anyDepth inner (each item member)
    simp only [Reader.listOf, descend, again]
    exact sound
  | _ => cases found

theorem AnyDepth.membersOf (anyDepth : AnyDepth read) (expected : String) :
    AnyDepth (Reader.membersOf expected read) := by
  intro depth other node values found shallow
  cases node with
  | object members ending =>
    obtain ⟨below, found⟩ := descend_eq_ok found
    obtain ⟨entries, all, sound⟩ := exists_of_bind_eq_ok found
    obtain ⟨left, rfl, inside⟩ := exists_below shallow
    have each := Node.nestingOfMembers_le_iff.1 inside
    have again : members.mapM (member read left) = .ok entries := by
      refine mapM_congr_ok all ?_
      rintro ⟨key, node⟩ listed entry inner
      cases key with
      | none => cases inner
      | some key =>
        exact anyDepth.map (fun value => (key, value)) inner (each (some key, node) listed)
    simp only [Reader.membersOf, descend, again]
    exact sound
  | _ => cases found

mutual

private theorem json_levels {depth other : Nat} (node : Node) {value : Json}
    (found : json depth node = .ok value) (shallow : node.nesting ≤ other) :
    json other node = .ok value := by
  match node with
  | .broken .. | .null | .bool _ | .number none | .number (some _) | .text none | .text (some _) =>
    simpa only [json] using found
  | .array items ending =>
    obtain ⟨left, rfl, inside⟩ := exists_below shallow
    cases depth with
    | zero => simp [json] at found
    | succ below =>
      rw [json] at found ⊢
      obtain ⟨values, all, sound⟩ := exists_of_bind_eq_ok found
      rw [jsonItems_levels items all inside]
      exact sound
  | .object members ending =>
    obtain ⟨left, rfl, inside⟩ := exists_below shallow
    cases depth with
    | zero => simp [json] at found
    | succ below =>
      rw [json] at found ⊢
      obtain ⟨entries, all, sound⟩ := exists_of_bind_eq_ok found
      rw [jsonMembers_levels members all inside]
      exact sound

private theorem jsonItems_levels {depth other : Nat} (items : List Node) {values : List Json}
    (found : jsonItems depth items = .ok values) (shallow : Node.nestingOfItems items ≤ other) :
    jsonItems other items = .ok values := by
  match items with
  | [] => exact found
  | item :: rest =>
    rw [Node.nestingOfItems, Nat.max_le] at shallow
    rw [jsonItems] at found ⊢
    obtain ⟨value, first, found⟩ := exists_of_bind_eq_ok found
    obtain ⟨values, later, found⟩ := exists_of_bind_eq_ok found
    rw [json_levels item first shallow.1]
    dsimp only [bind, Except.bind]
    rw [jsonItems_levels rest later shallow.2]
    exact found

private theorem jsonMembers_levels {depth other : Nat} (members : List (Option String × Node))
    {entries : List (String × Json)} (found : jsonMembers depth members = .ok entries)
    (shallow : Node.nestingOfMembers members ≤ other) :
    jsonMembers other members = .ok entries := by
  match members with
  | [] => exact found
  | (none, _) :: _ => simp [jsonMembers] at found
  | (some key, node) :: rest =>
    rw [Node.nestingOfMembers, Nat.max_le] at shallow
    rw [jsonMembers] at found ⊢
    obtain ⟨value, first, found⟩ := exists_of_bind_eq_ok found
    obtain ⟨entries, later, found⟩ := exists_of_bind_eq_ok found
    rw [json_levels node first shallow.1]
    dsimp only [bind, Except.bind]
    rw [jsonMembers_levels rest later shallow.2]
    exact found

end

theorem anyDepth_json : AnyDepth json :=
  fun _ _ node _ found shallow => json_levels node found shallow

end Reader

theorem Options.anyDepth_reader : Reader.AnyDepth Options.reader :=
  (Reader.anyDepth_json.membersOf "a map").map ofMembers

namespace Field

/-- The field is read alike with every number of levels that its node keeps to. -/
def AnyDepth {σ : Type} (field : Field σ) : Prop :=
  ∀ ⦃depth other : Nat⦄ ⦃node : Node⦄ ⦃draft next : σ⦄,
    field.read depth node draft = .ok next → node.nesting ≤ other →
      field.read other node draft = .ok next

theorem anyDepth_of {σ β : Type} {reader : Reader β} (anyDepth : reader.AnyDepth) (name : String)
    (required : Bool) (get : σ → Option β) (put : σ → β → σ) :
    (Field.of name required get put reader).AnyDepth :=
  fun _ _ _ draft _ found shallow => anyDepth.map (put draft) found shallow

end Field

namespace RecordShape

variable {σ α : Type} {shape : RecordShape σ α}

variable {depth other : Nat} {draft filled : σ}

private theorem takes_levels (anyDepth : ∀ field ∈ shape.fields, field.AnyDepth)
    {m : Option String × Node} {next : σ} (takes : shape.Takes depth draft m next)
    (shallow : m.2.nesting ≤ other) : shape.Takes other draft m next := by
  cases takes with
  | field known absent read =>
    have member := List.mem_of_find?_eq_some known
    exact .field known absent (anyDepth _ member read shallow)
  | passed unknown lax sound => exact .passed unknown lax sound

private theorem readMembers_levels (anyDepth : ∀ field ∈ shape.fields, field.AnyDepth)
    {members : List (Option String × Node)}
    (found : shape.readMembers depth draft members = .ok filled)
    (shallow : Node.nestingOfMembers members ≤ other) :
    shape.readMembers other draft members = .ok filled := by
  induction members generalizing draft with
  | nil => exact found
  | cons m rest ih =>
    rw [Node.nestingOfMembers, Nat.max_le] at shallow
    obtain ⟨next, takes, later⟩ := readMembers_cons_eq_ok.1 found
    exact readMembers_cons_eq_ok.2
      ⟨next, takes_levels anyDepth takes shallow.1, ih later shallow.2⟩

private theorem readItems_levels {ending : ArrayEnd} {fields : List (Field σ)}
    (anyDepth : ∀ field ∈ fields, field.AnyDepth) {items : List Node}
    (found : shape.readItems depth ending fields items draft = .ok filled)
    (shallow : Node.nestingOfItems items ≤ other) :
    shape.readItems other ending fields items draft = .ok filled := by
  induction fields generalizing items draft with
  | nil => cases items <;> exact found
  | cons field fields ih =>
    have others : ∀ field ∈ fields, field.AnyDepth :=
      fun field member => anyDepth field (List.mem_cons_of_mem _ member)
    cases items with
    | nil =>
      cases ending with
      | unclosed fault => exact found
      | closed =>
        rw [readItems] at found ⊢
        split at found
        · cases found
        · rename_i optional
          rw [if_neg optional]
          exact ih others found shallow
    | cons item items =>
      rw [Node.nestingOfItems, Nat.max_le] at shallow
      rw [readItems] at found ⊢
      obtain ⟨next, first, later⟩ := exists_of_bind_eq_ok found
      rw [anyDepth field List.mem_cons_self first shallow.1]
      exact ih others later shallow.2

theorem anyDepth_readObject (anyDepth : ∀ field ∈ shape.fields, field.AnyDepth)
    {members : List (Option String × Node)} {ending : ObjectEnd} {value : α}
    (found : shape.readObject depth members ending = .ok value)
    (shallow : (Node.object members ending).nesting ≤ other) :
    shape.readObject other members ending = .ok value := by
  obtain ⟨below, found⟩ := Reader.descend_eq_ok found
  obtain ⟨draft, all, completed⟩ := exists_of_bind_eq_ok found
  obtain ⟨left, rfl, inside⟩ := Reader.exists_below shallow
  have again := readMembers_levels anyDepth all inside
  simp only [readObject, Reader.descend, again]
  exact completed

theorem anyDepth_reader (anyDepth : ∀ field ∈ shape.fields, field.AnyDepth) :
    shape.reader.AnyDepth := by
  intro depth other node value found shallow
  cases node with
  | object members ending => exact anyDepth_readObject anyDepth found shallow
  | array items ending =>
    obtain ⟨below, found⟩ := Reader.descend_eq_ok found
    obtain ⟨draft, all, completed⟩ := exists_of_bind_eq_ok found
    obtain ⟨left, rfl, inside⟩ := Reader.exists_below shallow
    have again := readItems_levels anyDepth all inside
    simp only [reader, Reader.descend, again]
    exact completed
  | _ => cases found

end RecordShape

end TableSchema
