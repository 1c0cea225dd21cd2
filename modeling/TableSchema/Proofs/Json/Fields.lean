import Mathlib.Data.List.Nodup
import TableSchema.Proofs.Json.Record

set_option autoImplicit false

namespace TableSchema

variable {σ α β : Type}

/-- Reading the field leaves a component of the draft as it was. -/
def Field.Keeps (field : Field σ) (get : σ → Option β) : Prop :=
  ∀ ⦃depth : Nat⦄ ⦃node : Node⦄ ⦃draft next : σ⦄,
    field.read depth node draft = .ok next → get next = get draft

theorem Field.keeps_of {γ : Type} {name : String} {required : Bool} {get : σ → Option γ}
    {put : σ → γ → σ} {reader : Reader γ} {get' : σ → Option β}
    (frame : ∀ draft content, get' (put draft content) = get' draft) :
    (Field.of name required get put reader).Keeps get' := by
  intro depth node draft next read
  obtain ⟨content, _, rfl⟩ := Field.read_of_eq_ok.1 read
  exact frame draft content

namespace RecordShape

/-- A record gives the field of a name in a node: as the value of the only member of that name, or
as the item at the place of the field. -/
inductive Gives (shape : RecordShape σ α) (name : String) : Node → Node → Prop
  | member {members : List (Option String × Node)} {ending : ObjectEnd} {value : Node}
      (only : members.filter (·.1 = some name) = [(some name, value)]) :
      Gives shape name (.object members ending) value
  | item {items : List Node} {ending : ArrayEnd} {place : Nat} {value : Node}
      (named : shape.fieldNames[place]? = some name) (there : items[place]? = some value) :
      Gives shape name (.array items ending) value

/-- The field of a name is kept in one component of the draft, which no other field touches. -/
structure Holds (shape : RecordShape σ α) (name : String) (get : σ → Option β)
    (reader : Reader β) : Prop where
  differ : shape.fieldNames.Nodup
  known : name ∈ shape.fieldNames
  present : ∀ field ∈ shape.fields, field.name = name →
    ∀ draft, field.present draft = (get draft).isSome
  own : ∀ field ∈ shape.fields, field.name = name → ∀ {depth node draft next},
    field.read depth node draft = .ok next →
      ∃ content, reader depth node = .ok content ∧ get next = some content
  others : ∀ field ∈ shape.fields, field.name ≠ name → field.Keeps get
  blank : get shape.blank = none

namespace Holds

variable {shape : RecordShape σ α} {name : String} {get : σ → Option β} {reader : Reader β}
  {depth : Nat} {draft result : σ}

theorem of_field (required : Bool) (put : σ → β → σ) (differ : shape.fieldNames.Nodup)
    (member : .of name required get put reader ∈ shape.fields)
    (kept : ∀ draft content, get (put draft content) = some content)
    (others : ∀ field ∈ shape.fields, field.name ≠ name → field.Keeps get)
    (blank : get shape.blank = none) : shape.Holds name get reader := by
  have only {field : Field σ} (there : field ∈ shape.fields) (named : field.name = name) :
      field = .of name required get put reader :=
    List.inj_on_of_nodup_map differ there member named
  refine ⟨differ, List.mem_map.2 ⟨_, member, rfl⟩, ?_, ?_, others, blank⟩
  · intro field there named draft
    rw [only there named]
    rfl
  · intro field there named depth node draft next read
    rw [only there named] at read
    obtain ⟨content, known, rfl⟩ := Field.read_of_eq_ok.1 read
    exact ⟨content, known, kept draft content⟩

private theorem get_of_takes (holds : shape.Holds name get reader) {m : Option String × Node}
    {next : σ} (takes : shape.Takes depth draft m next) :
    (m.1 = some name ∧ get draft = none ∧
        ∃ content, reader depth m.2 = .ok content ∧ get next = some content) ∨
      m.1 ≠ some name ∧ get next = get draft := by
  cases takes with
  | @field key node field _ known absent read =>
    have member := List.mem_of_find?_eq_some known
    have named : field.name = key := by simpa using List.find?_some known
    by_cases same : key = name
    · have empty := holds.present field member (named.trans same) draft
      rw [absent, eq_comm, Option.isSome_eq_false_iff, Option.isNone_iff_eq_none] at empty
      exact Or.inl ⟨congrArg some same, empty, holds.own field member (named.trans same) read⟩
    · have other : field.name ≠ name := fun again => same (named.symm.trans again)
      exact Or.inr ⟨fun again => same (Option.some.inj again), holds.others field member other read⟩
  | @passed key node unknown =>
    refine Or.inr ⟨fun again => ?_, rfl⟩
    obtain rfl := Option.some.inj again
    obtain ⟨field, member, named⟩ := List.mem_map.1 holds.known
    exact List.find?_eq_none.1 unknown field member (by simpa using named)

private theorem readMembers_of_filled (holds : shape.Holds name get reader)
    {members : List (Option String × Node)} {content : β} (filled : get draft = some content)
    (read : shape.readMembers depth draft members = .ok result) :
    get result = some content ∧ members.filter (·.1 = some name) = [] := by
  induction members generalizing draft with
  | nil =>
    obtain rfl := Except.ok.inj read
    exact ⟨filled, rfl⟩
  | cons m rest ih =>
    obtain ⟨next, takes, later⟩ := readMembers_cons_eq_ok.1 read
    rcases holds.get_of_takes takes with ⟨_, empty, _⟩ | ⟨other, kept⟩
    · rw [filled] at empty
      cases empty
    · rw [List.filter_cons_of_neg (by simpa using other)]
      exact ih (kept.trans filled) later

private theorem readMembers_of_empty (holds : shape.Holds name get reader)
    {members : List (Option String × Node)} (empty : get draft = none)
    (read : shape.readMembers depth draft members = .ok result) :
    (get result = none ∧ members.filter (·.1 = some name) = []) ∨
      ∃ value content, members.filter (·.1 = some name) = [(some name, value)] ∧
        reader depth value = .ok content ∧ get result = some content := by
  induction members generalizing draft with
  | nil =>
    obtain rfl := Except.ok.inj read
    exact Or.inl ⟨empty, rfl⟩
  | cons m rest ih =>
    obtain ⟨next, takes, later⟩ := readMembers_cons_eq_ok.1 read
    rcases holds.get_of_takes takes with ⟨named, _, content, own, filled⟩ | ⟨other, kept⟩
    · obtain ⟨last, none_of⟩ := holds.readMembers_of_filled filled later
      obtain ⟨key, value⟩ := m
      obtain rfl : key = some name := named
      refine Or.inr ⟨value, content, ?_, own, last⟩
      rw [List.filter_cons_of_pos (by simp), none_of]
    · rw [List.filter_cons_of_neg (by simpa using other)]
      exact ih (kept.trans empty) later

private theorem readItems_cons_eq_ok {ending : ArrayEnd} {field : Field σ} {fields : List (Field σ)}
    {items : List Node}
    (read : shape.readItems depth ending (field :: fields) items draft = .ok result) :
    items = [] ∧ shape.readItems depth ending fields [] draft = .ok result ∨
      ∃ item rest next, items = item :: rest ∧ field.read depth item draft = .ok next ∧
        shape.readItems depth ending fields rest next = .ok result := by
  cases items with
  | nil =>
    cases ending with
    | closed =>
      rw [readItems] at read
      split at read
      · cases read
      · exact Or.inl ⟨rfl, read⟩
    | unclosed fault => cases read
  | cons item rest =>
    obtain ⟨next, own, later⟩ := exists_of_bind_eq_ok read
    exact Or.inr ⟨item, rest, next, rfl, own, later⟩

private theorem readItems_of_others (holds : shape.Holds name get reader) {ending : ArrayEnd}
    {fields : List (Field σ)} {items : List Node} (own : ∀ field ∈ fields, field ∈ shape.fields)
    (others : name ∉ fields.map (·.name))
    (read : shape.readItems depth ending fields items draft = .ok result) :
    get result = get draft := by
  induction fields generalizing items draft with
  | nil =>
    cases items with
    | nil =>
      obtain ⟨_, rfl⟩ := Reader.orFault_eq_ok read
      rfl
    | cons item rest => cases read
  | cons field fields ih =>
    rw [List.forall_mem_cons] at own
    rw [List.map_cons, List.mem_cons, not_or] at others
    rcases readItems_cons_eq_ok read with ⟨_, later⟩ | ⟨item, rest, next, _, first, later⟩
    · exact ih own.2 others.2 later
    · rw [ih own.2 others.2 later]
      exact holds.others field own.1 (Ne.symm others.1) first

private theorem readItems_of_named (holds : shape.Holds name get reader) {ending : ArrayEnd}
    {fields : List (Field σ)} {items : List Node} {place : Nat}
    (own : ∀ field ∈ fields, field ∈ shape.fields) (differ : (fields.map (·.name)).Nodup)
    (named : (fields.map (·.name))[place]? = some name)
    (read : shape.readItems depth ending fields items draft = .ok result) :
    (items[place]? = none ∧ get result = get draft) ∨
      ∃ value content, items[place]? = some value ∧ reader depth value = .ok content ∧
        get result = some content := by
  induction fields generalizing items draft place with
  | nil => cases named
  | cons field fields ih =>
    rw [List.forall_mem_cons] at own
    rw [List.map_cons, List.nodup_cons] at differ
    have step := readItems_cons_eq_ok read
    cases place with
    | zero =>
      obtain rfl : field.name = name := by simpa using named
      rcases step with ⟨rfl, later⟩ | ⟨item, rest, next, rfl, first, later⟩
      · exact Or.inl ⟨rfl, holds.readItems_of_others own.2 differ.1 later⟩
      · obtain ⟨content, known, filled⟩ := holds.own field own.1 rfl first
        have kept := holds.readItems_of_others own.2 differ.1 later
        exact Or.inr ⟨item, content, rfl, known, kept.trans filled⟩
    | succ place =>
      have later_named : (fields.map (·.name))[place]? = some name := by simpa using named
      have other : field.name ≠ name := by
        rintro rfl
        exact differ.1 (List.mem_of_getElem? later_named)
      rcases step with ⟨rfl, later⟩ | ⟨item, rest, next, rfl, first, later⟩
      · have none_there := ih own.2 differ.2 later_named later
        simpa only [List.getElem?_nil] using none_there
      · have kept := holds.others field own.1 other first
        rw [← kept, List.getElem?_cons_succ]
        exact ih own.2 differ.2 later_named later

theorem exists_draft_of_reader (holds : shape.Holds name get reader) {node : Node} {value : α}
    (read : shape.reader depth node = .ok value) :
    ∃ draft, shape.finish draft = .ok value ∧
      ((get draft = none ∧ ∀ given, ¬ shape.Gives name node given) ∨
        ∃ below given content, shape.Gives name node given ∧
          reader below given = .ok content ∧ get draft = some content) := by
  obtain ⟨below, draft, finished, ⟨members, ending, rfl, filled⟩ | ⟨items, ending, rfl, filled⟩⟩ :=
    RecordShape.exists_draft_of_reader read
  · refine ⟨draft, finished, ?_⟩
    rcases holds.readMembers_of_empty holds.blank filled with
      ⟨empty, none_of⟩ | ⟨given, content, only, known, there⟩
    · refine Or.inl ⟨empty, ?_⟩
      intro given gives
      cases gives with
      | member only =>
        rw [none_of] at only
        cases only
    · exact Or.inr ⟨below, given, content, .member only, known, there⟩
  · refine ⟨draft, finished, ?_⟩
    have at_place {place : Nat} (named : shape.fieldNames[place]? = some name) :=
      holds.readItems_of_named (fun _ member => member) holds.differ named filled
    obtain ⟨place, named⟩ := List.getElem?_of_mem holds.known
    rcases at_place named with ⟨_, empty⟩ | ⟨given, content, there, known, kept⟩
    · refine Or.inl ⟨empty.trans holds.blank, ?_⟩
      intro given gives
      cases gives with
      | item named' there =>
        rcases at_place named' with ⟨missing, _⟩ | ⟨_, content, _, _, kept⟩
        · rw [missing] at there
          cases there
        · rw [empty, holds.blank] at kept
          cases kept
    · exact Or.inr ⟨below, given, content, .item named there, known, kept⟩

end Holds

end RecordShape

end TableSchema
