import Mathlib.Data.List.Permutation
import TableSchema.Json.Variant
import TableSchema.Proofs.Json.Record

/-!
Objects among whose members others stand.

A record that takes fields beside its own is read alike in whatever order its members stand, and
whatever members of other names stand among them. So is a value told by a tag and its content: where
the content comes first it is kept until the tag tells how it is read.
-/

set_option autoImplicit false

namespace TableSchema

namespace Json

def nodes (members : List (String × Json)) : List (String × Node) :=
  members.map fun m => (m.1, m.2.node)

end Json

namespace Node

/-- Members as they stand in an object. -/
def keyed (members : List (String × Node)) : List (Option String × Node) :=
  members.map fun m => (some m.1, m.2)

theorem keyed_append (members others : List (String × Node)) :
    keyed (members ++ others) = keyed members ++ keyed others :=
  List.map_append

theorem keyed_nodes (members : List (String × Json)) :
    keyed (Json.nodes members) = Json.nodesOfMembers members := by
  rw [keyed, Json.nodes, List.map_map, Json.nodesOfMembers_eq_map]
  rfl

/-- The object has the members in any order, and among them others whose names are not known. Those
are passed over, so a number or a text in them need not have a value, and they may go deep. -/
inductive Extends (known : List String) (members : List (String × Node)) : Node → Prop
  | object {others written : List (String × Node)} (unknown : ∀ m ∈ others, m.1 ∉ known)
      (passed : ∀ m ∈ others, m.2.passedFault? = none) (order : written.Perm (members ++ others)) :
      Extends known members (.object (keyed written) .closed)

theorem Extends.of_json {known : List String} {members others written : List (String × Json)}
    (unknown : ∀ m ∈ others, m.1 ∉ known) (order : written.Perm (members ++ others)) :
    Extends known (Json.nodes members) (Json.object written).node := by
  have mapped : (Json.nodes written).Perm (Json.nodes members ++ Json.nodes others) := by
    rw [Json.nodes, Json.nodes, Json.nodes, ← List.map_append]
    exact order.map _
  rw [Json.node, ← keyed_nodes]
  exact .object (List.forall_mem_map.2 unknown)
    (List.forall_mem_map.2 fun m _ => m.2.passedFault?_node) mapped

theorem Extends.refl (known : List String) (members : List (String × Node)) :
    Extends known members (.object (keyed members) .closed) :=
  .object (List.forall_mem_nil _) (List.forall_mem_nil _) (by rw [List.append_nil])

/-- In the object the first key stands somewhere before the second. -/
def Precedes (node : Node) (first second : String) : Prop :=
  ∃ members ending, node = .object members ending ∧
    [some first, some second].Sublist (members.map (·.1))

/-- The node of a value, which may be kept to be read later. -/
def Whole (levels : Nat) (node : Node) : Prop :=
  ∃ value : Json, node = value.node ∧ value.nesting ≤ levels

end Node

namespace RecordShape

variable {σ α : Type} {shape : RecordShape σ α} {levels depth : Nat} {draft between last : σ}

/-- The members, read one after another, lead from the first draft to the last one: each fills a
field that is not there yet. -/
inductive Fills (shape : RecordShape σ α) (levels : Nat) : σ → List (String × Node) → σ → Prop
  | nil (draft : σ) : Fills shape levels draft [] draft
  | cons {draft next last : σ} {name : String} {node : Node} {members : List (String × Node)}
      {field : Field σ} (known : shape.fields.find? (·.name == name) = some field)
      (absent : field.present draft = false)
      (read : ∀ ⦃depth : Nat⦄, levels ≤ depth → field.read depth node draft = .ok next)
      (later : Fills shape levels next members last) :
      Fills shape levels draft ((name, node) :: members) last

theorem Fills.of {β : Type} {name : String} {required : Bool} {get : σ → Option β}
    {put : σ → β → σ} {reader : Reader β} {node : Node} {content : β}
    {members : List (String × Node)}
    (known : shape.fields.find? (·.name == name) = some (.of name required get put reader))
    (absent : get draft = none) (reads : reader.ReadsNode levels node content)
    (later : shape.Fills levels (put draft content) members last) :
    shape.Fills levels draft ((name, node) :: members) last := by
  refine .cons known ?_ (fun depth deep => ?_) later
  · simp only [Field.of, absent, Option.isSome_none]
  · exact Field.read_of_eq_ok.2 ⟨content, reads deep, rfl⟩

theorem Fills.readMembers {members : List (String × Node)}
    (fills : shape.Fills levels draft members last) (deep : levels ≤ depth) :
    shape.readMembers depth draft (Node.keyed members) = .ok last := by
  induction fills with
  | nil draft => rfl
  | cons known absent read _ ih =>
    exact readMembers_cons_eq_ok.2 ⟨_, .field known absent (read deep), ih⟩

theorem readMembers_append {members others : List (Option String × Node)}
    (first : shape.readMembers depth draft members = .ok between)
    (later : shape.readMembers depth between others = .ok last) :
    shape.readMembers depth draft (members ++ others) = .ok last := by
  induction members generalizing draft with
  | nil =>
    obtain rfl := Except.ok.inj first
    exact later
  | cons m rest ih =>
    obtain ⟨next, takes, first⟩ := readMembers_cons_eq_ok.1 first
    exact readMembers_cons_eq_ok.2 ⟨next, takes, ih first⟩

theorem readMembers_unknown (lax : shape.strict = false) {others : List (String × Node)}
    (unknown : ∀ m ∈ others, m.1 ∉ shape.fieldNames)
    (passed : ∀ m ∈ others, m.2.passedFault? = none) :
    shape.readMembers depth draft (Node.keyed others) = .ok draft := by
  induction others with
  | nil => rfl
  | cons m rest ih =>
    rw [List.forall_mem_cons] at unknown passed
    have none_of : shape.fields.find? (·.name == m.1) = none := by
      refine List.find?_eq_none.2 fun field member named => unknown.1 ?_
      exact List.mem_map.2 ⟨field, member, by simpa using named⟩
    have sound := Reader.passOver_eq_ok passed.1 depth
    exact readMembers_cons_eq_ok.2 ⟨draft, .passed none_of lax sound, ih unknown.2 passed.2⟩

theorem Fills.reads {members : List (String × Node)} {value : α}
    (fills : shape.Fills levels shape.blank members draft)
    (finished : shape.finish draft = .ok value) :
    shape.reader.ReadsNode (levels + 1) (.object (Node.keyed members) .closed) value := by
  intro depth deep
  obtain ⟨below, rfl, inside⟩ := Reader.exists_below deep
  exact readObject_of_finish (fills.readMembers inside) finished

theorem Separate.reads_extended (separate : shape.Separate) (lax : shape.strict = false)
    {members : List (String × Node)} {written : Node} {value : α}
    (fills : shape.Fills levels shape.blank members draft)
    (finished : shape.finish draft = .ok value)
    (extended : written.Extends shape.fieldNames members) :
    shape.reader.ReadsNode (levels + 1) written value := by
  intro depth deep
  obtain ⟨below, rfl, inside⟩ := Reader.exists_below deep
  cases extended with
  | object unknown passed order =>
    have filled := readMembers_append (fills.readMembers inside)
      (readMembers_unknown lax unknown passed)
    rw [← Node.keyed_append] at filled
    exact readObject_of_finish (separate.readMembers_perm (order.symm.map _) filled) finished

end RecordShape

namespace TaggedShape

variable {α : Type} {shape : TaggedShape α} {later : Bool} {levels depth : Nat}

/-- The members that tell a value: the name of its alternative and, where the alternative comes with
a content, one from which the value is read, now or later. -/
inductive Tells (shape : TaggedShape α) (levels : Nat) (value : α) :
    List (String × Node) → Prop
  | alone {name label : String} (known : shape.variants.lookup name = some (.alone label value)) :
      Tells shape levels value [(shape.tag, .text (some name))]
  | holding {name : String} {read : Bool → Reader α} {content : Node}
      (known : shape.variants.lookup name = some (.holding read))
      (reads : ∀ later, (read later).ReadsNode levels content value) :
      Tells shape levels value [(shape.tag, .text (some name)), (shape.content, content)]

private theorem readMembers_congr {rest others : List (Option String × Node)}
    (same : ∀ draft, shape.readMembers later depth draft rest =
      shape.readMembers later depth draft others) (draft : Draft α) (m : Option String × Node) :
    shape.readMembers later depth draft (m :: rest) =
      shape.readMembers later depth draft (m :: others) := by
  obtain ⟨key | key, node⟩ := m
  · cases draft <;> rfl
  · cases draft <;> simp only [readMembers, same]

theorem readMembers_filter {members : List (String × Node)}
    (passed : ∀ m ∈ members, m.1 ∉ [shape.tag, shape.content] → m.2.passedFault? = none)
    (draft : Draft α) :
    shape.readMembers later depth draft (Node.keyed members) =
      shape.readMembers later depth draft
        (Node.keyed (members.filter (·.1 ∈ [shape.tag, shape.content]))) := by
  induction members generalizing draft with
  | nil => rfl
  | cons m rest ih =>
    rw [List.forall_mem_cons] at passed
    by_cases own : m.1 ∈ [shape.tag, shape.content]
    · rw [List.filter_cons_of_pos (by simpa using own)]
      exact readMembers_congr (ih passed.2) draft _
    · rw [List.filter_cons_of_neg (by simpa using own), ← ih passed.2]
      have sound := Reader.passOver_eq_ok (passed.1 own) depth
      simp only [List.mem_cons, List.not_mem_nil, or_false, not_or] at own
      exact readMembers_other own.1 own.2 sound

private theorem Tells.reader_of_perm {value : α} {members written own : List (String × Node)}
    (tells : shape.Tells levels value members) (apart : shape.content ≠ shape.tag)
    (same : shape.readMembers later depth .blank (Node.keyed written) =
      shape.readMembers later depth .blank (Node.keyed own))
    (order : own.Perm members) (deep : levels ≤ depth)
    (kept : ∀ content tag, own = [(shape.content, content), (shape.tag, tag)] →
      content.Whole levels) :
    shape.reader later (depth + 1) (.object (Node.keyed written) .closed) = .ok value := by
  cases tells with
  | alone known =>
    rw [List.perm_singleton.1 order] at same
    exact reader_of_tagged (same.trans (readMembers_tag known))
  | holding known reads =>
    obtain rfl | rfl := List.perm_pair.1 order
    · refine reader_of_complete (same.trans ?_)
      exact (readMembers_tag known).trans (readMembers_content apart (reads later deep))
    · obtain ⟨whole, rfl, fits⟩ := kept _ _ rfl
      have sound := Reader.json_node whole (fits.trans deep)
      refine reader_of_complete (same.trans ?_)
      exact (readMembers_content_first apart sound).trans
        (readMembers_tag_last known (reads true deep))

theorem Tells.reads_extended {value : α} {members : List (String × Node)} {written : Node}
    (tells : shape.Tells levels value members) (apart : shape.content ≠ shape.tag)
    (extended : written.Extends [shape.tag, shape.content] members)
    (kept : written.Precedes shape.content shape.tag →
      ∀ m ∈ members, m.1 = shape.content → m.2.Whole levels) (later : Bool) :
    (shape.reader later).ReadsNode (levels + 1) written value := by
  intro depth deep
  obtain ⟨below, rfl, inside⟩ := Reader.exists_below deep
  have own : ∀ m ∈ members, m.1 ∈ [shape.tag, shape.content] := by
    cases tells <;> simp
  cases extended with
  | @object others written unknown passed order =>
    have foreign : ∀ m ∈ written, m.1 ∉ [shape.tag, shape.content] →
        m.2.passedFault? = none := by
      intro m member foreign
      obtain member | member := List.mem_append.1 (order.mem_iff.1 member)
      · exact absurd (own m member) foreign
      · exact passed m member
    have known : (written.filter (·.1 ∈ [shape.tag, shape.content])).Perm members := by
      have kept : members.filter (·.1 ∈ [shape.tag, shape.content]) = members :=
        List.filter_eq_self.2 fun m member => by simpa using own m member
      have dropped : others.filter (·.1 ∈ [shape.tag, shape.content]) = [] :=
        List.filter_eq_nil_iff.2 fun m member => by simpa using unknown m member
      have filtered := order.filter fun m => m.1 ∈ [shape.tag, shape.content]
      rwa [List.filter_append, kept, dropped, List.append_nil] at filtered
    refine tells.reader_of_perm apart (readMembers_filter foreign .blank) known inside ?_
    intro content tag only
    have first : (shape.content, content) ∈ members :=
      known.mem_iff.1 (only ▸ List.mem_cons_self)
    refine kept ⟨_, _, rfl, ?_⟩ _ first rfl
    have parts : [(shape.content, content), (shape.tag, tag)].Sublist written :=
      only ▸ List.filter_sublist
    have keys := parts.map fun m => some m.1
    rwa [Node.keyed, List.map_map]

end TaggedShape

end TableSchema
