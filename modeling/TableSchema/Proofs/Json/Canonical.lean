import TableSchema.Proofs.Json.Printing

set_option autoImplicit false

namespace TableSchema

theorem insertNew_of_lt {α : Type} {key : String} {value : α} {members : List (String × α)}
    (first : ∀ m ∈ members, key < m.1) : insertNew key value members = (key, value) :: members := by
  cases members with
  | nil => rfl
  | cons m rest => rw [insertNew, if_pos (first m List.mem_cons_self)]

namespace Json

/-- The value at the end of a path of keys, from the outermost inward. -/
def follow? : List String → Json → Option Json
  | [], value => some value
  | key :: rest, .object members => (members.lookup key).bind (follow? rest)
  | _ :: _, _ => none

theorem normalizeItems_eq_map (items : List Json) : normalizeItems items = items.map normalize := by
  induction items with
  | nil => rfl
  | cons item rest ih => rw [normalizeItems, ih, List.map_cons]

theorem normalize_array_map {α : Type} (toJson : α → Json) (items : List α) :
    normalize (.array (items.map toJson)) =
      .array (items.map fun item => (toJson item).normalize) := by
  rw [normalize, normalizeItems_eq_map, List.map_map]
  rfl

theorem floatFreeItems_iff {items : List Json} :
    FloatFreeItems items ↔ ∀ item ∈ items, item.FloatFree := by
  induction items with
  | nil => simp [FloatFreeItems]
  | cons item rest ih => simp [FloatFreeItems, ih]

theorem floatFreeMembers_iff {members : List (String × Json)} :
    FloatFreeMembers members ↔ ∀ m ∈ members, m.2.FloatFree := by
  induction members with
  | nil => simp [FloatFreeMembers]
  | cons m rest ih => simp [FloatFreeMembers, ih]

mutual

theorem normalize_of_canonical (value : Json) (canonical : value.Canonical) :
    value.normalize = value := by
  match value with
  | .null | .bool _ | .number _ | .text _ => rw [normalize]
  | .array items => rw [normalize, normalizeItems_of_canonical items canonical]
  | .object members => rw [normalize, normalizeMembers_of_canonical members canonical.1 canonical.2]

theorem normalizeItems_of_canonical (items : List Json) (canonical : CanonicalItems items) :
    normalizeItems items = items := by
  match items with
  | [] => rfl
  | item :: rest =>
    rw [normalizeItems, normalize_of_canonical item canonical.1,
      normalizeItems_of_canonical rest canonical.2]

theorem normalizeMembers_of_canonical (members : List (String × Json))
    (ascending : Ascending members) (canonical : CanonicalMembers members) :
    normalizeMembers members = members := by
  match members with
  | [] => rfl
  | (key, value) :: rest =>
    obtain ⟨first, later⟩ := List.pairwise_cons.1 ascending
    rw [normalizeMembers, normalize_of_canonical value canonical.1,
      normalizeMembers_of_canonical rest later canonical.2, insertNew_of_lt first]

end

mutual

theorem floatFree_normalize (value : Json) (floatFree : value.FloatFree) :
    value.normalize.FloatFree := by
  match value with
  | .null | .bool _ | .number _ | .text _ => rwa [normalize]
  | .array items =>
    rw [normalize]
    exact floatFreeItems_normalizeItems items floatFree
  | .object members =>
    rw [normalize]
    exact floatFreeMembers_normalizeMembers members floatFree

theorem floatFreeItems_normalizeItems (items : List Json) (floatFree : FloatFreeItems items) :
    FloatFreeItems (normalizeItems items) := by
  match items with
  | [] => trivial
  | item :: rest =>
    exact ⟨floatFree_normalize item floatFree.1, floatFreeItems_normalizeItems rest floatFree.2⟩

theorem floatFreeMembers_normalizeMembers (members : List (String × Json))
    (floatFree : FloatFreeMembers members) : FloatFreeMembers (normalizeMembers members) := by
  match members with
  | [] => trivial
  | (key, value) :: rest =>
    have others := floatFreeMembers_iff.1 (floatFreeMembers_normalizeMembers rest floatFree.2)
    rw [normalizeMembers, floatFreeMembers_iff]
    intro m member
    rcases mem_insertNew member with rfl | member
    · exact floatFree_normalize value floatFree.1
    · exact others m member

end

mutual

theorem nesting_normalize_le (value : Json) : value.normalize.nesting ≤ value.nesting := by
  match value with
  | .null | .bool _ | .number _ | .text _ => rw [normalize]
  | .array items =>
    rw [normalize, nesting, nesting]
    exact Nat.succ_le_succ (nestingOfItems_normalizeItems_le items)
  | .object members =>
    rw [normalize, nesting, nesting]
    exact Nat.succ_le_succ (nestingOfMembers_normalizeMembers_le members)

theorem nestingOfItems_normalizeItems_le (items : List Json) :
    nestingOfItems (normalizeItems items) ≤ nestingOfItems items := by
  match items with
  | [] => exact le_rfl
  | item :: rest =>
    have first := nesting_normalize_le item
    have others := nestingOfItems_normalizeItems_le rest
    rw [normalizeItems, nestingOfItems, nestingOfItems]
    omega

theorem nestingOfMembers_normalizeMembers_le (members : List (String × Json)) :
    nestingOfMembers (normalizeMembers members) ≤ nestingOfMembers members := by
  match members with
  | [] => exact le_rfl
  | (key, value) :: rest =>
    have others := nestingOfMembers_le_iff.1 (nestingOfMembers_normalizeMembers_le rest)
    rw [normalizeMembers, nestingOfMembers_le_iff]
    intro m member
    rcases mem_insertNew member with rfl | member
    · exact (nesting_normalize_le value).trans (Nat.le_max_left _ _)
    · exact (others m member).trans (Nat.le_max_right _ _)

end

/-- A value without doubles that nests no deeper than the given number of levels. -/
structure Plain (levels : Nat) (value : Json) : Prop where
  floatFree : value.FloatFree
  shallow : value.nesting ≤ levels

variable {levels : Nat}

theorem plain_text (levels : Nat) (content : String) : (text content).Plain levels :=
  ⟨trivial, Nat.zero_le levels⟩

theorem plain_bool (levels : Nat) (value : Bool) : (bool value).Plain levels :=
  ⟨trivial, Nat.zero_le levels⟩

theorem plain_ofNat (levels n : Nat) : (ofNat n).Plain levels :=
  ⟨trivial, Nat.zero_le levels⟩

theorem plain_array {items : List Json} (each : ∀ item ∈ items, item.Plain levels) :
    (array items).Plain (levels + 1) where
  floatFree := floatFreeItems_iff.2 fun item member => (each item member).floatFree
  shallow := Nat.succ_le_succ
    (nestingOfItems_le_iff.2 fun item member => (each item member).shallow)

theorem plain_object {members : List (String × Json)} (each : ∀ m ∈ members, m.2.Plain levels) :
    (object members).Plain (levels + 1) where
  floatFree := floatFreeMembers_iff.2 fun m member => (each m member).floatFree
  shallow := Nat.succ_le_succ (nestingOfMembers_le_iff.2 fun m member => (each m member).shallow)

theorem plain_ofTexts (levels : Nat) (texts : List String) :
    (ofTexts texts).Plain (levels + 1) := by
  refine plain_array fun item member => ?_
  obtain ⟨text, _, rfl⟩ := List.mem_map.1 member
  exact plain_text levels text

theorem Plain.run_render {value : Json} (plain : value.Plain Reader.maxDepth) :
    Reader.run Reader.json value.render = .ok value :=
  (Reader.reads_json value).run plain.shallow (value.spells_render plain.floatFree)

theorem Plain.ofText_render_normalize {value : Json} (plain : value.Plain levels)
    (fits : levels ≤ Reader.maxDepth) : ofText value.normalize.render = .ok value.normalize := by
  have shallow := (nesting_normalize_le value).trans (plain.shallow.trans fits)
  have read := ofText_render (floatFree_normalize value plain.floatFree) shallow
  rwa [normalize_of_canonical _ (canonical_normalize value)] at read

end Json

end TableSchema
