import Mathlib.Data.List.Perm.Basic
import TableSchema.Options

set_option autoImplicit false

namespace TableSchema

namespace Json

mutual

/-- The first value is the second with the members of its objects in any order. -/
inductive Arranges : Json → Json → Prop
  | null : Arranges .null .null
  | bool (value : Bool) : Arranges (.bool value) (.bool value)
  | number (value : Number) : Arranges (.number value) (.number value)
  | text (value : String) : Arranges (.text value) (.text value)
  | array {written items : List Json} (each : ArrangesItems written items) :
      Arranges (.array written) (.array items)
  | object {written sorted members : List (String × Json)} (order : written.Perm sorted)
      (each : ArrangesMembers sorted members) : Arranges (.object written) (.object members)

inductive ArrangesItems : List Json → List Json → Prop
  | nil : ArrangesItems [] []
  | cons {written item : Json} {others items : List Json} (first : Arranges written item)
      (each : ArrangesItems others items) : ArrangesItems (written :: others) (item :: items)

inductive ArrangesMembers : List (String × Json) → List (String × Json) → Prop
  | nil : ArrangesMembers [] []
  | cons {key : String} {written value : Json} {others members : List (String × Json)}
      (first : Arranges written value) (each : ArrangesMembers others members) :
      ArrangesMembers ((key, written) :: others) ((key, value) :: members)

end

mutual

theorem Arranges.refl (value : Json) : Arranges value value := by
  match value with
  | .null => exact .null
  | .bool value => exact .bool value
  | .number value => exact .number value
  | .text value => exact .text value
  | .array items => exact .array (.refl items)
  | .object members => exact .object (.refl members) (.refl members)

theorem ArrangesItems.refl (items : List Json) : ArrangesItems items items := by
  match items with
  | [] => exact .nil
  | item :: rest => exact .cons (.refl item) (.refl rest)

theorem ArrangesMembers.refl (members : List (String × Json)) :
    ArrangesMembers members members := by
  match members with
  | [] => exact .nil
  | (_, value) :: rest => exact .cons (.refl value) (.refl rest)

end

end Json

private theorem perm_insertNew {β : Type} {key : String} (value : β) {members : List (String × β)}
    (fresh : ∀ m ∈ members, m.1 ≠ key) :
    (insertNew key value members).Perm ((key, value) :: members) := by
  induction members with
  | nil => exact .refl _
  | cons head rest ih =>
    obtain ⟨k, v⟩ := head
    rw [insertNew]
    split
    · exact .refl _
    · rename_i above
      split
      · have later := ih fun m member => fresh m (List.mem_cons_of_mem _ member)
        exact (later.cons (k, v)).trans (.swap (key, value) (k, v) rest)
      · rename_i below
        have same : k = key := String.le_antisymm (String.not_lt.1 above) (String.not_lt.1 below)
        exact absurd same (fresh (k, v) List.mem_cons_self)

private theorem eq_of_perm_of_ascending {β : Type} {xs ys : List (String × β)} (same : xs.Perm ys)
    (first : Ascending xs) (second : Ascending ys) : xs = ys := by
  refine same.eq_of_pairwise ?_ first second
  intro a b _ _ below above
  exact absurd (String.lt_trans below above) (String.lt_irrefl _)

namespace Json

private theorem normalizeMembers_perm {members : List (String × Json)}
    (distinct : (members.map Prod.fst).Nodup) :
    (normalizeMembers members).Perm (members.map fun m => (m.1, m.2.normalize)) := by
  induction members with
  | nil => exact .refl _
  | cons head rest ih =>
    obtain ⟨key, value⟩ := head
    rw [List.map_cons, List.nodup_cons] at distinct
    have others := ih distinct.2
    have fresh : ∀ m ∈ normalizeMembers rest, m.1 ≠ key := by
      rintro m member rfl
      obtain ⟨⟨k, v⟩, there, rfl⟩ := List.mem_map.1 (others.mem_iff.1 member)
      exact distinct.1 (List.mem_map.2 ⟨(k, v), there, rfl⟩)
    exact (perm_insertNew value.normalize fresh).trans (others.cons _)

private theorem nodup_keys {members : List (String × Json)} (ascending : Ascending members) :
    (members.map Prod.fst).Nodup := by
  refine List.pairwise_map.2 (ascending.imp ?_)
  rintro a b below same
  rw [same] at below
  exact String.lt_irrefl _ below

private theorem ArrangesMembers.keys {written members : List (String × Json)}
    (each : ArrangesMembers written members) : written.map Prod.fst = members.map Prod.fst := by
  match each with
  | .nil => rfl
  | .cons _ each => rw [List.map_cons, List.map_cons, each.keys]

mutual

theorem Arranges.normalize_eq {written value : Json} (arranges : Arranges written value)
    (canonical : value.Canonical) : written.normalize = value := by
  match arranges with
  | .null | .bool _ | .number _ | .text _ => rw [normalize]
  | .array each => rw [normalize, each.normalizeItems_eq canonical]
  | @Arranges.object written sorted members order each =>
    obtain ⟨ascending, values⟩ := canonical
    have distinct : (written.map Prod.fst).Nodup := by
      rw [(order.map Prod.fst).nodup_iff, each.keys]
      exact nodup_keys ascending
    -- Both lists ascend, so it is enough that they have the same members.
    have same : (normalizeMembers written).Perm members := by
      have normalized := normalizeMembers_perm distinct
      rw [← each.map_normalize values]
      exact normalized.trans (order.map _)
    rw [normalize, eq_of_perm_of_ascending same (ascending_normalizeMembers written) ascending]

theorem ArrangesItems.normalizeItems_eq {written items : List Json}
    (each : ArrangesItems written items) (canonical : CanonicalItems items) :
    normalizeItems written = items := by
  match each with
  | .nil => rw [normalizeItems]
  | .cons first others =>
    rw [normalizeItems, first.normalize_eq canonical.1, others.normalizeItems_eq canonical.2]

theorem ArrangesMembers.map_normalize {written members : List (String × Json)}
    (each : ArrangesMembers written members) (canonical : CanonicalMembers members) :
    written.map (fun m => (m.1, m.2.normalize)) = members := by
  match each with
  | .nil => rfl
  | .cons first others =>
    rw [List.map_cons, first.normalize_eq canonical.1, others.map_normalize canonical.2]

end

end Json

theorem Options.ofMembers_of_arranges {options : Options} {members : List (String × Json)}
    (arranges : Json.Arranges (.object members) options.toJson) :
    Options.ofMembers members = options := by
  have normal := arranges.normalize_eq options.canonical
  rw [Json.normalize, Options.toJson] at normal
  obtain ⟨entries, canonical⟩ := options
  cases Json.object.inj normal
  rfl

end TableSchema
