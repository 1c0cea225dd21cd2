import TableSchema.Proofs.Registry.Runs
import TableSchema.Proofs.Validation.WellFormed

set_option autoImplicit false

namespace TableSchema

namespace NormalNamespace

theorem nodup_tableNames {ns : NormalNamespace} (compiled : ns.definition.validate = .ok ns) :
    (ns.tables.map (·.name)).Nodup := by
  have wellFormed := Namespace.violations_eq_nil_iff.1 (Namespace.validate_eq_ok_iff.1 compiled).1
  rw [Namespace.tables_of_validate_eq_ok compiled, List.map_map]
  exact wellFormed.tableNames

theorem table?_name {ns : NormalNamespace} (compiled : ns.definition.validate = .ok ns)
    {table : NormalTable} (member : table ∈ ns.tables) : ns.table? table.name = some table :=
  (find?_key_eq_some_iff (nodup_tableNames compiled)).2 ⟨member, rfl⟩

end NormalNamespace

namespace Registry

/-- An index as it is written: the key of each entry with its position, and nothing else. -/
def Filed {κ : Type} (key : NormalNamespace → κ) (entries : List NormalNamespace)
    (index : List (κ × Nat)) : Prop :=
  index.Perm (entries.mapIdx fun i ns => (key ns, i))

namespace Filed

variable {κ : Type} {key : NormalNamespace → κ} {entries : List NormalNamespace}
  {index : List (κ × Nat)}

theorem empty (key : NormalNamespace → κ) : Filed key [] [] :=
  List.Perm.nil

theorem push (filed : Filed key entries index) (ns : NormalNamespace) :
    Filed key (entries ++ [ns]) ((key ns, entries.length) :: index) := by
  rw [Filed, List.mapIdx_concat]
  exact (filed.cons _).trans (List.perm_append_singleton _ _).symm

theorem map_fst_perm (filed : Filed key entries index) :
    (index.map (·.1)).Perm (entries.map key) := by
  have keys : (entries.mapIdx fun i ns => (key ns, i)).map (·.1) = entries.map key :=
    List.ext_getElem (by simp) fun i _ _ => by simp
  rw [← keys]
  exact filed.map _

theorem position_lt (filed : Filed key entries index) {entry : κ × Nat} (member : entry ∈ index) :
    entry.2 < entries.length := by
  obtain ⟨i, h, rfl⟩ := List.mem_mapIdx.1 (filed.mem_iff.1 member)
  exact h

end Filed

theorem filed_run (calls : List Call) :
    Filed (·.name) (run calls).namespaces (run calls).index ∧
      Filed (namespaceSlot ·.name) (run calls).namespaces (run calls).slots := by
  rw [run]
  induction calls using List.reverseRecOn with
  | nil => exact ⟨Filed.empty _, Filed.empty _⟩
  | append_singleton calls call ih =>
    rw [List.foldl_append]
    rcases perform_cases (calls.foldl perform empty) call with same | ⟨ns, _, _, _, stored⟩
    · rw [List.foldl_cons, List.foldl_nil, same]
      exact ih
    · rw [List.foldl_cons, List.foldl_nil, stored]
      exact ⟨ih.1.push ns, ih.2.push ns⟩

/-- An index that tells exactly the keys of the entries, each with its position. No key is written
twice, so no entry hides another, and every position is one of the entries. -/
structure FaithfulIndex {κ : Type} [BEq κ] (key : NormalNamespace → κ)
    (entries : List NormalNamespace) (index : List (κ × Nat)) : Prop where
  lookup_iff : ∀ k i, index.lookup k = some i ↔ ∃ ns, entries[i]? = some ns ∧ key ns = k
  keys_differ : (index.map (·.1)).Nodup
  position_lt : ∀ entry ∈ index, entry.2 < entries.length
  entries_differ : (entries.map key).Nodup

theorem Indexes.faithful {κ : Type} [BEq κ] {key : NormalNamespace → κ}
    {entries : List NormalNamespace} {index : List (κ × Nat)}
    (indexes : Indexes key entries index) (filed : Filed key entries index) :
    FaithfulIndex key entries index where
  lookup_iff := indexes
  keys_differ := filed.map_fst_perm.nodup_iff.2 indexes.nodup_keys
  position_lt := fun _ member => filed.position_lt member
  entries_differ := indexes.nodup_keys

namespace Sound

variable {registry : Registry}

theorem lookup?_eq_some_iff (sound : registry.Sound) {name : String} {ns : NormalNamespace} :
    registry.lookup? name = some ns ↔ ns ∈ registry.namespaces ∧ ns.name = name :=
  sound.names.bind_getElem?_eq_some_iff

theorem slotHolder?_eq_some_iff (sound : registry.Sound) {name : String} {ns : NormalNamespace} :
    registry.slotHolder? name = some ns ↔
      ns ∈ registry.namespaces ∧ namespaceSlot ns.name = namespaceSlot name :=
  sound.slots.bind_getElem?_eq_some_iff

theorem contains_iff_lookup? (sound : registry.Sound) {name : String} :
    registry.contains name = true ↔ ∃ ns, registry.lookup? name = some ns := by
  rw [← Option.isSome_iff_exists, Option.isSome_iff_ne_none, lookup?, Ne,
    sound.names.bind_getElem?_eq_none_iff, contains, Option.isSome_iff_ne_none]

theorem contains_iff (sound : registry.Sound) {name : String} :
    registry.contains name = true ↔ ∃ ns ∈ registry.namespaces, ns.name = name := by
  simp only [sound.contains_iff_lookup?, sound.lookup?_eq_some_iff]

end Sound

/-- After any calls both indexes are faithful, all that is stored is compiled, and the registry
answers from its namespaces: a name is known exactly if a namespace has it, that one namespace is
found by it, and in it every table by its own name. -/
theorem run_answers (calls : List Call) :
    FaithfulIndex (·.name) (run calls).namespaces (run calls).index ∧
      FaithfulIndex (namespaceSlot ·.name) (run calls).namespaces (run calls).slots ∧
      (∀ ns ∈ (run calls).namespaces, ns.definition.validate = .ok ns) ∧
      (∀ name,
        ((run calls).contains name = true ↔ ∃ ns, (run calls).lookup? name = some ns) ∧
        ((run calls).contains name = true ↔ ∃ ns ∈ (run calls).namespaces, ns.name = name) ∧
        ∀ ns, (run calls).lookup? name = some ns ↔
          (run calls).namespaces.filter (·.name = name) = [ns]) ∧
      (run calls).size = (run calls).namespaces.length ∧
      ∀ ns ∈ (run calls).namespaces, ∀ table ∈ ns.tables,
        ((run calls).lookup? ns.name).bind (·.table? table.name) = some table := by
  have sound := sound_run calls
  obtain ⟨names, slots⟩ := filed_run calls
  refine ⟨sound.names.faithful names, sound.slots.faithful slots, sound.compiled,
    fun name => ⟨sound.contains_iff_lookup?, sound.contains_iff, fun ns => ?_⟩, rfl,
    fun ns stored table member => ?_⟩
  · rw [sound.lookup?_eq_some_iff, filter_key_eq_singleton_iff sound.names.nodup_keys]
  · rw [sound.lookup?_eq_some_iff.2 ⟨stored, rfl⟩]
    exact NormalNamespace.table?_name (sound.compiled ns stored) member

end Registry

end TableSchema
