import TableSchema.Proofs.Registry.Runs
import TableSchema.Proofs.ResourceId
import TableSchema.Proofs.Validation.WellFormed

set_option autoImplicit false

namespace TableSchema

namespace NormalNamespace

theorem resourceIds_eq {ns : NormalNamespace} (compiled : ns.definition.validate = .ok ns) :
    ns.tables.map (·.resourceId) = ns.definition.tables.map ns.definition.idOf := by
  rw [Namespace.tables_of_validate_eq_ok compiled, List.map_map]
  rfl

theorem pairwise_resourceId_ne {ns : NormalNamespace} (compiled : ns.definition.validate = .ok ns) :
    ns.tables.Pairwise fun table other => table.resourceId ≠ other.resourceId := by
  have wellFormed := Namespace.violations_eq_nil_iff.1 (Namespace.validate_eq_ok_iff.1 compiled).1
  have ids : (ns.tables.map (·.resourceId)).Nodup := by
    rw [resourceIds_eq compiled]
    exact wellFormed.tableIds
  exact List.pairwise_map.1 ids

theorem exists_resourceId_eq {ns : NormalNamespace} (compiled : ns.definition.validate = .ok ns)
    {table : NormalTable} (member : table ∈ ns.tables) :
    ∃ name persisted, table.resourceId = ResourceId.ofTable ns.name name persisted := by
  have id : table.resourceId ∈ ns.tables.map (·.resourceId) := List.mem_map_of_mem member
  rw [resourceIds_eq compiled] at id
  obtain ⟨source, _, same⟩ := List.mem_map.1 id
  have named := Namespace.name_of_validate_eq_ok compiled
  exact ⟨source.name, source.persisted, by rw [named, ← same, Namespace.idOf]⟩

end NormalNamespace

namespace Registry

def tables (registry : Registry) : List NormalTable :=
  registry.namespaces.flatMap (·.tables)

theorem Sound.pairwise_slot_ne {registry : Registry} (sound : registry.Sound) :
    registry.namespaces.Pairwise fun ns other =>
      namespaceSlot ns.name ≠ namespaceSlot other.name :=
  List.pairwise_map.1 sound.slots.nodup_keys

theorem Sound.pairwise_resourceId_ne {registry : Registry} (sound : registry.Sound) :
    registry.tables.Pairwise fun table other => table.resourceId ≠ other.resourceId := by
  rw [tables, List.pairwise_flatMap]
  constructor
  · intro ns member
    exact NormalNamespace.pairwise_resourceId_ne (sound.compiled ns member)
  · refine sound.pairwise_slot_ne.imp_of_mem ?_
    intro ns other stored stored' slots table member table' member' same
    obtain ⟨_, _, id⟩ := NormalNamespace.exists_resourceId_eq (sound.compiled ns stored) member
    obtain ⟨_, _, id'⟩ :=
      NormalNamespace.exists_resourceId_eq (sound.compiled other stored') member'
    rw [id, id', ResourceId.ofTable_eq_iff] at same
    exact slots same.2.1

/-- After any calls, two tables anywhere in the registry differ in the bytes of their ids and in
the digits. -/
theorem resourceIds_differ (calls : List Call) :
    (run calls).tables.Pairwise fun table other =>
      table.resourceId.bytes ≠ other.resourceId.bytes ∧
        table.resourceId.toHex ≠ other.resourceId.toHex := by
  refine (sound_run calls).pairwise_resourceId_ne.imp fun differ => ⟨fun bytes => ?_, ?_⟩
  · exact differ (congrArg ResourceId.mk bytes)
  · exact ResourceId.toHex_injective.ne differ

end Registry

end TableSchema
