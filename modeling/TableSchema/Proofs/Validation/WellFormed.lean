import TableSchema.Proofs.Validation.Findings

/-!
Well-formed namespaces, without a walk: which names, types, ids and hints there must be.

Main result: a namespace is compiled exactly if it is well-formed. The walk says nothing of a key
entry whose type is unknown or which is repeated, and nothing of the id of a table that repeats a
name, but in each of these cases another rule is broken.
-/

set_option autoImplicit false

namespace TableSchema

/-- A table as the rules want it, in a namespace that recognizes the given hints. -/
structure Table.WellFormed (hints : HintSet) (table : Table) : Prop where
  columnNames : (table.columns.map (·.name)).Nodup
  columnTypes : ∀ column ∈ table.columns,
    ∃ type, ColumnType.ofName? column.typeName = some type
  key : table.key.Nodup
  keyColumns : ∀ entry ∈ table.key, ∃ column ∈ table.columns, column.name = entry ∧
    ∃ type width, ColumnType.ofName? column.typeName = some type ∧
      type.staticByteLength? = some width
  hints : ∀ hint ∈ table.codegen.names, hint ∈ hints

structure Namespace.WellFormed (ns : Namespace) : Prop where
  tables : ∀ table ∈ ns.tables, table.WellFormed ns.recognizedHints
  tableNames : (ns.tables.map (·.name)).Nodup
  tableIds : (ns.tables.map ns.idOf).Nodup

theorem ColumnType.not_isVariableWidth_iff {type : ColumnType} :
    ¬ type.isVariableWidth ↔ ∃ width, type.staticByteLength? = some width := by
  rw [isVariableWidth, Option.isNone_iff_eq_none, ← Ne, Option.ne_none_iff_exists']

namespace Table

theorem columnFindings_eq_nil_iff {ns table : String} {earlier : List String} {column : Column} :
    columnFindings ns table earlier column = [] ↔
      column.name ∉ earlier ∧ ∃ type, ColumnType.ofName? column.typeName = some type := by
  simp [columnFindings, ← Option.ne_none_iff_exists']

private theorem columns_silent_iff {ns table : String} {columns : List Column} :
    (columns.mapIdx fun i column =>
        columnFindings ns table ((columns.take i).map (·.name)) column).flatten = [] ↔
      (columns.map (·.name)).Nodup ∧
        ∀ column ∈ columns, ∃ type, ColumnType.ofName? column.typeName = some type := by
  simp only [flatten_mapIdx_eq_nil_iff, columnFindings_eq_nil_iff, nodup_map_iff_not_mem_take,
    forall_and, List.forall_mem_iff_forall_getElem]

theorem column?_eq_some_iff {table : Table} (names : (table.columns.map (·.name)).Nodup)
    {entry : String} {column : Column} :
    table.column? entry = some column ↔ column ∈ table.columns ∧ column.name = entry :=
  find?_key_eq_some_iff names

theorem keyFindings_eq_nil_iff {table : Table}
    (names : (table.columns.map (·.name)).Nodup)
    (types : ∀ column ∈ table.columns, ∃ type, ColumnType.ofName? column.typeName = some type)
    {ns : String} {earlier : List String} {entry : String} :
    keyFindings ns table earlier entry = [] ↔
      entry ∉ earlier ∧ ∃ column ∈ table.columns, column.name = entry ∧
        ∃ type width, ColumnType.ofName? column.typeName = some type ∧
          type.staticByteLength? = some width := by
  unfold keyFindings
  simp only [← and_assoc, ← column?_eq_some_iff names]
  by_cases repeated : entry ∈ earlier
  · simp [repeated]
  · cases found : table.column? entry with
    | none => simp [repeated]
    | some column =>
      obtain ⟨member, _⟩ := (column?_eq_some_iff names).1 found
      obtain ⟨type, known⟩ := types column member
      simp [repeated, known, ← ColumnType.not_isVariableWidth_iff]

private theorem key_silent_iff {table : Table}
    (names : (table.columns.map (·.name)).Nodup)
    (types : ∀ column ∈ table.columns, ∃ type, ColumnType.ofName? column.typeName = some type)
    {ns : String} :
    (table.key.mapIdx fun i entry => keyFindings ns table (table.key.take i) entry).flatten = [] ↔
      table.key.Nodup ∧ ∀ entry ∈ table.key, ∃ column ∈ table.columns, column.name = entry ∧
        ∃ type width, ColumnType.ofName? column.typeName = some type ∧
          type.staticByteLength? = some width := by
  simp only [flatten_mapIdx_eq_nil_iff, keyFindings_eq_nil_iff names types, nodup_iff_not_mem_take,
    forall_and, List.forall_mem_iff_forall_getElem]

end Table

namespace Namespace

private theorem hints_silent_iff {ns : Namespace} {table : Table} :
    ns.hintFindings table = [] ↔ ∀ hint ∈ table.codegen.names, hint ∈ ns.recognizedHints := by
  simp [hintFindings]

theorem tableFindings_eq_nil_iff {ns : Namespace} {earlier : List Table} {table : Table} :
    ns.tableFindings earlier table = [] ↔
      table.WellFormed ns.recognizedHints ∧ ns.nameFindings earlier table = [] := by
  simp only [tableFindings, List.append_eq_nil_iff]
  rw [Table.columns_silent_iff, hints_silent_iff]
  constructor
  · rintro ⟨⟨⟨⟨names, types⟩, key⟩, name⟩, hints⟩
    obtain ⟨entries, columns⟩ := (Table.key_silent_iff names types).1 key
    exact ⟨⟨names, types, entries, columns, hints⟩, name⟩
  · rintro ⟨⟨names, types, entries, columns, hints⟩, name⟩
    exact ⟨⟨⟨⟨names, types⟩, (Table.key_silent_iff names types).2 ⟨entries, columns⟩⟩, name⟩, hints⟩

private theorem firstOccurrences_subset {tables : List Table} :
    Table.firstOccurrences tables ⊆ tables := by
  intro table member
  obtain ⟨i, h, rfl, _⟩ := Table.mem_firstOccurrences_iff.1 member
  exact List.getElem_mem h

private theorem subset_firstOccurrences {tables : List Table}
    (differ : (tables.map (·.name)).Nodup) : tables ⊆ Table.firstOccurrences tables := by
  intro table member
  obtain ⟨i, h, rfl⟩ := List.getElem_of_mem member
  exact Table.mem_firstOccurrences_iff.2 ⟨i, h, rfl, nodup_map_iff_not_mem_take.1 differ i h⟩

theorem names_silent_iff {ns : Namespace} :
    (∀ i, (h : i < ns.tables.length) → ns.nameFindings (ns.tables.take i) ns.tables[i] = []) ↔
      (ns.tables.map (·.name)).Nodup ∧ (ns.tables.map ns.idOf).Nodup := by
  simp only [nameFindings_eq_nil_iff]
  constructor
  · intro silent
    have names := nodup_map_iff_not_mem_take.2 fun i h => (silent i h).1
    refine ⟨names, nodup_map_iff_not_mem_take.2 fun i h repeated => ?_⟩
    obtain ⟨other, member, same⟩ := List.mem_map.1 repeated
    have prefix_names : ((ns.tables.take i).map (·.name)).Nodup :=
      names.sublist ((List.take_sublist i ns.tables).map _)
    exact (silent i h).2 other (subset_firstOccurrences prefix_names member) same
  · rintro ⟨names, ids⟩ i h
    refine ⟨nodup_map_iff_not_mem_take.1 names i h, fun other member same => ?_⟩
    exact nodup_map_iff_not_mem_take.1 ids i h
      (List.mem_map.2 ⟨other, firstOccurrences_subset member, same⟩)

theorem findings_eq_nil_iff {ns : Namespace} : ns.findings = [] ↔ ns.WellFormed := by
  simp only [findings, flatten_mapIdx_eq_nil_iff, tableFindings_eq_nil_iff, forall_and,
    names_silent_iff, ← List.forall_mem_iff_forall_getElem]
  constructor
  · rintro ⟨tables, names, ids⟩
    exact ⟨tables, names, ids⟩
  · rintro ⟨tables, names, ids⟩
    exact ⟨tables, names, ids⟩

theorem violations_eq_nil_iff {ns : Namespace} : ns.violations = [] ↔ ns.WellFormed := by
  rw [violations_eq_findings, findings_eq_nil_iff]

/-- A namespace is compiled exactly if it is well-formed. -/
theorem validate_ok_iff_wellFormed (ns : Namespace) :
    (∃ compiled, ns.validate = .ok compiled) ↔ ns.WellFormed := by
  rw [← violations_eq_nil_iff]
  constructor
  · rintro ⟨compiled, accepted⟩
    exact (validate_eq_ok_iff.1 accepted).1
  · intro silent
    exact ⟨_, validate_eq_ok_iff.2 ⟨silent, rfl⟩⟩

end Namespace

end TableSchema
