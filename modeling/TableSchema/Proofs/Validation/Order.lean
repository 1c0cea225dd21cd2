import TableSchema.Proofs.Validation.Findings

set_option autoImplicit false

namespace TableSchema

namespace Table

theorem mem_columnFindings_iff {ns table : String} {earlier : List String} {column : Column}
    {found : Violation} :
    found ∈ columnFindings ns table earlier column ↔
      column.name ∈ earlier ∧ found = .duplicateColumn ns table column.name ∨
        ColumnType.ofName? column.typeName = none ∧
          found = .unknownType ns table column.name column.typeName := by
  simp only [columnFindings, List.mem_append, List.mem_ite_nil_right, List.mem_singleton]

theorem mem_keyFindings_cases {ns : String} {table : Table} {earlier : List String}
    {entry : String} {found : Violation} (h : found ∈ keyFindings ns table earlier entry) :
    found = .duplicateKeyColumn ns table.name entry ∨
      table.column? entry = none ∧ found = .invalidKeyColumn ns table.name entry ∨
      ∃ column type, table.column? entry = some column ∧
        ColumnType.ofName? column.typeName = some type ∧ type.isVariableWidth = true ∧
        found = .ineligibleKeyType ns table.name entry type.name := by
  rw [keyFindings] at h
  split_ifs at h with repeated
  · exact Or.inl (List.mem_singleton.1 h)
  · refine Or.inr ?_
    cases named : table.column? entry with
    | none =>
      rw [named] at h
      exact Or.inl ⟨rfl, List.mem_singleton.1 h⟩
    | some column =>
      rw [named] at h
      cases known : ColumnType.ofName? column.typeName with
      | none => simp only [known, List.not_mem_nil] at h
      | some type =>
        simp only [known, List.mem_ite_nil_right, List.mem_singleton] at h
        exact Or.inr ⟨column, type, rfl, known, h⟩

end Table

namespace Namespace

theorem mem_nameFindings_cases {ns : Namespace} {earlier : List Table} {table : Table}
    {found : Violation} (h : found ∈ ns.nameFindings earlier table) :
    found = .duplicateTable ns.name table.name ∨
      ∃ existing ∈ Table.firstOccurrences earlier, ns.idOf existing = ns.idOf table ∧
        found = .tableIdCollision ns.name table.name existing.name := by
  rw [nameFindings] at h
  split_ifs at h with repeated
  · exact Or.inl (List.mem_singleton.1 h)
  · cases latest : (Table.firstOccurrences earlier).reverse.find? (ns.idOf · = ns.idOf table) with
    | none => simp [latest] at h
    | some existing =>
      rw [latest] at h
      have member := List.mem_reverse.1 (List.mem_of_find?_eq_some latest)
      have same : ns.idOf existing = ns.idOf table := by simpa using List.find?_some latest
      exact Or.inr ⟨existing, member, same, List.mem_singleton.1 h⟩

/-- What is said of a table that comes after the tables in `earlier`: the rule, the place and the
reason. -/
inductive Tells (ns : Namespace) (earlier : List Table) (table : Table) : Violation → Prop where
  | duplicateColumn {column : Column} (declared : column ∈ table.columns) :
    Tells ns earlier table ⟨.duplicateColumn, ns.name, some table.name, some column.name,
      s!"Column '{column.name}' is declared more than once"⟩
  | unknownType {column : Column} (declared : column ∈ table.columns)
    (unknown : ColumnType.ofName? column.typeName = none) :
    Tells ns earlier table ⟨.unknownType, ns.name, some table.name, some column.name,
      s!"Column '{column.name}' has unknown type '{column.typeName}'"⟩
  | duplicateKeyColumn {entry : String} (keyed : entry ∈ table.key) :
    Tells ns earlier table ⟨.duplicateKeyColumn, ns.name, some table.name, some entry,
      s!"Key column '{entry}' appears more than once in the key"⟩
  | invalidKeyColumn {entry : String} (keyed : entry ∈ table.key)
    (undeclared : table.column? entry = none) :
    Tells ns earlier table ⟨.invalidKeyColumn, ns.name, some table.name, some entry,
      s!"Key column '{entry}' is not a declared column"⟩
  | ineligibleKeyType {entry : String} {type : ColumnType} (keyed : entry ∈ table.key)
    (wide : type.isVariableWidth = true) :
    Tells ns earlier table ⟨.ineligibleKeyType, ns.name, some table.name, some entry,
      s!"Key column '{entry}' has variable-width type '{type.name}'; " ++
        "keys require fixed-width types"⟩
  | duplicateTable :
    Tells ns earlier table ⟨.duplicateTable, ns.name, some table.name, none,
      s!"Table '{table.name}' is declared more than once in namespace '{ns.name}'"⟩
  | tableIdCollision {existing : Table} (member : existing ∈ earlier)
    (same : ns.idOf existing = ns.idOf table) :
    Tells ns earlier table ⟨.duplicateTable, ns.name, some table.name, none,
      s!"Table '{table.name}' has the same resource id as table '{existing.name}' " ++
        s!"in namespace '{ns.name}' (table names are truncated to {tableSlotBytes} bytes)"⟩
  | unknownCodegenHint {hint : String} (given : hint ∈ table.codegen.names) :
    Tells ns earlier table ⟨.unknownCodegenHint, ns.name, some table.name, some hint,
      s!"Codegen hint '{hint}' is not recognized by namespace '{ns.name}'"⟩

theorem tells_of_mem_tableFindings {ns : Namespace} {earlier : List Table} {table : Table}
    {found : Violation} (h : found ∈ ns.tableFindings earlier table) :
    ns.Tells earlier table found := by
  simp only [tableFindings, List.mem_append, mem_flatten_mapIdx_iff] at h
  obtain ((⟨i, below, column⟩ | ⟨i, below, key⟩) | name) | hint := h
  · have declared := List.getElem_mem below
    obtain ⟨_, rfl⟩ | ⟨unknown, rfl⟩ := Table.mem_columnFindings_iff.1 column
    · exact .duplicateColumn declared
    · exact .unknownType declared unknown
  · have keyed := List.getElem_mem below
    obtain rfl | ⟨undeclared, rfl⟩ | ⟨_, _, _, _, wide, rfl⟩ := Table.mem_keyFindings_cases key
    · exact .duplicateKeyColumn keyed
    · exact .invalidKeyColumn keyed undeclared
    · exact .ineligibleKeyType keyed wide
  · obtain rfl | ⟨existing, first, same, rfl⟩ := mem_nameFindings_cases name
    · exact .duplicateTable
    · obtain ⟨i, below, rfl, _⟩ := Table.mem_firstOccurrences_iff.1 first
      exact .tableIdCollision (List.getElem_mem below) same
  · obtain ⟨hint, kept, rfl⟩ := List.mem_map.1 hint
    exact .unknownCodegenHint (List.mem_filter.1 kept).1

theorem Tells.place {ns : Namespace} {earlier : List Table} {table : Table} {found : Violation}
    (tells : ns.Tells earlier table found) :
    found.namespaceName = ns.name ∧ found.table = some table.name := by
  cases tells <;> exact ⟨rfl, rfl⟩

theorem namespaceName_of_mem_violations {ns : Namespace} {found : Violation}
    (member : found ∈ ns.violations) : found.namespaceName = ns.name := by
  rw [violations_eq_findings, findings] at member
  obtain ⟨i, h, there⟩ := mem_flatten_mapIdx_iff.1 member
  exact (tells_of_mem_tableFindings there).place.1

/-- A namespace is refused exactly if something is wrong with it, and then the violations are all
its findings, table by table. Every finding tells what is wrong in its namespace and its table, and
those of hints stand in ascending order of the bytes of the hints. -/
theorem validate_eq_error_iff_findings (ns : Namespace) :
    (∀ found, ns.validate = .error found ↔ found = ns.findings ∧ found ≠ []) ∧
      (∀ earlier table, ∀ found ∈ ns.tableFindings earlier table,
        found.namespaceName = ns.name ∧ found.table = some table.name ∧
          ns.Tells earlier table found) ∧
      ∀ table : Table, (table.codegen.names.map Text.utf8).Pairwise (· < ·) := by
  refine ⟨fun found => ?_, fun earlier table found member => ?_, fun table => ?_⟩
  · rw [← violations_eq_findings]
    exact validate_eq_error_iff
  · have tells := tells_of_mem_tableFindings member
    exact ⟨tells.place.1, tells.place.2, tells⟩
  · exact List.pairwise_map.2 (table.codegen.ascending_names.imp Text.utf8_lt)

def brokenItem : Table where
  name := "Item"
  columns := [⟨"id", "uint8"⟩, ⟨"id", "float"⟩, ⟨"note", "string"⟩]
  key := ["missing", "note", "missing", "id"]
  persisted := true
  codegen := .ofMembers [("zoom", .null), ("bogus", .null), ("dataStruct", .null)]

def brokenItems : Namespace where
  name := "app"
  tables := [brokenItem, { brokenItem with columns := [], key := [], codegen := .empty }]
  deploy := .empty
  recognizedHints := .default

theorem brokenItems_refused :
    brokenItems.validate = .error
        [Violation.duplicateColumn "app" "Item" "id",
          Violation.unknownType "app" "Item" "id" "float",
          Violation.invalidKeyColumn "app" "Item" "missing",
          Violation.ineligibleKeyType "app" "Item" "note" "string",
          Violation.duplicateKeyColumn "app" "Item" "missing",
          Violation.unknownCodegenHint "app" "Item" "bogus",
          Violation.unknownCodegenHint "app" "Item" "zoom",
          Violation.duplicateTable "app" "Item"] ∧
      brokenItems.Tells [] brokenItem (Violation.unknownCodegenHint "app" "Item" "zoom") := by
  obtain ⟨refused, places, _⟩ := validate_eq_error_iff_findings brokenItems
  have member : Violation.unknownCodegenHint "app" "Item" "zoom" ∈
      brokenItems.tableFindings [] brokenItem := by
    refine List.mem_append_right _ (List.mem_map.2 ⟨"zoom", ?_, rfl⟩)
    decide +kernel
  exact ⟨(refused _).2 ⟨rfl, List.cons_ne_nil _ _⟩, (places [] brokenItem _ member).2.2⟩

end Namespace

end TableSchema
