import Mathlib.Data.List.Induction
import TableSchema.Proofs.Text.ByteOrder
import TableSchema.Proofs.Walk
import TableSchema.Validation

/-!
The violations of a namespace by position.

What is wrong with a column, a key entry or a table depends on it and on those before it in its
list. The findings below say so for each kind, without the memory that the walk keeps, and the
violations of a namespace are these findings, table by table.
-/

set_option autoImplicit false

namespace TableSchema

namespace Table

def columnFindings (ns table : String) (earlier : List String) (column : Column) :
    List Violation :=
  (if column.name ∈ earlier then [Violation.duplicateColumn ns table column.name] else []) ++
    if ColumnType.ofName? column.typeName = none then
      [Violation.unknownType ns table column.name column.typeName]
    else []

/-- What is wrong with a key entry that comes after the entries in `earlier`. Its type is that of
the first column of its name. -/
def keyFindings (ns : String) (table : Table) (earlier : List String) (entry : String) :
    List Violation :=
  if entry ∈ earlier then [Violation.duplicateKeyColumn ns table.name entry]
  else match table.column? entry with
    | none => [Violation.invalidKeyColumn ns table.name entry]
    | some column => match ColumnType.ofName? column.typeName with
      | none => []
      | some type =>
        if type.isVariableWidth then [Violation.ineligibleKeyType ns table.name entry type.name]
        else []

/-- The tables whose name none before them has. -/
def firstOccurrences (tables : List Table) : List Table :=
  (tables.mapIdx fun i table =>
    if table.name ∈ (tables.take i).map (·.name) then [] else [table]).flatten

end Table

namespace Namespace

def idOf (ns : Namespace) (table : Table) : ResourceId :=
  ResourceId.ofTable ns.name table.name table.persisted

/-- What is wrong with the name of a table that comes after the tables in `earlier`. Of tables
with its id, the latest counts, and tables that repeat a name do not count. -/
def nameFindings (ns : Namespace) (earlier : List Table) (table : Table) : List Violation :=
  if table.name ∈ earlier.map (·.name) then [Violation.duplicateTable ns.name table.name]
  else match (Table.firstOccurrences earlier).reverse.find? (ns.idOf · = ns.idOf table) with
    | none => []
    | some existing => [Violation.tableIdCollision ns.name table.name existing.name]

def hintFindings (ns : Namespace) (table : Table) : List Violation :=
  (table.codegen.names.filter (· ∉ ns.recognizedHints)).map
    (Violation.unknownCodegenHint ns.name table.name)

def tableFindings (ns : Namespace) (earlier : List Table) (table : Table) : List Violation :=
  (table.columns.mapIdx fun i column =>
    Table.columnFindings ns.name table.name ((table.columns.take i).map (·.name)) column).flatten ++
  (table.key.mapIdx fun i entry =>
    Table.keyFindings ns.name table (table.key.take i) entry).flatten ++
  ns.nameFindings earlier table ++
  ns.hintFindings table

def findings (ns : Namespace) : List Violation :=
  (ns.tables.mapIdx fun i table => ns.tableFindings (ns.tables.take i) table).flatten

end Namespace

namespace Table

private theorem columnFindings_congr {a b : List String} (same : ∀ name, name ∈ a ↔ name ∈ b)
    (ns table : String) (column : Column) :
    columnFindings ns table a column = columnFindings ns table b column := by
  simp only [columnFindings, same]

theorem columnViolations_eq (ns table : String) (columns : List Column) :
    columnViolations ns table [] columns =
      (columns.mapIdx fun i column =>
        columnFindings ns table ((columns.take i).map (·.name)) column).flatten := by
  rw [walk_eq_flatten (columnViolations ns table) (columnFindings ns table)
    (fun seen column => column.name :: seen) (fun _ => rfl)]
  · congr 2
    funext i column
    refine columnFindings_congr (fun name => ?_) ns table column
    simp
  · intro seen column rest
    cases type : ColumnType.ofName? column.typeName <;>
      simp [columnViolations, columnFindings, type]

private theorem lookup_columnTypes_after (types : List (String × Option ColumnType))
    (columns : List Column) (name : String) :
    (columns.foldl (fun types column =>
      if (types.lookup column.name).isSome then types
      else types ++ [(column.name, ColumnType.ofName? column.typeName)]) types).lookup name =
    (types.lookup name).or
      ((columns.find? (·.name == name)).map fun column => ColumnType.ofName? column.typeName) := by
  induction columns generalizing types with
  | nil => simp
  | cons column rest ih =>
    rw [List.foldl_cons, ih]
    by_cases same : column.name = name
    · subst same
      split_ifs with known
      · obtain ⟨type, found⟩ := Option.isSome_iff_exists.1 known
        simp [found]
      · rw [Option.not_isSome_iff_eq_none] at known
        simp [List.lookup_append, known]
    · have other : (name == column.name) = false := by simpa using Ne.symm same
      split_ifs with known
      · simp [same]
      · simp [List.lookup_append, List.lookup_cons, other, same]

theorem lookup_columnTypes (table : Table) (name : String) :
    table.columnTypes.lookup name =
      (table.column? name).map fun column => ColumnType.ofName? column.typeName := by
  rw [columnTypes, lookup_columnTypes_after]
  rfl

private theorem keyFindings_congr {a b : List String} (same : ∀ entry, entry ∈ a ↔ entry ∈ b)
    (ns : String) (table : Table) (entry : String) :
    keyFindings ns table a entry = keyFindings ns table b entry := by
  simp only [keyFindings, same]

theorem keyViolations_eq (ns : String) (table : Table) (key : List String) :
    keyViolations ns table.name table.columnTypes [] key =
      (key.mapIdx fun i entry => keyFindings ns table (key.take i) entry).flatten := by
  rw [walk_eq_flatten (keyViolations ns table.name table.columnTypes) (keyFindings ns table)
    (fun seen entry => entry :: seen) (fun _ => rfl)]
  · congr 2
    funext i entry
    refine keyFindings_congr (fun name => ?_) ns table entry
    simp
  · intro seen entry rest
    rw [keyViolations, lookup_columnTypes]
    congr 1
    by_cases repeated : entry ∈ seen
    · simp [keyFindings, repeated]
    · cases column : table.column? entry with
      | none => simp [keyFindings, repeated, column]
      | some found =>
        cases type : ColumnType.ofName? found.typeName with
        | none => simp [keyFindings, repeated, column, type]
        | some type' =>
          cases width : type'.isVariableWidth <;>
            simp [keyFindings, repeated, column, type, ColumnType.isKeyEligible, width]

@[simp] theorem firstOccurrences_nil : firstOccurrences [] = [] := rfl

theorem firstOccurrences_append_singleton (tables : List Table) (table : Table) :
    firstOccurrences (tables ++ [table]) =
      firstOccurrences tables ++
        if table.name ∈ tables.map (·.name) then [] else [table] := by
  have same : (tables.mapIdx fun i table' =>
        if table'.name ∈ ((tables ++ [table]).take i).map (·.name) then [] else [table']) =
      tables.mapIdx fun i table' =>
        if table'.name ∈ (tables.take i).map (·.name) then [] else [table'] := by
    rw [List.mapIdx_eq_mapIdx_iff]
    intro i h
    rw [List.take_append_of_le_length h.le]
  rw [firstOccurrences, List.mapIdx_concat, same, List.flatten_append, List.take_left]
  simp [firstOccurrences]

theorem mem_firstOccurrences_iff {tables : List Table} {table : Table} :
    table ∈ firstOccurrences tables ↔
      ∃ i, ∃ h : i < tables.length,
        tables[i] = table ∧ table.name ∉ (tables.take i).map (·.name) := by
  rw [firstOccurrences, mem_flatten_mapIdx_iff]
  constructor
  · rintro ⟨i, h, member⟩
    split_ifs at member with repeated
    · cases member
    · obtain rfl := List.mem_singleton.1 member
      exact ⟨i, h, rfl, repeated⟩
  · rintro ⟨i, h, rfl, fresh⟩
    exact ⟨i, h, by rw [if_neg fresh]; exact List.mem_singleton_self _⟩

end Table

namespace SeenTables

def after (ns : Namespace) (tables : List Table) : SeenTables :=
  tables.foldl (fun seen table => seen.add ns table) empty

theorem after_append_singleton (ns : Namespace) (tables : List Table) (table : Table) :
    after ns (tables ++ [table]) = (after ns tables).add ns table := by
  simp [after]

theorem mem_names_after {ns : Namespace} {tables : List Table} {name : String} :
    name ∈ (after ns tables).names ↔ name ∈ tables.map (·.name) := by
  induction tables using List.reverseRecOn with
  | nil => simp [after, empty]
  | append_singleton tables table ih =>
    rw [after_append_singleton, add]
    split_ifs with repeated
    · have known : table.name ∈ (after ns tables).names := List.contains_iff_mem.1 repeated
      simp only [List.map_append, List.mem_append, ih, List.map_cons, List.map_nil,
        List.mem_singleton, iff_self_or]
      rintro rfl
      exact ih.1 known
    · simp [ih, or_comm]

theorem contains_names_after {ns : Namespace} {tables : List Table} {name : String} :
    (after ns tables).names.contains name = true ↔ name ∈ tables.map (·.name) := by
  rw [List.contains_iff_mem, mem_names_after]

theorem ids_after (ns : Namespace) (tables : List Table) :
    (after ns tables).ids =
      (Table.firstOccurrences tables).reverse.map fun table => (ns.idOf table, table.name) := by
  induction tables using List.reverseRecOn with
  | nil => simp [after, empty]
  | append_singleton tables table ih =>
    rw [after_append_singleton, add, Table.firstOccurrences_append_singleton]
    simp only [contains_names_after]
    by_cases repeated : table.name ∈ tables.map (·.name)
    · rw [if_pos repeated, if_pos repeated, List.append_nil]
      exact ih
    · rw [if_neg repeated, if_neg repeated]
      simp [ih, Namespace.idOf]

theorem nameViolations_after (ns : Namespace) (earlier : List Table) (table : Table) :
    (after ns earlier).nameViolations ns table = ns.nameFindings earlier table := by
  have latest : (after ns earlier).ids.lookup (ns.idOf table) =
      ((Table.firstOccurrences earlier).reverse.find? (ns.idOf · = ns.idOf table)).map
        (·.name) := by
    rw [ids_after, lookup_map]
  rw [nameViolations, Namespace.nameFindings, ← Namespace.idOf, latest]
  simp only [contains_names_after]
  split_ifs with repeated
  · rfl
  · cases (Table.firstOccurrences earlier).reverse.find? (ns.idOf · = ns.idOf table) <;> rfl

end SeenTables

namespace Namespace

theorem nameFindings_eq_nil_iff {ns : Namespace} {earlier : List Table} {table : Table} :
    ns.nameFindings earlier table = [] ↔
      table.name ∉ earlier.map (·.name) ∧
        ∀ other ∈ Table.firstOccurrences earlier, ns.idOf other ≠ ns.idOf table := by
  rw [nameFindings]
  split_ifs with repeated
  · simp [repeated]
  · cases found : (Table.firstOccurrences earlier).reverse.find? (ns.idOf · = ns.idOf table) with
    | none => simpa [repeated] using found
    | some existing =>
      have member := List.mem_reverse.1 (List.mem_of_find?_eq_some found)
      have same := List.find?_some found
      simp only [List.cons_ne_nil, false_iff, not_and, not_forall]
      exact fun _ => ⟨existing, member, fun differ => differ (by simpa using same)⟩

theorem hintViolations_eq (ns : Namespace) (table : Table) :
    Table.hintViolations ns table = ns.hintFindings table := by
  rw [Table.hintViolations, hintFindings]
  congr 2
  funext hint
  simp [← HintSet.contains_iff_mem]

theorem tableViolations_after (ns : Namespace) (earlier : List Table) (table : Table) :
    ns.tableViolations (SeenTables.after ns earlier) table = ns.tableFindings earlier table := by
  rw [tableViolations, Table.columnViolations_eq, Table.keyViolations_eq,
    SeenTables.nameViolations_after, hintViolations_eq, tableFindings]

/-- The violations of a namespace are the findings in its tables, each after those before it. -/
theorem violations_eq_findings (ns : Namespace) : ns.violations = ns.findings := by
  rw [violations, walk_eq_flatten ns.violationsAfter ns.tableViolations
    (fun seen table => seen.add ns table) (fun _ => rfl) (fun _ _ _ => rfl), findings]
  congr 2
  funext i table
  exact ns.tableViolations_after (ns.tables.take i) table

/-- The namespace as it is compiled if it is well-formed. -/
def normalForm (ns : Namespace) : NormalNamespace :=
  NormalNamespace.ofTables ns (ns.tables.map fun table =>
    NormalTable.ofTable ns.name table table.typedColumns)

theorem validate_eq_ok_iff {ns : Namespace} {compiled : NormalNamespace} :
    ns.validate = .ok compiled ↔ ns.violations = [] ∧ compiled = ns.normalForm := by
  rw [validate]
  cases all : ns.violations with
  | nil => simp [normalForm, eq_comm]
  | cons first rest => simp

theorem definition_of_validate_eq_ok {ns : Namespace} {compiled : NormalNamespace}
    (accepted : ns.validate = .ok compiled) : compiled.definition = ns := by
  rw [(validate_eq_ok_iff.1 accepted).2]
  rfl

theorem name_of_validate_eq_ok {ns : Namespace} {compiled : NormalNamespace}
    (accepted : ns.validate = .ok compiled) : compiled.name = ns.name := by
  rw [(validate_eq_ok_iff.1 accepted).2]
  rfl

theorem tables_of_validate_eq_ok {ns : Namespace} {compiled : NormalNamespace}
    (accepted : ns.validate = .ok compiled) :
    compiled.tables =
      ns.tables.map fun table => NormalTable.ofTable ns.name table table.typedColumns := by
  rw [(validate_eq_ok_iff.1 accepted).2]
  rfl

theorem validate_eq_error_iff {ns : Namespace} {found : List Violation} :
    ns.validate = .error found ↔ found = ns.violations ∧ found ≠ [] := by
  rw [validate]
  cases all : ns.violations with
  | nil => simp
  | cons first rest =>
    simp only [Except.error.injEq]
    constructor
    · rintro rfl
      simp
    · exact fun h => h.1.symm

end Namespace

end TableSchema
