import Mathlib.Algebra.BigOperators.Group.List.Basic
import Mathlib.Algebra.GroupWithZero.Nat
import Mathlib.Algebra.Order.BigOperators.Group.List
import Mathlib.Data.List.Forall2
import TableSchema.Proofs.Validation.WellFormed

/-!
The normal form of a table keeps every column and puts all of them in order.

Columns are looked up, key columns are found by name, and the others are sorted out by width. Each
of these steps would drop or repeat a column of an arbitrary table; in one that keeps the rules,
every column stands once in the key or once among the values. Main result: nothing that a namespace
declares is lost when it is compiled.
-/

set_option autoImplicit false

namespace TableSchema

private theorem forall₂_filterMap {α β : Type} {related : β → α → Prop} {f : α → Option β}
    {items : List α}
    (answered : ∀ item ∈ items, ∃ answer, f item = some answer ∧ related answer item) :
    List.Forall₂ related (items.filterMap f) items := by
  induction items with
  | nil => exact .nil
  | cons item rest ih =>
    obtain ⟨answer, found, fits⟩ := answered item List.mem_cons_self
    have others := ih fun other member => answered other (List.mem_cons_of_mem item member)
    rw [List.filterMap_cons_some found]
    exact .cons fits others

private theorem map_eq_map_iff_forall₂ {α β κ : Type} {f : α → κ} {g : β → κ} {as : List α}
    {bs : List β} : as.map f = bs.map g ↔ List.Forall₂ (fun a b => f a = g b) as bs := by
  rw [← List.forall₂_eq_eq_eq, List.forall₂_map_left_iff, List.forall₂_map_right_iff]

private theorem filter_sortedOut {α : Type} (test : α → Bool) (items : List α) :
    (items.filter (!test ·) ++ items.filter test).filter (!test ·) = items.filter (!test ·) ∧
      (items.filter (!test ·) ++ items.filter test).filter test = items.filter test := by
  simp [List.filter_append, List.filter_filter]

namespace TypedColumn

/-- The declared column with its type looked up. -/
def Resolves (typed : TypedColumn) (column : Column) : Prop :=
  typed.name = column.name ∧ ColumnType.ofName? column.typeName = some typed.type

end TypedColumn

/-- A table in normal form that keeps all that a declared table says. -/
structure NormalTable.Keeps (normal : NormalTable) (table : Table) : Prop where
  name : normal.name = table.name
  persisted : normal.persisted = table.persisted
  codegen : normal.codegen = table.codegen
  columns : List.Forall₂ TypedColumn.Resolves normal.columns table.columns
  key : normal.keySchema.map (·.name) = table.key
  singleton : normal.isSingleton = true ↔ table.key = []
  parts : (normal.keySchema ++ normal.valueSchema).Perm normal.columns
  fixedFirst : normal.valueSchema.Pairwise fun earlier later =>
    earlier.type.isVariableWidth = true → later.type.isVariableWidth = true
  fixedOrder : (normal.valueSchema.filter (!·.type.isVariableWidth)).Sublist normal.columns
  variableOrder : (normal.valueSchema.filter (·.type.isVariableWidth)).Sublist normal.columns
  staticFields : normal.layout.staticFields = normal.valueSchema.countP (!·.type.isVariableWidth)
  dynamicFields : normal.layout.dynamicFields = normal.valueSchema.countP (·.type.isVariableWidth)
  staticByteLength : normal.layout.staticByteLength =
    (normal.valueSchema.filterMap (·.type.staticByteLength?)).sum
  staticFields_le : normal.layout.staticFields ≤ normal.layout.staticByteLength
  staticByteLength_le : normal.layout.staticByteLength ≤ 32 * normal.layout.staticFields

namespace Layout

theorem ofColumns_eq (columns : List TypedColumn) :
    ofColumns columns =
      ⟨(columns.filterMap (·.type.staticByteLength?)).sum,
        columns.countP (!·.type.isVariableWidth), columns.countP (·.type.isVariableWidth)⟩ := by
  induction columns using List.reverseRecOn with
  | nil => rfl
  | append_singleton columns column ih =>
    have step : ofColumns (columns ++ [column]) = (ofColumns columns).add column := by
      simp only [ofColumns, List.foldl_append, List.foldl_cons, List.foldl_nil]
    rw [step, ih, add]
    cases width : column.type.staticByteLength? <;> simp [ColumnType.isVariableWidth, width]

theorem length_widths (columns : List TypedColumn) :
    (columns.filterMap (·.type.staticByteLength?)).length =
      columns.countP (!·.type.isVariableWidth) := by
  rw [List.length_filterMap_eq_countP]
  congr 1
  funext column
  simp [ColumnType.isVariableWidth]

end Layout

namespace Table

variable {hints : HintSet} {table : Table}

theorem WellFormed.resolves (wellFormed : table.WellFormed hints) :
    List.Forall₂ TypedColumn.Resolves table.typedColumns table.columns := by
  unfold typedColumns
  apply forall₂_filterMap
  intro column member
  obtain ⟨type, known⟩ := wellFormed.columnTypes column member
  have first : table.column? column.name = some column :=
    (column?_eq_some_iff wellFormed.columnNames).2 ⟨member, rfl⟩
  have looked : table.columnTypes.lookup column.name = some (some type) := by
    rw [lookup_columnTypes, first, Option.map_some, known]
  exact ⟨⟨column.name, type⟩, by rw [looked], rfl, known⟩

theorem WellFormed.typedNames (wellFormed : table.WellFormed hints) :
    table.typedColumns.map (·.name) = table.columns.map (·.name) := by
  rw [map_eq_map_iff_forall₂]
  exact wellFormed.resolves.imp fun _ _ resolved => resolved.1

theorem WellFormed.exists_typeName (wellFormed : table.WellFormed hints) :
    ∀ column ∈ table.typedColumns, ∃ name, ColumnType.ofName? name = some column.type := by
  have named : List.Forall₂
      (fun (typed : TypedColumn) column =>
        (∃ name, ColumnType.ofName? name = some typed.type) ∧ typed.Resolves column)
      table.typedColumns table.columns :=
    wellFormed.resolves.imp fun _ column resolved => ⟨⟨column.typeName, resolved.2⟩, resolved⟩
  exact ((List.forall₂_and_left _ _).1 named).1

end Table

theorem Layout.bounds {columns : List TypedColumn}
    (known : ∀ column ∈ columns, ∃ name, ColumnType.ofName? name = some column.type) :
    (ofColumns columns).staticFields ≤ (ofColumns columns).staticByteLength ∧
      (ofColumns columns).staticByteLength ≤ 32 * (ofColumns columns).staticFields := by
  have widths : ∀ width ∈ columns.filterMap (·.type.staticByteLength?), 1 ≤ width ∧ width ≤ 32 := by
    intro width member
    obtain ⟨column, there, fixed⟩ := List.mem_filterMap.1 member
    obtain ⟨name, found⟩ := known column there
    exact ColumnType.width_bounds_of_ofName? found fixed
  rw [ofColumns_eq, ← length_widths]
  constructor
  · exact List.length_le_sum_of_one_le _ fun width member => (widths width member).1
  · have most := List.sum_le_card_nsmul _ 32 fun width member => (widths width member).2
    rwa [Nat.nsmul_eq_mul, Nat.mul_comm] at most

namespace NormalTable

variable {ns : String} {table : Table} {columns : List TypedColumn}

theorem keySchema_ofTable :
    (ofTable ns table columns).keySchema =
      table.key.filterMap fun entry => columns.find? (·.name == entry) := rfl

theorem valueSchema_ofTable :
    (ofTable ns table columns).valueSchema =
      (columns.filter (!table.key.contains ·.name)).filter (!·.type.isVariableWidth) ++
        (columns.filter (!table.key.contains ·.name)).filter (·.type.isVariableWidth) := by
  simp only [ofTable, List.partition_eq_filter_filter]
  rfl

theorem map_name_keySchema (declared : ∀ entry ∈ table.key, entry ∈ columns.map (·.name)) :
    (ofTable ns table columns).keySchema.map (·.name) = table.key := by
  have named : List.Forall₂ (fun (column : TypedColumn) entry => column.name = entry)
      (ofTable ns table columns).keySchema table.key := by
    apply forall₂_filterMap
    intro entry member
    have known : (columns.find? (·.name == entry)).isSome := by
      rw [List.find?_isSome]
      obtain ⟨column, there, same⟩ := List.mem_map.1 (declared entry member)
      exact ⟨column, there, by simpa using same⟩
    obtain ⟨column, found⟩ := Option.isSome_iff_exists.1 known
    exact ⟨column, found, by simpa using List.find?_some found⟩
  rw [← List.forall₂_eq_eq_eq, List.forall₂_map_left_iff]
  exact named

theorem mem_keySchema_iff (names : (columns.map (·.name)).Nodup) {column : TypedColumn} :
    column ∈ (ofTable ns table columns).keySchema ↔ column ∈ columns ∧ column.name ∈ table.key := by
  rw [keySchema_ofTable, List.mem_filterMap]
  simp only [find?_key_eq_some_iff names]
  constructor
  · rintro ⟨_, entry, there, rfl⟩
    exact ⟨there, entry⟩
  · rintro ⟨there, entry⟩
    exact ⟨column.name, entry, there, rfl⟩

theorem keySchema_perm (names : (columns.map (·.name)).Nodup) (differ : table.key.Nodup)
    (declared : ∀ entry ∈ table.key, entry ∈ columns.map (·.name)) :
    (ofTable ns table columns).keySchema.Perm (columns.filter (table.key.contains ·.name)) := by
  have once : (ofTable ns table columns).keySchema.Nodup := by
    apply List.Nodup.of_map (·.name)
    rw [map_name_keySchema declared]
    exact differ
  have others : (columns.filter (table.key.contains ·.name)).Nodup :=
    (List.Nodup.of_map _ names).filter _
  apply (List.perm_ext_iff_of_nodup once others).2
  intro column
  rw [mem_keySchema_iff names, List.mem_filter, List.contains_iff_mem]

theorem valueSchema_perm :
    (ofTable ns table columns).valueSchema.Perm (columns.filter (!table.key.contains ·.name)) := by
  rw [valueSchema_ofTable]
  simpa using List.filter_append_perm (fun column : TypedColumn => !column.type.isVariableWidth)
    (columns.filter (!table.key.contains ·.name))

theorem parts_perm (names : (columns.map (·.name)).Nodup) (differ : table.key.Nodup)
    (declared : ∀ entry ∈ table.key, entry ∈ columns.map (·.name)) :
    ((ofTable ns table columns).keySchema ++ (ofTable ns table columns).valueSchema).Perm
      columns :=
  ((keySchema_perm names differ declared).append valueSchema_perm).trans
    (List.filter_append_perm (fun column : TypedColumn => table.key.contains column.name) columns)

theorem filter_fixed_valueSchema :
    (ofTable ns table columns).valueSchema.filter (!·.type.isVariableWidth) =
      (columns.filter (!table.key.contains ·.name)).filter (!·.type.isVariableWidth) := by
  rw [valueSchema_ofTable]
  exact (filter_sortedOut (fun column : TypedColumn => column.type.isVariableWidth) _).1

theorem filter_variable_valueSchema :
    (ofTable ns table columns).valueSchema.filter (·.type.isVariableWidth) =
      (columns.filter (!table.key.contains ·.name)).filter (·.type.isVariableWidth) := by
  rw [valueSchema_ofTable]
  exact (filter_sortedOut (fun column : TypedColumn => column.type.isVariableWidth) _).2

theorem valueSchema_pairwise :
    (ofTable ns table columns).valueSchema.Pairwise fun earlier later =>
      earlier.type.isVariableWidth = true → later.type.isVariableWidth = true := by
  rw [valueSchema_ofTable, List.pairwise_append]
  refine ⟨?_, ?_, ?_⟩
  · apply List.pairwise_of_forall_mem_list
    intro earlier member _ _ wide
    have narrow := (List.mem_filter.1 member).2
    simp [wide] at narrow
  · apply List.pairwise_of_forall_mem_list
    intro _ _ later member _
    exact (List.mem_filter.1 member).2
  · intro _ _ later member _
    exact (List.mem_filter.1 member).2

end NormalTable

theorem Table.WellFormed.keeps {hints : HintSet} {table : Table}
    (wellFormed : table.WellFormed hints) (ns : String) :
    (NormalTable.ofTable ns table table.typedColumns).Keeps table := by
  have names : (table.typedColumns.map (·.name)).Nodup := by
    rw [wellFormed.typedNames]
    exact wellFormed.columnNames
  have declared : ∀ entry ∈ table.key, entry ∈ table.typedColumns.map (·.name) := by
    intro entry member
    obtain ⟨column, there, named, _⟩ := wellFormed.keyColumns entry member
    rw [wellFormed.typedNames]
    exact List.mem_map.2 ⟨column, there, named⟩
  have key : (NormalTable.ofTable ns table table.typedColumns).keySchema.map (·.name) = table.key :=
    NormalTable.map_name_keySchema declared
  have parts : ((NormalTable.ofTable ns table table.typedColumns).keySchema ++
      (NormalTable.ofTable ns table table.typedColumns).valueSchema).Perm table.typedColumns :=
    NormalTable.parts_perm names wellFormed.key declared
  have known : ∀ column ∈ (NormalTable.ofTable ns table table.typedColumns).valueSchema,
      ∃ name, ColumnType.ofName? name = some column.type := by
    intro column member
    have there := parts.subset (List.mem_append_right _ member)
    exact wellFormed.exists_typeName column there
  obtain ⟨least, most⟩ := Layout.bounds known
  have layout := Layout.ofColumns_eq (NormalTable.ofTable ns table table.typedColumns).valueSchema
  exact {
    name := rfl
    persisted := rfl
    codegen := rfl
    columns := wellFormed.resolves
    key := key
    singleton := by rw [NormalTable.isSingleton, List.isEmpty_iff, ← key, List.map_eq_nil_iff]
    parts := parts
    fixedFirst := NormalTable.valueSchema_pairwise
    fixedOrder := by
      rw [NormalTable.filter_fixed_valueSchema]
      exact List.filter_sublist.trans List.filter_sublist
    variableOrder := by
      rw [NormalTable.filter_variable_valueSchema]
      exact List.filter_sublist.trans List.filter_sublist
    staticFields := congrArg Layout.staticFields layout
    dynamicFields := congrArg Layout.dynamicFields layout
    staticByteLength := congrArg Layout.staticByteLength layout
    staticFields_le := least
    staticByteLength_le := most }

namespace Namespace

/-- Compilation keeps the definition, its name and its options, and brings its tables into normal
form one by one, in declaration order and without loss. -/
theorem compiled_keeps_definition {ns : Namespace} {compiled : NormalNamespace}
    (accepted : ns.validate = .ok compiled) :
    compiled.name = ns.name ∧ compiled.deploy = ns.deploy ∧ compiled.definition = ns ∧
      List.Forall₂ NormalTable.Keeps compiled.tables ns.tables := by
  obtain ⟨silent, rfl⟩ := validate_eq_ok_iff.1 accepted
  have wellFormed := violations_eq_nil_iff.1 silent
  refine ⟨rfl, rfl, rfl, ?_⟩
  apply List.forall₂_map_left_iff.2
  apply List.forall₂_same.2
  intro table member
  exact (wellFormed.tables table member).keeps ns.name

/-- A namespace with a key that is not in column order, values of both widths in any order, and a
table without key. -/
def inventory : Namespace where
  name := "inventory"
  tables := [
    { name := "Item"
      columns := [⟨"note", "string"⟩, ⟨"owner", "address"⟩, ⟨"tags", "uint8[]"⟩, ⟨"id", "uint32"⟩,
        ⟨"level", "uint16"⟩, ⟨"hash", "bytes32"⟩]
      key := ["id", "owner"]
      persisted := true
      codegen := .ofMembers [("dataStruct", .bool true)] },
    { name := "Message", columns := [⟨"text", "string"⟩], key := [], persisted := false,
      codegen := .empty }]
  deploy := .empty
  recognizedHints := .default

theorem inventory_kept :
    inventory.validate = .ok inventory.normalForm ∧
      List.Forall₂ NormalTable.Keeps inventory.normalForm.tables inventory.tables := by
  have accepted : inventory.validate = .ok inventory.normalForm := by decide +kernel
  exact ⟨accepted, (compiled_keeps_definition accepted).2.2.2⟩

end Namespace

end TableSchema
