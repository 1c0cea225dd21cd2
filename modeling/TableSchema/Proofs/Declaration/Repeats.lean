import TableSchema.Proofs.Declaration.Tables
import TableSchema.Proofs.Validation.Findings

set_option autoImplicit false

namespace TableSchema

namespace Namespace

variable {ns : Namespace}

theorem duplicateTable_mem_violations {first second : Table}
    (twice : [first, second].Sublist ns.tables) (same : first.name = second.name) :
    .duplicateTable ns.name second.name ∈ ns.violations := by
  obtain ⟨i, h, there, earlier⟩ := exists_mem_take_of_sublist twice
  rw [violations_eq_findings, findings, mem_flatten_mapIdx_iff]
  refine ⟨i, h, ?_⟩
  have repeated : second.name ∈ (ns.tables.take i).map (·.name) :=
    List.mem_map.2 ⟨first, earlier, same⟩
  rw [there, tableFindings, nameFindings, if_pos repeated]
  simp

theorem duplicateColumn_mem_violations {table : Table} {first second : Column}
    (member : table ∈ ns.tables) (twice : [first, second].Sublist table.columns)
    (same : first.name = second.name) :
    .duplicateColumn ns.name table.name second.name ∈ ns.violations := by
  obtain ⟨i, h, rfl⟩ := List.getElem_of_mem member
  obtain ⟨j, below, there, earlier⟩ := exists_mem_take_of_sublist twice
  rw [violations_eq_findings, findings, mem_flatten_mapIdx_iff]
  refine ⟨i, h, ?_⟩
  have repeated : second.name ∈ (ns.tables[i].columns.take j).map (·.name) :=
    List.mem_map.2 ⟨first, earlier, same⟩
  have found : .duplicateColumn ns.name ns.tables[i].name second.name ∈
      (ns.tables[i].columns.mapIdx fun j column => Table.columnFindings ns.name ns.tables[i].name
        ((ns.tables[i].columns.take j).map (·.name)) column).flatten := by
    refine mem_flatten_mapIdx_iff.2 ⟨j, below, ?_⟩
    rw [there, Table.columnFindings, if_pos repeated]
    simp
  rw [tableFindings, List.mem_append, List.mem_append, List.mem_append]
  exact Or.inl (Or.inl (Or.inl found))

end Namespace

namespace Declaration

theorem fst_lowerTables (ns : String) (entries : List (String × TableDeclaration)) :
    (lowerTables ns entries).1 =
      entries.filterMap fun entry => (entry.2.lower ns entry.1).toOption := by
  induction entries with
  | nil => rfl
  | cons entry rest ih =>
    cases lowered : entry.2.lower ns entry.1 <;>
      simp [lowerTables, lowered, ih, Except.toOption]

theorem tables_lower (declaration : Declaration) (defaultHints : HintSet) :
    (declaration.lower defaultHints).definition.tables =
      declaration.tables.filterMap fun entry =>
        (entry.2.lower declaration.namespaceName entry.1).toOption :=
  fst_lowerTables declaration.namespaceName declaration.tables

/-- A declaration repeats an entry, with the violation that tells so: a table of which two entries
lower, or a column of a table that lowers. -/
inductive Repeats (declaration : Declaration) : Violation → Prop
  | table {name : String} {first second : TableDeclaration} {table table' : Table}
      (twice : [(name, first), (name, second)].Sublist declaration.tables)
      (lowers : first.lower declaration.namespaceName name = .ok table)
      (lowers' : second.lower declaration.namespaceName name = .ok table') :
      Repeats declaration (.duplicateTable declaration.namespaceName name)
  | column {name column type type' : String} {body : FullTable} {table : Table}
      (declared : (name, .full body) ∈ declaration.tables)
      (lowers : (TableDeclaration.full body).lower declaration.namespaceName name = .ok table)
      (twice : [(column, type), (column, type')].Sublist body.schema) :
      Repeats declaration (.duplicateColumn declaration.namespaceName name column)

theorem Repeats.mem_violations {declaration : Declaration} {violation : Violation}
    (repeats : declaration.Repeats violation) (defaultHints : HintSet) :
    violation ∈ (declaration.lower defaultHints).definition.violations := by
  have tables := declaration.tables_lower defaultHints
  cases repeats with
  | @table name first second table table' twice lowers lowers' =>
    have kept := twice.filterMap fun entry =>
      (entry.2.lower declaration.namespaceName entry.1).toOption
    rw [← tables] at kept
    simp only [List.filterMap_cons, lowers, lowers', Except.toOption, List.filterMap_nil] at kept
    have named := (TableDeclaration.lower_eq_ok_iff.1 lowers).name_eq
    have named' := (TableDeclaration.lower_eq_ok_iff.1 lowers').name_eq
    rw [← named']
    exact Namespace.duplicateTable_mem_violations kept (named.trans named'.symm)
  | @column name column type type' body table declared lowers twice =>
    have means := TableDeclaration.lower_eq_ok_iff.1 lowers
    have member : table ∈ (declaration.lower defaultHints).definition.tables := by
      rw [tables, List.mem_filterMap]
      exact ⟨_, declared, by rw [lowers]; rfl⟩
    have kept : [⟨column, type⟩, ⟨column, type'⟩].Sublist table.columns := by
      rw [means.columns_eq]
      exact twice.map fun column => Column.mk column.1 column.2
    rw [← means.name_eq]
    exact Namespace.duplicateColumn_mem_violations member kept rfl

end Declaration

end TableSchema
