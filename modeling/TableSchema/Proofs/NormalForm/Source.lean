import TableSchema.Proofs.NormalForm

set_option autoImplicit false

namespace TableSchema

/-- The column with its type written out. -/
def TypedColumn.source (column : TypedColumn) : Column :=
  ⟨column.name, column.type.name⟩

def NormalTable.source (table : NormalTable) : Table where
  name := table.name
  columns := table.columns.map TypedColumn.source
  key := table.keySchema.map (·.name)
  persisted := table.persisted
  codegen := table.codegen

/-- The declaration of a namespace, read from its normal form and the hints that it recognizes. The
definition that is kept beside the normal form is not looked at. -/
def NormalNamespace.source (compiled : NormalNamespace) (recognizedHints : HintSet) :
    Namespace where
  name := compiled.name
  tables := compiled.tables.map NormalTable.source
  deploy := compiled.deploy
  recognizedHints := recognizedHints

theorem TypedColumn.Resolves.source_eq {typed : TypedColumn} {column : Column}
    (resolved : typed.Resolves column) : typed.source = column := by
  obtain ⟨name, known⟩ := resolved
  -- A type has one name, so the column was declared with this one.
  have typeName := (ColumnType.ofName?_eq_some_iff.1 known).2
  rw [TypedColumn.source, name, ← typeName]

theorem NormalTable.Keeps.source_eq {normal : NormalTable} {table : Table}
    (keeps : normal.Keeps table) : normal.source = table := by
  have columns : normal.columns.map TypedColumn.source = table.columns := by
    rw [← List.forall₂_eq_eq_eq, List.forall₂_map_left_iff]
    exact keeps.columns.imp fun _ _ resolved => resolved.source_eq
  rw [NormalTable.source, keeps.name, columns, keeps.key, keeps.persisted, keeps.codegen]

namespace Namespace

theorem source_eq_of_validate_eq_ok {ns : Namespace} {compiled : NormalNamespace}
    (accepted : ns.validate = .ok compiled) : compiled.source ns.recognizedHints = ns := by
  obtain ⟨silent, rfl⟩ := validate_eq_ok_iff.1 accepted
  have wellFormed := violations_eq_nil_iff.1 silent
  have tables : ns.normalForm.tables.map NormalTable.source = ns.tables := by
    have each : ∀ table ∈ ns.tables,
        (NormalTable.ofTable ns.name table table.typedColumns).source = table :=
      fun table member => ((wellFormed.tables table member).keeps ns.name).source_eq
    calc
      _ = ns.tables.map fun table =>
          (NormalTable.ofTable ns.name table table.typedColumns).source := List.map_map
      _ = ns.tables.map id := List.map_congr_left each
      _ = ns.tables := List.map_id ns.tables
  rw [NormalNamespace.source, tables]
  rfl

/-- Writing out the normal form of a namespace that keeps the rules gives the namespace back, which
compiles as before. So the normal form, with the recognized hints, tells everything declared. -/
theorem normalForm_determines_source {ns : Namespace} {compiled : NormalNamespace}
    (accepted : ns.validate = .ok compiled) :
    compiled.source ns.recognizedHints = ns ∧
      (compiled.source ns.recognizedHints).validate = .ok compiled ∧
      ∀ (other : Namespace) (otherCompiled : NormalNamespace),
        other.validate = .ok otherCompiled → other.recognizedHints = ns.recognizedHints →
        otherCompiled.name = compiled.name → otherCompiled.deploy = compiled.deploy →
        otherCompiled.tables = compiled.tables → other = ns := by
  have source := source_eq_of_validate_eq_ok accepted
  refine ⟨source, by rwa [source], ?_⟩
  intro other otherCompiled otherAccepted hints name deploy tables
  calc
    other = otherCompiled.source other.recognizedHints :=
      (source_eq_of_validate_eq_ok otherAccepted).symm
    _ = compiled.source ns.recognizedHints := by
      rw [NormalNamespace.source, NormalNamespace.source, hints, name, deploy, tables]
    _ = ns := source

theorem inventory_from_normalForm :
    inventory.validate = .ok inventory.normalForm ∧
      inventory.normalForm.source .default = inventory ∧
      (inventory.normalForm.source .default).validate = .ok inventory.normalForm ∧
      ∀ (other : Namespace) (otherCompiled : NormalNamespace),
        other.validate = .ok otherCompiled → other.recognizedHints = .default →
        otherCompiled.name = inventory.normalForm.name →
        otherCompiled.deploy = inventory.normalForm.deploy →
        otherCompiled.tables = inventory.normalForm.tables → other = inventory := by
  have accepted : inventory.validate = .ok inventory.normalForm := by decide +kernel
  exact ⟨accepted, normalForm_determines_source accepted⟩

end Namespace

end TableSchema
