import TableSchema.Proofs.NormalForm

set_option autoImplicit false

namespace TableSchema

/-- The violations that a verdict tells; where the namespace is compiled there are none. -/
def Verdict.violations : Verdict → List Violation
  | .ok _ => []
  | .error found => found

namespace Namespace

theorem violations_validate (ns : Namespace) : ns.validate.violations = ns.violations := by
  cases verdict : ns.validate with
  | ok compiled => exact (validate_eq_ok_iff.1 verdict).1.symm
  | error found => exact (validate_eq_error_iff.1 verdict).1

def appending (ns : Namespace) (further : List Table) : Namespace :=
  { ns with tables := ns.tables ++ further }

/-- What is wrong with further tables, each after the tables of the namespace and the further ones
before it. -/
def furtherFindings (ns : Namespace) (further : List Table) : List Violation :=
  (further.mapIdx fun i table =>
    ns.tableFindings (ns.tables ++ further.take i) table).flatten

theorem tableFindings_appending (ns : Namespace) (further earlier : List Table) (table : Table) :
    (ns.appending further).tableFindings earlier table = ns.tableFindings earlier table :=
  rfl

theorem findings_appending (ns : Namespace) (further : List Table) :
    (ns.appending further).findings = ns.findings ++ ns.furtherFindings further := by
  have earlier : (ns.tables.mapIdx fun i table =>
        ns.tableFindings ((ns.tables ++ further).take i) table) =
      ns.tables.mapIdx fun i table => ns.tableFindings (ns.tables.take i) table := by
    rw [List.mapIdx_eq_mapIdx_iff]
    intro i h
    rw [List.take_append_of_le_length h.le]
  have later : (further.mapIdx fun i table =>
        ns.tableFindings ((ns.tables ++ further).take (i + ns.tables.length)) table) =
      further.mapIdx fun i table => ns.tableFindings (ns.tables ++ further.take i) table := by
    rw [List.mapIdx_eq_mapIdx_iff]
    intro i _
    rw [Nat.add_comm, List.take_length_add_append]
  simp only [findings, tableFindings_appending]
  rw [appending, List.mapIdx_append, List.flatten_append, earlier, later, furtherFindings]

theorem violations_appending (ns : Namespace) (further : List Table) :
    (ns.appending further).violations = ns.violations ++ ns.furtherFindings further := by
  rw [violations_eq_findings, findings_appending, violations_eq_findings]

theorem tables_normalForm_appending (ns : Namespace) (further : List Table) :
    (ns.appending further).normalForm.tables =
      ns.normalForm.tables ++ further.map fun table =>
        NormalTable.ofTable ns.name table table.typedColumns :=
  List.map_append

/-- Tables added at the end leave the violations told so far at the beginning of the list, and where
the namespace compiles with them, it compiles without them to the same tables up to theirs. -/
theorem validate_appending (ns : Namespace) (further : List Table) :
    ns.validate.violations <+: (ns.appending further).validate.violations ∧
      ∀ compiled, (ns.appending further).validate = .ok compiled →
        ∃ earlier, ns.validate = .ok earlier ∧
          earlier.tables = compiled.tables.take ns.tables.length := by
  refine ⟨?_, ?_⟩
  · rw [violations_validate, violations_validate, violations_appending]
    exact List.prefix_append _ _
  · intro compiled accepted
    obtain ⟨silent, rfl⟩ := validate_eq_ok_iff.1 accepted
    rw [violations_appending, List.append_eq_nil_iff] at silent
    have length : ns.normalForm.tables.length = ns.tables.length := List.length_map _
    refine ⟨ns.normalForm, validate_eq_ok_iff.2 ⟨silent.1, rfl⟩, ?_⟩
    rw [tables_normalForm_appending, ← length, List.take_left]

def inventoryBegun : Namespace :=
  { inventory with tables := inventory.tables.dropLast }

theorem inventoryBegun_compiles :
    inventoryBegun.appending (inventory.tables.drop 1) = inventory ∧
      inventory.validate = .ok inventory.normalForm ∧
      ∃ earlier, inventoryBegun.validate = .ok earlier ∧
        earlier.tables = inventory.normalForm.tables.take 1 := by
  have accepted : (inventoryBegun.appending (inventory.tables.drop 1)).validate =
      .ok inventory.normalForm := by decide +kernel
  exact ⟨rfl, accepted, (validate_appending inventoryBegun _).2 _ accepted⟩

end Namespace

end TableSchema
