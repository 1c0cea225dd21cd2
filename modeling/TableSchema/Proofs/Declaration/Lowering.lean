import Mathlib.Data.List.Forall2
import TableSchema.Proofs.Declaration.Hints
import TableSchema.Proofs.Declaration.Rendering
import TableSchema.Proofs.Declaration.Tables

set_option autoImplicit false

namespace TableSchema

/-- What a lowering holds of a declaration: its name and its deploy options, the definition of each
table of a known type, and an error for each of the other tables. -/
structure Lowering.Covers (lowered : Lowering) (declaration : Declaration) : Prop where
  name : lowered.definition.name = declaration.namespaceName
  deploy : lowered.definition.deploy = declaration.deploy
  kept : List.Forall₂ (fun entry table => entry.2.Means entry.1 table)
    (declaration.tables.filter fun entry => entry.2.HasKnownType) lowered.definition.tables
  refused : List.Forall₂
    (fun entry e => entry.2.FailsWith declaration.namespaceName entry.1 e)
    (declaration.tables.filter fun entry => ¬ entry.2.HasKnownType) lowered.errors
  count : lowered.definition.tables.length + lowered.errors.length = declaration.tables.length

namespace Declaration

/-- Entries sorted into the definitions of the tables that are kept and the errors of those that
are refused. -/
inductive Sorts (ns : String) :
    List (String × TableDeclaration) → List Table → List DeclarationError → Prop
  | nil : Sorts ns [] [] []
  | kept {name : String} {declaration : TableDeclaration} {table : Table}
      {entries : List (String × TableDeclaration)} {tables : List Table}
      {errors : List DeclarationError} (means : declaration.Means name table)
      (others : Sorts ns entries tables errors) :
      Sorts ns ((name, declaration) :: entries) (table :: tables) errors
  | refused {name : String} {declaration : TableDeclaration} {e : DeclarationError}
      {entries : List (String × TableDeclaration)} {tables : List Table}
      {errors : List DeclarationError} (fails : declaration.FailsWith ns name e)
      (others : Sorts ns entries tables errors) :
      Sorts ns ((name, declaration) :: entries) tables (e :: errors)

namespace Sorts

variable {ns : String} {entries : List (String × TableDeclaration)} {tables : List Table}
  {errors : List DeclarationError}

theorem forall₂_kept (sorts : Sorts ns entries tables errors) :
    List.Forall₂ (fun entry table => entry.2.Means entry.1 table)
      (entries.filter fun entry => entry.2.HasKnownType) tables := by
  induction sorts with
  | nil => exact .nil
  | kept means _ ih =>
    rw [List.filter_cons_of_pos (by simpa using means.hasKnownType)]
    exact .cons means ih
  | refused fails _ ih =>
    rw [List.filter_cons_of_neg (by simpa using fails.not_hasKnownType)]
    exact ih

theorem forall₂_refused (sorts : Sorts ns entries tables errors) :
    List.Forall₂ (fun entry e => entry.2.FailsWith ns entry.1 e)
      (entries.filter fun entry => ¬ entry.2.HasKnownType) errors := by
  induction sorts with
  | nil => exact .nil
  | kept means _ ih =>
    rw [List.filter_cons_of_neg (by simpa using means.hasKnownType)]
    exact ih
  | refused fails _ ih =>
    rw [List.filter_cons_of_pos (by simpa using fails.not_hasKnownType)]
    exact .cons fails ih

theorem length_eq (sorts : Sorts ns entries tables errors) :
    tables.length + errors.length = entries.length := by
  induction sorts with
  | nil => rfl
  | kept _ _ ih =>
    simp only [List.length_cons]
    omega
  | refused _ _ ih =>
    simp only [List.length_cons]
    omega

end Sorts

theorem sorts_lowerTables (ns : String) (entries : List (String × TableDeclaration)) :
    Sorts ns entries (lowerTables ns entries).1 (lowerTables ns entries).2 := by
  induction entries with
  | nil => exact .nil
  | cons entry rest ih =>
    -- An entry goes to the one part or to the other, in front of what the rest brings there.
    obtain ⟨name, declaration⟩ := entry
    cases lowered : declaration.lower ns name with
    | ok table =>
      simp only [lowerTables, lowered]
      exact .kept (TableDeclaration.lower_eq_ok_iff.1 lowered) ih
    | error e =>
      simp only [lowerTables, lowered]
      exact .refused (TableDeclaration.lower_eq_error_iff.1 lowered) ih

theorem covers_lower (declaration : Declaration) (defaultHints : HintSet) :
    (declaration.lower defaultHints).Covers declaration := by
  have sorts := sorts_lowerTables declaration.namespaceName declaration.tables
  exact ⟨rfl, rfl, sorts.forall₂_kept, sorts.forall₂_refused, sorts.length_eq⟩

section EntryPoints

variable {declaration : Declaration} {defaultHints : HintSet}

theorem toNamespace_cases (declaration : Declaration) (defaultHints : HintSet) :
    ((declaration.lower defaultHints).errors = [] ∧
      declaration.toNamespace defaultHints = .ok (declaration.lower defaultHints).definition) ∨
    ((declaration.lower defaultHints).errors ≠ [] ∧
      declaration.toNamespace defaultHints = .error (declaration.lower defaultHints).errors) := by
  unfold toNamespace
  by_cases complete : (declaration.lower defaultHints).errors = []
  · have whole := Lowering.isComplete_iff.2 complete
    exact Or.inl ⟨complete, if_pos whole⟩
  · have partly : ¬ (declaration.lower defaultHints).isComplete = true := by
      rwa [Lowering.isComplete_iff]
    exact Or.inr ⟨complete, if_neg partly⟩

theorem toNamespace_eq_ok_iff {ns : Namespace} :
    declaration.toNamespace defaultHints = .ok ns ↔
      (declaration.lower defaultHints).errors = [] ∧
        ns = (declaration.lower defaultHints).definition := by
  rcases toNamespace_cases declaration defaultHints with ⟨complete, made⟩ | ⟨partly, failed⟩
  · rw [made]
    simp [complete, eq_comm]
  · rw [failed]
    simp [partly]

theorem toNamespace_eq_error_iff {errors : List DeclarationError} :
    declaration.toNamespace defaultHints = .error errors ↔
      (declaration.lower defaultHints).errors ≠ [] ∧
        errors = (declaration.lower defaultHints).errors := by
  rcases toNamespace_cases declaration defaultHints with ⟨complete, made⟩ | ⟨partly, failed⟩
  · rw [made]
    simp [complete]
  · rw [failed]
    simp [partly, eq_comm]

end EntryPoints

end Declaration

namespace TableDeclaration

/-- The second declaration is the first one, or the first one written out in full. -/
inductive WritesOut : TableDeclaration → TableDeclaration → Prop
  | shorthand (valueType : String) :
      WritesOut (.shorthand valueType) (.full (.valueUnderId valueType))
  | same (declaration : TableDeclaration) : WritesOut declaration declaration

theorem WritesOut.lower_eq {declaration other : TableDeclaration}
    (writes : declaration.WritesOut other) (ns name : String) :
    declaration.lower ns name = other.lower ns name := by
  cases writes with
  | shorthand valueType =>
    -- Both mean the same table.
    have short : Means name (.shorthand valueType) _ := .shorthand valueType
    have long : Means name (.full (.valueUnderId valueType)) _ := .full .absent
    rw [lower_eq_ok_iff.2 short, lower_eq_ok_iff.2 long]
    rfl
  | same => rfl

theorem reads_shorthand (valueType : String) :
    reader.Reads (.text valueType) (.shorthand valueType) :=
  reads_reader (.shorthand valueType)

theorem reads_valueUnderId (valueType : String) :
    reader.Reads
      (.object [("schema", .object [("id", .text "bytes32"), ("value", .text valueType)]),
        ("key", .array [.text "id"])])
      (.full (.valueUnderId valueType)) := by
  have written : FullTable.Written (.valueUnderId valueType) _ :=
    .object (.given rfl) (.given rfl) (.omitted rfl) (.omitted rfl) (.refl _)
  exact reads_reader (.full written)

end TableDeclaration

namespace Declaration

/-- The second declaration is the first one with some of its tables written out in full. -/
inductive WritesOut (declaration : Declaration) : Declaration → Prop
  | tables {tables : List (String × TableDeclaration)}
      (each : List.Forall₂ (fun entry other => entry.1 = other.1 ∧ entry.2.WritesOut other.2)
        declaration.tables tables) :
      WritesOut declaration { declaration with tables }

theorem lowerTables_eq_of_writesOut (ns : String)
    {entries others : List (String × TableDeclaration)}
    (each : List.Forall₂ (fun entry other => entry.1 = other.1 ∧ entry.2.WritesOut other.2)
      entries others) :
    lowerTables ns entries = lowerTables ns others := by
  induction each with
  | nil => rfl
  | @cons entry other rest rest' first _ ih =>
    obtain ⟨name, declaration⟩ := entry
    obtain ⟨name', declaration'⟩ := other
    obtain ⟨rfl, writes⟩ := first
    rw [lowerTables, lowerTables, writes.lower_eq, ih]

theorem WritesOut.lower_eq {declaration other : Declaration} (writes : declaration.WritesOut other)
    (defaultHints : HintSet) : declaration.lower defaultHints = other.lower defaultHints := by
  cases writes with
  | tables each => rw [lower, lower, lowerTables_eq_of_writesOut _ each]

theorem WritesOut.toNamespace_eq {declaration other : Declaration}
    (writes : declaration.WritesOut other) (defaultHints : HintSet) :
    declaration.toNamespace defaultHints = other.toNamespace defaultHints := by
  rw [toNamespace, toNamespace, writes.lower_eq]

/-- Lowering keeps every table of a known type, refuses every other and makes up none, and a
declaration is made a namespace just if no table is refused. A table of which only the value type
is declared lowers and builds like the table with that value under an id, which is what an object
with these two members declares. -/
theorem lowering_covers_tables :
    (∀ (declaration : Declaration) (defaultHints : HintSet),
      (declaration.lower defaultHints).Covers declaration ∧
      (∀ ns, declaration.toNamespace defaultHints = .ok ns ↔
        (declaration.lower defaultHints).errors = [] ∧
          ns = (declaration.lower defaultHints).definition) ∧
      ∀ errors, declaration.toNamespace defaultHints = .error errors ↔
        (declaration.lower defaultHints).errors ≠ [] ∧
          errors = (declaration.lower defaultHints).errors) ∧
    (∀ valueType : String,
      TableDeclaration.reader.Reads (.text valueType) (.shorthand valueType) ∧
      TableDeclaration.reader.Reads
        (.object [("schema", .object [("id", .text "bytes32"), ("value", .text valueType)]),
          ("key", .array [.text "id"])])
        (.full (.valueUnderId valueType))) ∧
    ∀ (declarations others : List Declaration) (defaultHints : HintSet),
      List.Forall₂ WritesOut declarations others →
      List.Forall₂
        (fun declaration other =>
          declaration.lower defaultHints = other.lower defaultHints ∧
            declaration.toNamespace defaultHints = other.toNamespace defaultHints)
        declarations others ∧
      ∀ (options : BuildOptions) (errors : List DeclarationError),
        Build.ofLoaded options ⟨declarations, errors⟩ defaultHints =
          Build.ofLoaded options ⟨others, errors⟩ defaultHints := by
  refine ⟨?_, ?_, ?_⟩
  · intro declaration defaultHints
    exact ⟨covers_lower declaration defaultHints, fun _ => toNamespace_eq_ok_iff,
      fun _ => toNamespace_eq_error_iff⟩
  · intro valueType
    exact ⟨TableDeclaration.reads_shorthand valueType,
      TableDeclaration.reads_valueUnderId valueType⟩
  · intro declarations others defaultHints each
    constructor
    · refine each.imp ?_
      intro declaration other writes
      exact ⟨writes.lower_eq defaultHints, writes.toNamespace_eq defaultHints⟩
    · intro options errors
      have lowered := each.imp fun _ _ writes => writes.lower_eq defaultHints
      exact Build.ofLoaded_congr options lowered errors

def depot : Declaration where
  namespaceName := "depot"
  tables := [("Crate", .shorthand "uint32"),
    ("Arrival", .full ⟨[("note", "string")], [], some "offchainTable", Options.empty⟩),
    ("Draft", .full ⟨[("id", "bool")], ["id"], some "ephemeral", Options.empty⟩),
    ("Crate", .shorthand "box"),
    ("Draft", .full ⟨[], [], some "Table", Options.empty⟩)]
  deploy := .ofMembers [("gas", .ofNat 7)]
  codegenHints := none

def quay : Declaration where
  namespaceName := "quay"
  tables := [("Berth", .shorthand "address"), ("Tide", .shorthand "int16")]
  deploy := Options.empty
  codegenHints := some []

def depotWrittenOut : Declaration :=
  { depot with
    tables := ("Crate", .full (.valueUnderId "uint32")) :: depot.tables.drop 1 }

def quayWrittenOut : Declaration :=
  { quay with
    tables := [("Berth", .full (.valueUnderId "address")),
      ("Tide", .full (.valueUnderId "int16"))] }

theorem depot_and_quay_written_out :
    List.Forall₂ WritesOut [depot, quay] [depotWrittenOut, quayWrittenOut] ∧
      (depot.lower .default).definition.tables.map (fun table => (table.name, table.persisted)) =
        [("Crate", true), ("Arrival", false), ("Crate", true)] ∧
      (depot.lower .default).errors =
        [.unknownTableType "depot" "Draft" "ephemeral",
          .unknownTableType "depot" "Draft" "Table"] ∧
      (Build.ofLoaded .default ⟨[depot, quay], []⟩ .default).value.registry.namespaces.map
        (·.name) = ["quay"] ∧
      Build.ofLoaded .default ⟨[depot, quay], []⟩ .default =
        Build.ofLoaded .default ⟨[depotWrittenOut, quayWrittenOut], []⟩ .default := by
  have depotTables : depot.WritesOut depotWrittenOut := by
    refine .tables (.cons ⟨rfl, .shorthand "uint32"⟩ ?_)
    exact List.forall₂_same.2 fun entry _ => ⟨rfl, .same entry.2⟩
  have quayTables : quay.WritesOut quayWrittenOut :=
    .tables (.cons ⟨rfl, .shorthand "address"⟩ (.cons ⟨rfl, .shorthand "int16"⟩ .nil))
  have each : List.Forall₂ WritesOut [depot, quay] [depotWrittenOut, quayWrittenOut] :=
    .cons depotTables (.cons quayTables .nil)
  refine ⟨each, by decide, by decide, by decide +kernel, ?_⟩
  exact (lowering_covers_tables.2.2 _ _ .default each).2 .default []

end Declaration

end TableSchema
