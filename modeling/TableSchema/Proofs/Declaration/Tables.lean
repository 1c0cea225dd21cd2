import TableSchema.Declaration.Basic

set_option autoImplicit false

namespace TableSchema

inductive Persists : Option String → Bool → Prop
  | absent : Persists none true
  | table : Persists (some "table") true
  | offchainTable : Persists (some "offchainTable") false

namespace FullTable

variable {body : FullTable}

theorem persisted_eq_ok_iff {persisted : Bool} :
    body.persisted = .ok persisted ↔ Persists body.tableType persisted := by
  obtain ⟨schema, key, type, codegen⟩ := body
  constructor
  · intro known
    cases type with
    | none =>
      obtain rfl : true = persisted := Except.ok.inj known
      exact .absent
    | some type =>
      simp only [FullTable.persisted] at known
      split at known
      · rename_i table
        obtain rfl : true = persisted := Except.ok.inj known
        rw [table]
        exact .table
      · split at known
        · rename_i offchain
          obtain rfl : false = persisted := Except.ok.inj known
          rw [offchain]
          exact .offchainTable
        · cases known
  · intro kind
    cases kind with
    | absent => rfl
    | table => rfl
    | offchainTable => rfl

theorem persisted_eq_error_iff {type : String} :
    body.persisted = .error type ↔
      body.tableType = some type ∧ type ≠ "table" ∧ type ≠ "offchainTable" := by
  constructor
  · intro unknown
    unfold FullTable.persisted at unknown
    split at unknown
    · cases unknown
    · rename_i given
      split at unknown
      · cases unknown
      · rename_i notTable
        split at unknown
        · cases unknown
        · rename_i notOffchain
          obtain rfl := Except.error.inj unknown
          exact ⟨given, notTable, notOffchain⟩
  · rintro ⟨given, notTable, notOffchain⟩
    rw [FullTable.persisted, given]
    simp only [TableSchema.tableType, offchainTableType, notTable, notOffchain, if_false]

/-- A table of one value under an id of 32 bytes, declared in full. -/
def valueUnderId (valueType : String) : FullTable where
  schema := [("id", "bytes32"), ("value", valueType)]
  key := ["id"]
  tableType := none
  codegen := Options.empty

end FullTable

namespace TableDeclaration

def body : TableDeclaration → FullTable
  | .shorthand valueType => .valueUnderId valueType
  | .full body => body

def HasKnownType : TableDeclaration → Prop
  | .shorthand _ => True
  | .full body => body.tableType ∈ [none, some "table", some "offchainTable"]

instance : DecidablePred HasKnownType
  | .shorthand _ => inferInstanceAs (Decidable True)
  | .full body =>
    inferInstanceAs (Decidable (body.tableType ∈ [none, some "table", some "offchainTable"]))

/-- The definition that a declared table of the given name means. -/
inductive Means (name : String) : TableDeclaration → Table → Prop
  | shorthand (valueType : String) :
      Means name (.shorthand valueType)
        ⟨name, [⟨"id", "bytes32"⟩, ⟨"value", valueType⟩], ["id"], true, Options.empty⟩
  | full {body : FullTable} {persisted : Bool} (kind : Persists body.tableType persisted) :
      Means name (.full body)
        ⟨name, body.schema.map fun column => ⟨column.1, column.2⟩, body.key, persisted,
          body.codegen⟩

/-- The error with which a declared table of the given name is refused. -/
inductive FailsWith (ns name : String) : TableDeclaration → DeclarationError → Prop
  | unknownType {body : FullTable} {type : String} (given : body.tableType = some type)
      (notTable : type ≠ "table") (notOffchain : type ≠ "offchainTable") :
      FailsWith ns name (.full body) (.unknownTableType ns name type)

variable {declaration : TableDeclaration} {ns name : String}

theorem Means.name_eq {table : Table} (means : declaration.Means name table) :
    table.name = name := by
  cases means <;> rfl

theorem Means.columns_eq {table : Table} (means : declaration.Means name table) :
    table.columns = declaration.body.schema.map fun column => ⟨column.1, column.2⟩ := by
  cases means <;> rfl

theorem Means.codegen_eq {table : Table} (means : declaration.Means name table) :
    table.codegen = declaration.body.codegen := by
  cases means <;> rfl

theorem Means.hasKnownType {table : Table} (means : declaration.Means name table) :
    declaration.HasKnownType := by
  cases means with
  | shorthand valueType => trivial
  | full kind =>
    rw [HasKnownType]
    -- The type is a field of the body; as a variable it can be told apart by its kind.
    generalize FullTable.tableType _ = type at kind
    cases kind <;> simp

theorem FailsWith.not_hasKnownType {e : DeclarationError}
    (fails : declaration.FailsWith ns name e) : ¬ declaration.HasKnownType := by
  cases fails with
  | unknownType given notTable notOffchain =>
    rw [HasKnownType, given]
    simp [notTable, notOffchain]

theorem lower_eq_ok_iff {table : Table} :
    declaration.lower ns name = .ok table ↔ declaration.Means name table := by
  constructor
  · intro lowered
    cases declaration with
    | shorthand valueType =>
      rw [← Except.ok.inj lowered]
      exact .shorthand valueType
    | full body =>
      cases known : body.persisted with
      | error type => simp [lower, known] at lowered
      | ok persisted =>
        simp only [lower, known, Except.ok.injEq] at lowered
        rw [← lowered]
        exact .full (FullTable.persisted_eq_ok_iff.1 known)
  · intro means
    cases means with
    | shorthand valueType => rfl
    | full kind =>
      have known := FullTable.persisted_eq_ok_iff.2 kind
      simp only [lower, known]

theorem lower_eq_error_iff {e : DeclarationError} :
    declaration.lower ns name = .error e ↔ declaration.FailsWith ns name e := by
  constructor
  · intro lowered
    cases declaration with
    | shorthand valueType => cases lowered
    | full body =>
      cases known : body.persisted with
      | error type =>
        obtain ⟨given, notTable, notOffchain⟩ := FullTable.persisted_eq_error_iff.1 known
        simp only [lower, known, Except.error.injEq] at lowered
        rw [← lowered]
        exact .unknownType given notTable notOffchain
      | ok persisted => simp [lower, known] at lowered
  · intro fails
    cases fails with
    | unknownType given notTable notOffchain =>
      have unknown := FullTable.persisted_eq_error_iff.2 ⟨given, notTable, notOffchain⟩
      simp only [lower, unknown]

end TableDeclaration

end TableSchema
