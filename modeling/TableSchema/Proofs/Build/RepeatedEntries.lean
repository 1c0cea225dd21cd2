import TableSchema.Proofs.Build.Records
import TableSchema.Proofs.Declaration.Entries
import TableSchema.Proofs.Declaration.Repeats

set_option autoImplicit false

namespace TableSchema

theorem Namespace.validate_ne_ok {ns : Namespace} {violation : Violation}
    (broken : violation ∈ ns.violations) (compiled : NormalNamespace) :
    ns.validate ≠ .ok compiled := by
  intro accepted
  rw [(validate_eq_ok_iff.1 accepted).1] at broken
  cases broken

namespace Registry

variable {registry : Registry} {lowered : Lowering} {fate : Fate} {violation : Violation}

theorem FateCase.isRegistered_of_violation (outcome : FateCase registry lowered fate)
    (broken : violation ∈ lowered.definition.violations) : fate.isRegistered = false := by
  cases outcome with
  | registered _ accepted => exact absurd accepted (Namespace.validate_ne_ok broken _)
  | _ => rfl

theorem FateCase.violation_told (outcome : FateCase registry lowered fate) (sound : registry.Sound)
    (broken : violation ∈ lowered.definition.violations)
    (heard : lowered.isComplete = false ∨ ∀ stored ∈ registry.namespaces,
      namespaceSlot stored.name ≠ namespaceSlot lowered.definition.name) :
    ∃ failure ∈ fate.failures, violation ∈ failure.violations := by
  cases outcome with
  | registered _ accepted | partlyValid _ accepted =>
    exact absurd accepted (Namespace.validate_ne_ok broken _)
  | partlyInvalid _ refused =>
    rw [← (Namespace.validate_eq_error_iff.1 refused).1] at broken
    exact ⟨_, List.mem_singleton_self _, broken⟩
  | @refused e complete answered =>
    have apart := heard.resolve_left (by simp [Lowering.isComplete, complete])
    have answer := sound.registrationCase lowered.definition
    rw [Registry.answer_register] at answered
    rw [answered] at answer
    refine ⟨_, List.mem_singleton_self _, ?_⟩
    cases answer with
    | duplicate known =>
      obtain ⟨stored, member, same⟩ := known
      exact absurd (congrArg namespaceSlot same) (apart stored member)
    | collision _ _ taken =>
      obtain ⟨stored, member, _, same⟩ := taken
      exact absurd same (apart stored member)
    | invalid found _ _ refused =>
      rw [← (Namespace.validate_eq_error_iff.1 refused).1] at broken
      exact broken

theorem getElem?_fates (registry : Registry) {lowered : List Lowering} {i : Nat} {one : Lowering}
    (there : lowered[i]? = some one) :
    (registry.fates lowered)[i]? =
      some (((registry.fates (lowered.take i)).foldl keep registry).fate one) := by
  induction lowered generalizing registry i with
  | nil => cases there
  | cons first rest ih =>
    cases i with
    | zero =>
      obtain rfl := Option.some.inj there
      rfl
    | succ i => exact ih (registry.keep (registry.fate first)) there

end Registry

theorem BuildReport.registry_ofFates (errors : List DeclarationError) (fates : List Fate) :
    (ofFates errors fates).registry = fates.foldl Registry.keep Registry.empty := by
  rw [ofFates, List.foldl_flatMap]
  rfl

namespace Build

theorem getElem?_fates (options : BuildOptions) (errors : List DeclarationError)
    {lowered : List Lowering} {i : Nat} {one : Lowering} (there : lowered[i]? = some one) :
    (fates lowered)[i]? =
      some ((ofLowerings options (lowered.take i) errors).value.registry.fate one) := by
  rw [value_ofLowerings_eq_ofFates, BuildReport.registry_ofFates]
  exact Registry.empty.getElem?_fates there

end Build

/-- What a report tells of a violation in one of its namespaces; `before` and `after` are the
reports on the namespaces before it, without it and with it. -/
structure BuildReport.Exposes (whole before after : BuildReport) (lowered : Lowering)
    (violation : Violation) : Prop where
  unchanged : after.registry = before.registry
  earlier : before.registry.namespaces <+: whole.registry.namespaces
  absent : ∀ stored ∈ whole.registry.namespaces, stored.definition ≠ lowered.definition
  told : (lowered.isComplete = false ∨ ∀ stored ∈ before.registry.namespaces,
      namespaceSlot stored.name ≠ namespaceSlot lowered.definition.name) →
    violation ∈ whole.violations

namespace Build

theorem exposes_of_violation (options : BuildOptions) (errors : List DeclarationError)
    {lowered : List Lowering} {i : Nat} {one : Lowering} (there : lowered[i]? = some one)
    {violation : Violation} (broken : violation ∈ one.definition.violations) :
    (ofLowerings options lowered errors).value.Exposes
      (ofLowerings options (lowered.take i) errors).value
      (ofLowerings options (lowered.take (i + 1)) errors).value one violation := by
  have outcome := (ofLowerings options (lowered.take i) errors).value.registry.fateCase one
  have outside := outcome.isRegistered_of_violation broken
  have met := getElem?_fates options errors there
  have taken (n : Nat) : fates (lowered.take n) = (fates lowered).take n :=
    Registry.fates_take Registry.empty lowered n
  constructor
  · rw [value_ofLowerings_eq_ofFates, value_ofLowerings_eq_ofFates, BuildReport.registry_ofFates,
      BuildReport.registry_ofFates, taken, taken, List.take_add_one, met, List.foldl_append]
    exact Registry.keep_of_not_isRegistered _ outside
  · rw [value_ofLowerings_eq_ofFates, value_ofLowerings_eq_ofFates, BuildReport.namespaces_ofFates,
      BuildReport.namespaces_ofFates, taken, Fate.flatMap_eq_of_getElem? Fate.stored met,
      List.append_assoc]
    exact List.prefix_append _ _
  · intro stored member same
    have accepted := (sound_registry options lowered errors).compiled stored member
    rw [same] at accepted
    exact Namespace.validate_ne_ok broken stored accepted
  · intro heard
    obtain ⟨failure, told, mem⟩ :=
      outcome.violation_told (sound_registry options (lowered.take i) errors) broken heard
    rw [value_ofLowerings_eq_ofFates]
    refine List.mem_flatMap.2 ⟨failure, ?_, mem⟩
    exact List.mem_flatMap.2 ⟨_, List.mem_of_getElem? met, told⟩

/-- Every table and every column that a document holds is an entry of its declaration. A declaration
that repeats one is not compiled into the registry, and the report tells of the repeat unless the
declaration lowers completely and its name or its slot is taken by one before it. -/
theorem repeated_entries_reach_report (options : BuildOptions) (defaultHints : HintSet)
    {text : String} {declarations : List Declaration}
    (read : Declaration.ofText text = .ok declarations) :
    Declaration.ReadTogether (Document.ofText text).root declarations ∧
      ∀ i declaration, declarations[i]? = some declaration →
        ∀ violation, declaration.Repeats violation →
          (ofDeclarations options declarations defaultHints).value.Exposes
            (ofDeclarations options (declarations.take i) defaultHints).value
            (ofDeclarations options (declarations.take (i + 1)) defaultHints).value
            (declaration.lower defaultHints) violation := by
  refine ⟨Declaration.readTogether_of_ofText read, ?_⟩
  intro i declaration there violation repeats
  have lowers : (declarations.map (·.lower defaultHints))[i]? =
      some (declaration.lower defaultHints) := by
    rw [List.getElem?_map, there]
    rfl
  have exposed := exposes_of_violation options [] lowers (repeats.mem_violations defaultHints)
  simpa only [ofDeclarations, ofLoaded, List.map_take] using exposed

def twinEntries : String :=
  "[\x7b\"namespace\": \"app\", \"tables\": \x7b\"Item\": \"uint32\", \"Slot\": \"bool\", " ++
    "\"Item\": \x7b\"schema\": \x7b\"id\": \"uint8\", \"at\": \"uint64\", \"id\": \"bool\"\x7d, " ++
    "\"key\": [\"at\"]\x7d\x7d\x7d]"

def twinTable : FullTable :=
  ⟨[("id", "uint8"), ("at", "uint64"), ("id", "bool")], ["at"], none, .empty⟩

def twinDeclaration : Declaration where
  namespaceName := "app"
  tables := [("Item", .shorthand "uint32"), ("Slot", .shorthand "bool"), ("Item", .full twinTable)]
  deploy := .empty
  codegenHints := none

theorem twinEntries_reach_report :
    Declaration.ofText twinEntries = .ok [twinDeclaration] ∧
      twinDeclaration.Repeats (.duplicateTable "app" "Item") ∧
      twinDeclaration.Repeats (.duplicateColumn "app" "Item" "id") ∧
      .duplicateTable "app" "Item" ∈
        (ofDeclarations .default [twinDeclaration] .default).value.violations ∧
      .duplicateColumn "app" "Item" "id" ∈
        (ofDeclarations .default [twinDeclaration] .default).value.violations := by
  have read : Declaration.ofText twinEntries = .ok [twinDeclaration] := by decide +kernel
  have tables : [("Item", .shorthand "uint32"), ("Item", .full twinTable)].Sublist
      twinDeclaration.tables := by
    decide
  have columns : [("id", "uint8"), ("id", "bool")].Sublist twinTable.schema := by decide
  have table : twinDeclaration.Repeats (.duplicateTable "app" "Item") := .table tables rfl rfl
  have column : twinDeclaration.Repeats (.duplicateColumn "app" "Item" "id") :=
    .column (tables.subset (by simp)) rfl columns
  have exposed := (repeated_entries_reach_report .default .default read).2 0 twinDeclaration rfl
  have alone : (ofDeclarations .default [] .default).value.registry.namespaces = [] := by
    decide +kernel
  have free : ∀ stored ∈ (ofDeclarations .default [] .default).value.registry.namespaces,
      namespaceSlot stored.name ≠
        namespaceSlot (twinDeclaration.lower .default).definition.name := by
    intro stored member
    rw [alone] at member
    cases member
  exact ⟨read, table, column, (exposed _ table).told (Or.inr free),
    (exposed _ column).told (Or.inr free)⟩

end Build

end TableSchema
