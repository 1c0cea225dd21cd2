import TableSchema.Proofs.Build.Isolation
import TableSchema.Proofs.Declaration.Tables

set_option autoImplicit false

namespace TableSchema

/-- The second table is the first one with other values under the same hints. -/
inductive Table.Alike (table : Table) : Table → Prop
  | changed {codegen : Options} (hints : codegen.names = table.codegen.names) :
      Alike table { table with codegen }

/-- The second namespace is the first one with other deploy options, and with other values under
the hints of its tables. -/
inductive Namespace.Alike (ns : Namespace) : Namespace → Prop
  | changed {tables : List Table} {deploy : Options}
      (each : List.Forall₂ Table.Alike ns.tables tables) : Alike ns { ns with tables, deploy }

/-- The second compiled table is the first one but for its codegen options. -/
inductive NormalTable.Alike (table : NormalTable) : NormalTable → Prop
  | changed (codegen : Options) : Alike table { table with codegen }

/-- The second compiled namespace is the first one but for its options and those of its tables. -/
inductive NormalNamespace.Alike (ns : NormalNamespace) : NormalNamespace → Prop
  | changed {tables : List NormalTable} {deploy : Options} {definition : Namespace}
      (each : List.Forall₂ NormalTable.Alike ns.tables tables)
      (source : ns.definition.Alike definition) : Alike ns { ns with tables, deploy, definition }

theorem NormalNamespace.Alike.name_eq {compiled other : NormalNamespace}
    (alike : compiled.Alike other) : compiled.name = other.name := by
  cases alike
  rfl

namespace Namespace

variable {ns other : Namespace} {table table' : Table}

theorem Alike.name_eq (alike : ns.Alike other) : ns.name = other.name := by
  cases alike
  rfl

theorem Alike.tables (alike : ns.Alike other) :
    List.Forall₂ Table.Alike ns.tables other.tables := by
  cases alike with
  | changed each => exact each

theorem tableViolations_congr (alike : ns.Alike other) (same : table.Alike table')
    (seen : SeenTables) : ns.tableViolations seen table = other.tableViolations seen table' := by
  cases alike
  cases same with
  | @changed codegen hints =>
    have unrecognized : Table.hintViolations ns { table with codegen } =
        Table.hintViolations ns table := by
      rw [Table.hintViolations, Table.hintViolations, hints]
    exact congrArg (_ ++ ·) unrecognized.symm

theorem violationsAfter_congr (alike : ns.Alike other) {tables tables' : List Table}
    (each : List.Forall₂ Table.Alike tables tables') (seen : SeenTables) :
    ns.violationsAfter seen tables = other.violationsAfter seen tables' := by
  induction each generalizing seen with
  | nil => rfl
  | @cons table table' rest rest' same _ ih =>
    have remembered : seen.add ns table = seen.add other table' := by
      cases alike
      cases same
      rfl
    rw [violationsAfter, violationsAfter, tableViolations_congr alike same, ih, remembered]

theorem Alike.violations_eq (alike : ns.Alike other) : ns.violations = other.violations :=
  violationsAfter_congr alike alike.tables SeenTables.empty

theorem Alike.normalForm (alike : ns.Alike other) : ns.normalForm.Alike other.normalForm := by
  have source := alike
  cases alike with
  | @changed tables deploy each =>
    have compiled : List.Forall₂ NormalTable.Alike
        (ns.tables.map fun table => NormalTable.ofTable ns.name table table.typedColumns)
        (tables.map fun table => NormalTable.ofTable ns.name table table.typedColumns) := by
      refine List.forall₂_map_left_iff.2 (List.forall₂_map_right_iff.2 (each.imp ?_))
      rintro table _ ⟨hints⟩
      exact .changed _
    exact .changed compiled source

theorem Alike.verdicts (alike : ns.Alike other) :
    (ns.validate = .ok ns.normalForm ∧ other.validate = .ok other.normalForm) ∨
      ∃ found, ns.validate = .error found ∧ other.validate = .error found := by
  have same := alike.violations_eq
  by_cases silent : ns.violations = []
  · have silent' : other.violations = [] := same.symm.trans silent
    exact Or.inl ⟨validate_eq_ok_iff.2 ⟨silent, rfl⟩, validate_eq_ok_iff.2 ⟨silent', rfl⟩⟩
  · exact Or.inr ⟨ns.violations, validate_eq_error_iff.2 ⟨rfl, silent⟩,
      validate_eq_error_iff.2 ⟨same, silent⟩⟩

end Namespace

section Lowering

inductive TableDeclaration.Alike : TableDeclaration → TableDeclaration → Prop
  | shorthand (valueType : String) : Alike (.shorthand valueType) (.shorthand valueType)
  | full (body : FullTable) {codegen : Options} (hints : codegen.names = body.codegen.names) :
      Alike (.full body) (.full { body with codegen })

inductive Declaration.Alike (declaration : Declaration) : Declaration → Prop
  | changed {tables : List (String × TableDeclaration)} {deploy : Options}
      (each : List.Forall₂ (fun entry other => entry.1 = other.1 ∧ entry.2.Alike other.2)
        declaration.tables tables) :
      Alike declaration { declaration with tables, deploy }

structure Lowering.Alike (lowered other : Lowering) : Prop where
  definition : lowered.definition.Alike other.definition
  errors : lowered.errors = other.errors

theorem TableDeclaration.Alike.lower {declaration other : TableDeclaration}
    (alike : declaration.Alike other) (ns name : String) :
    (∃ table table' : Table, table.Alike table' ∧ declaration.lower ns name = .ok table ∧
        other.lower ns name = .ok table') ∨
      ∃ e, declaration.lower ns name = .error e ∧ other.lower ns name = .error e := by
  cases lowered : declaration.lower ns name with
  | ok table =>
    have means := TableDeclaration.lower_eq_ok_iff.1 lowered
    cases alike with
    | shorthand valueType => exact Or.inl ⟨table, table, .changed rfl, rfl, lowered⟩
    | full body hints =>
      cases means with
      | full kind =>
        exact Or.inl ⟨_, _, .changed hints, rfl, TableDeclaration.lower_eq_ok_iff.2 (.full kind)⟩
  | error e =>
    have fails := TableDeclaration.lower_eq_error_iff.1 lowered
    refine Or.inr ⟨e, rfl, TableDeclaration.lower_eq_error_iff.2 ?_⟩
    cases alike with
    | shorthand valueType => exact fails
    | full body hints =>
      cases fails with
      | unknownType given notTable notOffchain => exact .unknownType given notTable notOffchain

theorem Declaration.lowerTables_alike (ns : String)
    {entries others : List (String × TableDeclaration)}
    (each : List.Forall₂ (fun entry other => entry.1 = other.1 ∧ entry.2.Alike other.2)
      entries others) :
    List.Forall₂ Table.Alike (lowerTables ns entries).1 (lowerTables ns others).1 ∧
      (lowerTables ns entries).2 = (lowerTables ns others).2 := by
  induction each with
  | nil => exact ⟨.nil, rfl⟩
  | @cons entry other rest rest' first _ ih =>
    obtain ⟨name, declaration⟩ := entry
    obtain ⟨_, declaration'⟩ := other
    obtain ⟨rfl, alike⟩ := first
    obtain ⟨tables, errors⟩ := ih
    rcases alike.lower ns name with ⟨table, table', same, lowers, lowers'⟩ | ⟨e, fails, fails'⟩
    · simp only [lowerTables, lowers, lowers']
      exact ⟨.cons same tables, errors⟩
    · simp only [lowerTables, fails, fails', errors]
      exact ⟨tables, trivial⟩

theorem Declaration.Alike.lower {declaration other : Declaration}
    (alike : declaration.Alike other) (defaultHints : HintSet) :
    (declaration.lower defaultHints).Alike (other.lower defaultHints) := by
  cases alike with
  | changed each =>
    obtain ⟨tables, errors⟩ := Declaration.lowerTables_alike declaration.namespaceName each
    exact ⟨.changed tables, errors⟩

end Lowering

inductive Fate.Alike : Fate → Fate → Prop
  | registered {compiled other : NormalNamespace} (alike : compiled.Alike other) :
      Alike (.registered compiled) (.registered other)
  | refused (failure : FailedNamespace) : Alike (.refused failure) (.refused failure)
  | incomplete (errors : List DeclarationError) (failure : Option FailedNamespace) :
      Alike (.incomplete errors failure) (.incomplete errors failure)

namespace Registry

/-- Registries that store namespaces that are alike, under the same names and slots. -/
structure Alike (registry other : Registry) : Prop where
  namespaces : List.Forall₂ NormalNamespace.Alike registry.namespaces other.namespaces
  index : registry.index = other.index
  slots : registry.slots = other.slots

variable {registry other : Registry}

theorem forall₂_alike_names {namespaces others : List NormalNamespace}
    (each : List.Forall₂ NormalNamespace.Alike namespaces others) :
    namespaces.map (·.name) = others.map (·.name) := by
  induction each with
  | nil => rfl
  | cons first _ ih => rw [List.map_cons, List.map_cons, first.name_eq, ih]

theorem Alike.checkVacant_eq (alike : registry.Alike other) (name : String) :
    (registry.checkVacant name).value = (other.checkVacant name).value := by
  -- Nothing but the name of a stored namespace is looked at, and the names are the same.
  have known : registry.contains name = other.contains name := by
    rw [contains, contains, alike.index]
  have holder : (registry.slotHolder? name).map (·.name) =
      (other.slotHolder? name).map (·.name) := by
    unfold slotHolder?
    rw [alike.slots]
    cases other.slots.lookup (namespaceSlot name) with
    | none => rfl
    | some i =>
      have same := congrArg (·[i]?) (forall₂_alike_names alike.namespaces)
      simpa only [List.getElem?_map, Option.bind_some] using same
  rw [value_checkVacant, value_checkVacant, known]
  split
  · rfl
  · cases here : registry.slotHolder? name with
    | none =>
      have free : other.slotHolder? name = none := by simpa [here] using holder.symm
      rw [free]
    | some stored =>
      obtain ⟨stored', there, named⟩ : ∃ stored', other.slotHolder? name = some stored' ∧
          stored'.name = stored.name := by simpa [here] using holder.symm
      simp only [there, named]

theorem Alike.store (alike : registry.Alike other) {compiled compiled' : NormalNamespace}
    (same : compiled.Alike compiled') :
    (registry.store compiled).Alike (other.store compiled') where
  namespaces := List.rel_append alike.namespaces (.cons same .nil)
  index := by
    rw [index_store, index_store, same.name_eq, alike.index, size, size,
      alike.namespaces.length_eq]
  slots := by
    have named := same.name_eq
    have length := alike.namespaces.length_eq
    change (namespaceSlot compiled.name, registry.namespaces.length) :: registry.slots =
      (namespaceSlot compiled'.name, other.namespaces.length) :: other.slots
    rw [named, alike.slots, length]

theorem Alike.keep (alike : registry.Alike other) {fate fate' : Fate} (same : fate.Alike fate') :
    (registry.keep fate).Alike (other.keep fate') := by
  cases same with
  | registered compiled => exact alike.store compiled
  | refused failure => exact alike
  | incomplete errors failure => exact alike

/-- One step: namespaces that are alike meet the same fate in registries that are alike. -/
theorem Alike.fate (alike : registry.Alike other) {lowered lowered' : Lowering}
    (same : lowered.Alike lowered') : (registry.fate lowered).Alike (other.fate lowered') := by
  obtain ⟨definition, errors⟩ := same
  have vacancy := alike.checkVacant_eq lowered.definition.name
  have verdicts := definition.verdicts
  unfold Registry.fate
  rw [← errors]
  by_cases complete : lowered.errors = []
  · rw [if_pos complete, if_pos complete, answer_register, answer_register, value_register,
      value_register,
      ← definition.name_eq, ← vacancy]
    cases (registry.checkVacant lowered.definition.name).value with
    | error e => exact .refused _
    | ok vacant =>
      rcases verdicts with ⟨accepted, accepted'⟩ | ⟨found, refused, refused'⟩
      · rw [accepted, accepted']
        exact .registered definition.normalForm
      · rw [refused, refused']
        exact .refused _
  · rw [if_neg complete, if_neg complete, ← definition.name_eq]
    rcases verdicts with ⟨accepted, accepted'⟩ | ⟨found, refused, refused'⟩
    · rw [accepted, accepted']
      exact .incomplete _ none
    · rw [refused, refused']
      exact .incomplete _ (some _)

/-- The whole run: the fates of namespaces that are alike one by one are so too. -/
theorem Alike.fates (alike : registry.Alike other) {lowered others : List Lowering}
    (each : List.Forall₂ Lowering.Alike lowered others) :
    List.Forall₂ Fate.Alike (registry.fates lowered) (other.fates others) := by
  induction each generalizing registry other with
  | nil => exact .nil
  | cons first _ ih =>
    have here := alike.fate first
    exact .cons here (ih (alike.keep here))

end Registry

section Fates

variable {fates others : List Fate}

theorem Fate.Alike.failures_eq {fate other : Fate} (alike : fate.Alike other) :
    fate.failures = other.failures := by
  cases alike <;> rfl

theorem Fate.Alike.errors_eq {fate other : Fate} (alike : fate.Alike other) :
    fate.errors = other.errors := by
  cases alike <;> rfl

theorem flatMap_of_alike {α : Type} {tells : Fate → List α}
    (same : ∀ {fate other : Fate}, fate.Alike other → tells fate = tells other)
    (each : List.Forall₂ Fate.Alike fates others) :
    fates.flatMap tells = others.flatMap tells := by
  induction each with
  | nil => rfl
  | cons first _ ih => rw [List.flatMap_cons, List.flatMap_cons, same first, ih]

theorem flatMap_stored_of_alike (each : List.Forall₂ Fate.Alike fates others) :
    List.Forall₂ NormalNamespace.Alike (fates.flatMap Fate.stored)
      (others.flatMap Fate.stored) := by
  induction each with
  | nil => exact .nil
  | cons first _ ih =>
    rw [List.flatMap_cons, List.flatMap_cons]
    cases first with
    | registered alike => exact .cons alike ih
    | refused failure => exact ih
    | incomplete errors failure => exact ih

theorem registeredOf_of_alike {α : Type} (inputs : List α)
    (each : List.Forall₂ Fate.Alike fates others) :
    registeredOf inputs fates = registeredOf inputs others := by
  induction each generalizing inputs with
  | nil => rfl
  | @cons fate other _ _ first _ ih =>
    have registered : fate.isRegistered = other.isRegistered := by cases first <;> rfl
    cases inputs with
    | nil => rfl
    | cons input rest => rw [registeredOf_cons, registeredOf_cons, registered, ih]

theorem forall₂_stored_registeredOf {α : Type} {lower : α → Lowering} {inputs : List α}
    (fits : List.Forall₂ (fun input fate => Fate.Fits (lower input) fate) inputs fates) :
    List.Forall₂ (fun compiled input => (lower input).errors = [] ∧
        (lower input).definition.validate = .ok compiled)
      (fates.flatMap Fate.stored) (registeredOf inputs fates) := by
  induction fits with
  | nil => exact .nil
  | cons first _ ih =>
    rw [List.flatMap_cons, registeredOf_cons]
    cases first with
    | registered complete accepted =>
      exact .cons ⟨Lowering.isComplete_iff.1 complete, accepted⟩ ih
    | refused => exact ih
    | incomplete => exact ih

theorem registeredOf_sublist {α : Type} (inputs : List α) (fates : List Fate) :
    (registeredOf inputs fates).Sublist inputs := by
  induction inputs generalizing fates with
  | nil => exact List.Sublist.slnil
  | cons input rest ih =>
    cases fates with
    | nil => exact List.nil_sublist _
    | cons fate later =>
      rw [registeredOf_cons]
      split
      · exact (ih later).cons_cons input
      · exact (ih later).cons input

end Fates

/-- The compiled namespace has the given name and carries the given options: those for the deployer,
and for each of its tables those for code generation. -/
structure NormalNamespace.Carries (compiled : NormalNamespace) (name : String) (deploy : Options)
    (codegen : List (String × Options)) : Prop where
  name : compiled.name = name
  deploy : compiled.deploy = deploy
  codegen : compiled.tables.map (fun table => (table.name, table.codegen)) = codegen

/-- The compiled namespace carries the options of the definition. -/
def Namespace.IsCarriedBy (ns : Namespace) (compiled : NormalNamespace) : Prop :=
  compiled.Carries ns.name ns.deploy (ns.tables.map fun table => (table.name, table.codegen))

def Declaration.IsCarriedBy (declaration : Declaration) (compiled : NormalNamespace) : Prop :=
  compiled.Carries declaration.namespaceName declaration.deploy
    (declaration.tables.map fun entry => (entry.1, entry.2.body.codegen))

theorem Namespace.isCarriedBy_of_validate {ns : Namespace} {compiled : NormalNamespace}
    (accepted : ns.validate = .ok compiled) : ns.IsCarriedBy compiled := by
  obtain ⟨_, rfl⟩ := validate_eq_ok_iff.1 accepted
  refine ⟨rfl, rfl, ?_⟩
  change (ns.tables.map _).map _ = ns.tables.map _
  rw [List.map_map]
  rfl

theorem Declaration.map_codegen_lowerTables {ns : String}
    {entries : List (String × TableDeclaration)} (complete : (lowerTables ns entries).2 = []) :
    (lowerTables ns entries).1.map (fun table => (table.name, table.codegen)) =
      entries.map fun entry => (entry.1, entry.2.body.codegen) := by
  induction entries with
  | nil => rfl
  | cons entry rest ih =>
    obtain ⟨name, declaration⟩ := entry
    cases lowered : declaration.lower ns name with
    | ok table =>
      have means := TableDeclaration.lower_eq_ok_iff.1 lowered
      simp only [lowerTables, lowered] at complete ⊢
      rw [List.map_cons, List.map_cons, ih complete, means.name_eq, means.codegen_eq]
    | error e => simp [lowerTables, lowered] at complete

theorem Declaration.isCarriedBy_of_lower {declaration : Declaration} {defaultHints : HintSet}
    {compiled : NormalNamespace} (complete : (declaration.lower defaultHints).errors = [])
    (accepted : (declaration.lower defaultHints).definition.validate = .ok compiled) :
    declaration.IsCarriedBy compiled := by
  obtain ⟨name, deploy, codegen⟩ := Namespace.isCarriedBy_of_validate accepted
  exact ⟨name, deploy, codegen.trans (map_codegen_lowerTables complete)⟩

/-- Two builds that agree but for options. They report the same and register the same of their
inputs, in the same order, and each carries the options of its own inputs. -/
structure BuildReport.AgreesButOptions {α : Type} (carries : α → NormalNamespace → Prop)
    (inputs others : List α) (report other : BuildReport) : Prop where
  failures : report.failures = other.failures
  declarationErrors : report.declarationErrors = other.declarationErrors
  names : report.registry.namespaces.map (·.name) = other.registry.namespaces.map (·.name)
  registered : List.Forall₂ NormalNamespace.Alike report.registry.namespaces
    other.registry.namespaces
  own : ∃ accepted : List (α × α), accepted.Sublist (inputs.zip others) ∧
    List.Forall₂ (fun compiled pair => carries pair.1 compiled) report.registry.namespaces
      accepted ∧
    List.Forall₂ (fun compiled pair => carries pair.2 compiled) other.registry.namespaces accepted

namespace Build

theorem agreesButOptions_ofLowerings {α : Type} (options : BuildOptions) {lower : α → Lowering}
    {carries : α → NormalNamespace → Prop}
    (carried : ∀ input compiled, (lower input).errors = [] →
      (lower input).definition.validate = .ok compiled → carries input compiled)
    (errors : List DeclarationError) {inputs others : List α}
    (each : List.Forall₂ (fun input other => (lower input).Alike (lower other)) inputs others) :
    BuildReport.AgreesButOptions carries inputs others
      (ofLowerings options (inputs.map lower) errors).value
      (ofLowerings options (others.map lower) errors).value := by
  have nothing : Registry.empty.Alike Registry.empty := ⟨.nil, rfl, rfl⟩
  have alike : List.Forall₂ Fate.Alike (fates (inputs.map lower)) (fates (others.map lower)) :=
    nothing.fates (List.forall₂_map_left_iff.2 (List.forall₂_map_right_iff.2 each))
  have length := each.length_eq
  -- The pairs of inputs of which the one build, and then the other too, registers its own.
  have first : (inputs.zip others).map (fun pair => lower pair.1) = inputs.map lower := by
    have own := List.map_fst_zip length.le
    exact (List.map_map).symm.trans (congrArg (List.map lower) own)
  have second : (inputs.zip others).map (fun pair => lower pair.2) = others.map lower := by
    have own := List.map_snd_zip length.ge
    exact (List.map_map).symm.trans (congrArg (List.map lower) own)
  have fits := fates_fit (inputs.map lower)
  have fits' := fates_fit (others.map lower)
  rw [value_ofLowerings_eq_ofFates, value_ofLowerings_eq_ofFates]
  have stored := flatMap_stored_of_alike alike
  refine ⟨flatMap_of_alike Fate.Alike.failures_eq alike, ?_, ?_, ?_, ?_⟩
  · exact congrArg (errors ++ ·) (flatMap_of_alike Fate.Alike.errors_eq alike)
  · rw [BuildReport.namespaces_ofFates, BuildReport.namespaces_ofFates]
    exact Registry.forall₂_alike_names stored
  · rw [BuildReport.namespaces_ofFates, BuildReport.namespaces_ofFates]
    exact stored
  · rw [BuildReport.namespaces_ofFates, BuildReport.namespaces_ofFates]
    refine ⟨registeredOf (inputs.zip others) (fates (inputs.map lower)),
      registeredOf_sublist _ _, ?_, ?_⟩
    · rw [← first] at fits ⊢
      refine (forall₂_stored_registeredOf (List.forall₂_map_left_iff.1 fits)).imp ?_
      rintro compiled pair ⟨complete, accepted⟩
      exact carried pair.1 compiled complete accepted
    · rw [registeredOf_of_alike _ alike]
      rw [← second] at fits' ⊢
      refine (forall₂_stored_registeredOf (List.forall₂_map_left_iff.1 fits')).imp ?_
      rintro compiled pair ⟨complete, accepted⟩
      exact carried pair.2 compiled complete accepted

/-- Builds of inputs that differ in deploy options and in values of codegen options only agree but
for these, which every registered namespace has from its own input. -/
theorem options_pass_through (options : BuildOptions) :
    (∀ namespaces others : List Namespace, List.Forall₂ Namespace.Alike namespaces others →
      BuildReport.AgreesButOptions Namespace.IsCarriedBy namespaces others
        (ofNamespaces options namespaces).value (ofNamespaces options others).value) ∧
      ∀ (declarations others : List Declaration) (errors : List DeclarationError)
        (defaultHints : HintSet), List.Forall₂ Declaration.Alike declarations others →
        BuildReport.AgreesButOptions Declaration.IsCarriedBy declarations others
          (ofLoaded options ⟨declarations, errors⟩ defaultHints).value
          (ofLoaded options ⟨others, errors⟩ defaultHints).value := by
  constructor
  · intro namespaces others each
    refine agreesButOptions_ofLowerings options ?_ [] (each.imp fun ns other alike => ⟨alike, rfl⟩)
    intro ns compiled _ accepted
    exact Namespace.isCarriedBy_of_validate accepted
  · intro declarations others errors defaultHints each
    refine agreesButOptions_ofLowerings options ?_ errors
      (each.imp fun declaration other alike => alike.lower defaultHints)
    intro declaration compiled complete accepted
    exact Declaration.isCarriedBy_of_lower complete accepted

def marketDeclarations (deploy : Options) (value : Json) : List Declaration :=
  [{ namespaceName := "stalls"
     tables := [("Stall", .full ⟨[("id", "uint32")], ["id"], none,
       .ofMembers [("dataStruct", value)]⟩), ("Price", .shorthand "uint64")]
     deploy, codegenHints := none },
   { namespaceName := "goods"
     tables := [("Good", .full ⟨[("id", "uint32")], ["id"], none, .ofMembers [("tint", value)]⟩)]
     deploy, codegenHints := none },
   { namespaceName := "orders"
     tables := [("Open", .full ⟨[("id", "uint32")], ["id"], some "queue",
       .ofMembers [("dataStruct", value)]⟩)]
     deploy, codegenHints := none }]

theorem market_agrees :
    List.Forall₂ Declaration.Alike (marketDeclarations .empty .null)
        (marketDeclarations (.ofMembers [("gas", .ofNat 7)]) (.array [.bool true])) ∧
      (ofLoaded .default ⟨marketDeclarations .empty .null, []⟩
        .default).value.registry.namespaces.map (·.name) = ["stalls"] ∧
      BuildReport.AgreesButOptions Declaration.IsCarriedBy (marketDeclarations .empty .null)
        (marketDeclarations (.ofMembers [("gas", .ofNat 7)]) (.array [.bool true]))
        (ofLoaded .default ⟨marketDeclarations .empty .null, []⟩ .default).value
        (ofLoaded .default ⟨marketDeclarations (.ofMembers [("gas", .ofNat 7)])
          (.array [.bool true]), []⟩ .default).value := by
  have alike : List.Forall₂ Declaration.Alike (marketDeclarations .empty .null)
      (marketDeclarations (.ofMembers [("gas", .ofNat 7)]) (.array [.bool true])) := by
    refine .cons (.changed ?_) (.cons (.changed ?_) (.cons (.changed ?_) .nil))
    · exact .cons ⟨rfl, .full _ rfl⟩ (.cons ⟨rfl, .shorthand _⟩ .nil)
    · exact .cons ⟨rfl, .full _ rfl⟩ .nil
    · exact .cons ⟨rfl, .full _ rfl⟩ .nil
  exact ⟨alike, by decide +kernel, (options_pass_through .default).2 _ _ [] .default alike⟩

end Build

end TableSchema
