import TableSchema.Proofs.Build.Workload
import TableSchema.Proofs.Registry.Registration

set_option autoImplicit false

namespace TableSchema

namespace BuildReport

/-- Takes up one namespace in its turn. One that lowered completely is handed to the registry, and
a rejection is reported. One that did not leaves the registry alone, and what is wrong with the
tables that did lower is reported beside the errors of the others. -/
def takeUp (report : BuildReport) (lowered : Lowering) : BuildReport :=
  let ns := lowered.definition
  if lowered.errors = [] then
    { report with
      registry := report.registry.perform (.register ns)
      failures := report.failures ++ match report.registry.answer (.register ns) with
        | .ok _ => []
        | .error e => [⟨e.namespaceName, e.violations⟩] }
  else
    { report with
      failures := report.failures ++ match ns.validate with
        | .ok _ => []
        | .error found => [⟨ns.name, found⟩]
      declarationErrors := report.declarationErrors ++ lowered.errors }

theorem takeUp_of_stored {report : BuildReport} {lowered : Lowering} {next : Registry}
    (complete : lowered.errors = [])
    (stored : report.registry.answer (.register lowered.definition) = .ok next) :
    report.takeUp lowered = { report with registry := next } := by
  simp [takeUp, complete, stored, Registry.perform_of_answer_eq_ok stored]

theorem takeUp_of_rejected {report : BuildReport} {lowered : Lowering} {e : RegistrationError}
    (complete : lowered.errors = [])
    (rejected : report.registry.answer (.register lowered.definition) = .error e) :
    report.takeUp lowered =
      { report with failures := report.failures ++ [⟨e.namespaceName, e.violations⟩] } := by
  simp [takeUp, complete, rejected, Registry.perform_of_answer_eq_error rejected]

theorem takeUp_of_entered {report : BuildReport} {lowered : Lowering} {registration : Registration}
    (complete : lowered.errors = [])
    (entered : (report.registry.enter lowered.definition).value = registration) :
    report.takeUp lowered =
      { report with
        registry := registration.registry
        failures := report.failures ++ match registration.answer with
          | .ok () => []
          | .error e => [⟨e.namespaceName, e.violations⟩] } := by
  subst entered
  rw [takeUp, if_pos complete, Registry.perform, Registry.answer, Registry.attempt,
    Registration.result]
  cases (report.registry.enter lowered.definition).value.answer <;> rfl

end BuildReport

namespace Build

/-- Looking at the registry, then at the verdict, then at the registry again is one registration. -/
theorem value_settle (report : BuildReport) (lowered : Lowering) :
    (settle report lowered lowered.definition.validate).value = report.takeUp lowered := by
  unfold settle
  by_cases complete : lowered.errors = []
  · have whole : lowered.isComplete = true := Lowering.isComplete_iff.2 complete
    rw [if_pos whole, Logged.value_bind]
    have entered := Registry.value_enter report.registry lowered.definition
    cases vacancy : (report.registry.checkVacant lowered.definition.name).value with
    | error e =>
      rw [vacancy] at entered
      rw [BuildReport.takeUp_of_entered complete entered]
      rfl
    | ok vacant =>
      cases judged : lowered.definition.validate with
      | error found =>
        rw [vacancy, judged] at entered
        rw [BuildReport.takeUp_of_entered complete entered]
        rfl
      | ok compiled =>
        -- The name is looked for once more, on the registry in which it has just been found free.
        have again := Registry.value_enterNormal_eq_value_enter report.registry judged
        rw [BuildReport.takeUp_of_entered complete again.symm]
        rfl
  · have partly : ¬ lowered.isComplete = true := by rwa [Lowering.isComplete_iff]
    rw [if_neg partly, BuildReport.takeUp, if_neg complete]
    rfl

theorem value_settleAll (report : BuildReport) (lowered : List Lowering) :
    (settleAll report (lowered.map fun one => (one, one.definition.validate))).value =
      lowered.foldl BuildReport.takeUp report := by
  induction lowered generalizing report with
  | nil => rfl
  | cons first rest ih =>
    rw [List.map_cons, settleAll, Logged.value_bind, value_settle, ih, List.foldl_cons]

theorem value_ofLowerings_eq_foldl (options : BuildOptions) (lowered : List Lowering)
    (errors : List DeclarationError) :
    (ofLowerings options lowered errors).value =
      lowered.foldl BuildReport.takeUp ⟨Registry.empty, [], errors⟩ := by
  rw [value_ofLowerings, value_settleAll]

/-- A build takes up one declaration after another, on top of what could not be loaded, and one of
definitions does the same with namespaces that need no lowering. -/
theorem report_eq_inTurn (options : BuildOptions) :
    (∀ (loaded : Loaded) (defaultHints : HintSet),
      (ofLoaded options loaded defaultHints).value =
        loaded.declarations.foldl
          (fun report declaration => report.takeUp (declaration.lower defaultHints))
          ⟨Registry.empty, [], loaded.errors⟩) ∧
      ∀ namespaces : List Namespace,
        (ofNamespaces options namespaces).value =
          namespaces.foldl (fun report ns => report.takeUp ⟨ns, []⟩) ⟨Registry.empty, [], []⟩ := by
  constructor
  · intro loaded defaultHints
    rw [ofLoaded, value_ofLowerings_eq_foldl, List.foldl_map]
  · intro namespaces
    rw [ofNamespaces, value_ofLowerings_eq_foldl, List.foldl_map]

end Build

end TableSchema
