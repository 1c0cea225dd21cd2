import Mathlib.Data.List.Forall2
import TableSchema.Proofs.Build.InTurn
import TableSchema.Proofs.Validation.Order

/-!
What becomes of each namespace of a build.

A namespace that is taken up is registered, or it is refused, or it did not lower completely. What
a report holds is what these fates bring to it, in input order. Main result: every declaration has
one fate, and the report tells all of them and nothing else.
-/

set_option autoImplicit false

namespace TableSchema

/-- What becomes of a namespace that a build takes up. -/
inductive Fate where
  | registered (compiled : NormalNamespace)
  | refused (failure : FailedNamespace)
  | incomplete (errors : List DeclarationError) (failure : Option FailedNamespace)
  deriving DecidableEq

namespace Fate

def isRegistered : Fate → Bool
  | .registered _ => true
  | _ => false

def isRefused : Fate → Bool
  | .refused _ => true
  | _ => false

def stored : Fate → List NormalNamespace
  | .registered compiled => [compiled]
  | _ => []

def failures : Fate → List FailedNamespace
  | .registered _ => []
  | .refused failure => [failure]
  | .incomplete _ failure => failure.toList

def errors : Fate → List DeclarationError
  | .incomplete errors _ => errors
  | _ => []

theorem length_failures_le (fate : Fate) : fate.failures.length ≤ 1 := by
  cases fate with
  | registered compiled => exact Nat.zero_le 1
  | refused failure => exact Nat.le_refl 1
  | incomplete errors failure => cases failure <;> simp [failures]

end Fate

/-- A failure of the namespace of the given name: it tells of at least one violation, and of none
in another namespace. -/
structure FailedNamespace.IsOf (failure : FailedNamespace) (name : String) : Prop where
  named : failure.namespaceName = name
  nonempty : failure.violations ≠ []
  place : ∀ v ∈ failure.violations, v.namespaceName = name

/-- The fates that a namespace can have, each with what must hold of its lowering. -/
inductive Fate.Fits (lowered : Lowering) : Fate → Prop where
  | registered {compiled : NormalNamespace} (complete : lowered.isComplete = true)
    (accepted : lowered.definition.validate = .ok compiled) : Fits lowered (.registered compiled)
  | refused {failure : FailedNamespace} (complete : lowered.isComplete = true)
    (told : failure.IsOf lowered.definition.name) : Fits lowered (.refused failure)
  | incomplete {failure : Option FailedNamespace} (partly : lowered.errors ≠ [])
    (told : ∀ one ∈ failure, one.IsOf lowered.definition.name) :
    Fits lowered (.incomplete lowered.errors failure)

namespace Fate.Fits

variable {lowered : Lowering} {fate : Fate}

theorem errors_eq (fits : fate.Fits lowered) : fate.errors = lowered.errors := by
  cases fits with
  | registered complete => exact (Lowering.isComplete_iff.1 complete).symm
  | refused complete => exact (Lowering.isComplete_iff.1 complete).symm
  | incomplete => rfl

theorem isOf (fits : fate.Fits lowered) {failure : FailedNamespace}
    (member : failure ∈ fate.failures) : failure.IsOf lowered.definition.name := by
  cases fits with
  | registered => cases member
  | refused _ told =>
    obtain rfl := List.mem_singleton.1 member
    exact told
  | incomplete _ told => exact told failure (Option.mem_toList.1 member)

theorem count (fits : fate.Fits lowered) :
    fate.stored.length + [fate].countP Fate.isRefused + [lowered].countP (!·.isComplete) = 1 := by
  cases fits with
  | registered complete => simp [stored, isRefused, complete]
  | refused complete => simp [stored, isRefused, complete]
  | incomplete partly => simp [stored, isRefused, Lowering.isComplete, partly]

theorem isRegistered_iff (fits : fate.Fits lowered) :
    fate.isRegistered = true ↔ fate.failures = [] ∧ fate.errors = [] := by
  cases fits with
  | registered => simp [isRegistered, failures, errors]
  | refused => simp [isRegistered, failures]
  | incomplete partly => simp [isRegistered, errors, partly]

end Fate.Fits

theorem FailedNamespace.isOf_singleton (v : Violation) :
    FailedNamespace.IsOf ⟨v.namespaceName, [v]⟩ v.namespaceName := by
  refine ⟨rfl, List.cons_ne_nil v [], ?_⟩
  intro other member
  rw [List.mem_singleton.1 member]

theorem Namespace.isOf_of_refused {ns : Namespace} {found : List Violation}
    (refused : ns.validate = .error found) : FailedNamespace.IsOf ⟨ns.name, found⟩ ns.name := by
  obtain ⟨all, some⟩ := validate_eq_error_iff.1 refused
  refine ⟨rfl, some, ?_⟩
  intro v member
  exact namespaceName_of_mem_violations (all ▸ member)

namespace Registry

/-- What becomes of a namespace when it meets the registry. -/
def fate (registry : Registry) (lowered : Lowering) : Fate :=
  if lowered.errors = [] then
    match registry.answer (.register lowered.definition) with
    | .ok _ => .registered lowered.definition.normalForm
    | .error e => .refused ⟨e.namespaceName, e.violations⟩
  else
    .incomplete lowered.errors <| match lowered.definition.validate with
      | .ok _ => none
      | .error found => some ⟨lowered.definition.name, found⟩

def keep (registry : Registry) (fate : Fate) : Registry :=
  fate.stored.foldl store registry

/-- The fates of namespaces that meet the registry in their turn. -/
def fates (registry : Registry) : List Lowering → List Fate
  | [] => []
  | lowered :: rest =>
    registry.fate lowered :: (registry.keep (registry.fate lowered)).fates rest

/-- The ways in which a namespace can meet the registry, each with its fate. -/
inductive FateCase (registry : Registry) (lowered : Lowering) : Fate → Prop where
  | registered {compiled : NormalNamespace} (complete : lowered.errors = [])
    (accepted : lowered.definition.validate = .ok compiled)
    (answered : registry.answer (.register lowered.definition) = .ok (registry.store compiled)) :
    FateCase registry lowered (.registered compiled)
  | refused {e : RegistrationError} (complete : lowered.errors = [])
    (answered : registry.answer (.register lowered.definition) = .error e) :
    FateCase registry lowered (.refused ⟨e.namespaceName, e.violations⟩)
  | partlyValid {compiled : NormalNamespace} (partly : lowered.errors ≠ [])
    (accepted : lowered.definition.validate = .ok compiled) :
    FateCase registry lowered (.incomplete lowered.errors none)
  | partlyInvalid {found : List Violation} (partly : lowered.errors ≠ [])
    (refused : lowered.definition.validate = .error found) :
    FateCase registry lowered
      (.incomplete lowered.errors (some ⟨lowered.definition.name, found⟩))

theorem fateCase (registry : Registry) (lowered : Lowering) :
    FateCase registry lowered (registry.fate lowered) := by
  unfold fate
  by_cases complete : lowered.errors = []
  · rw [if_pos complete]
    cases answered : registry.answer (.register lowered.definition) with
    | ok next =>
      obtain ⟨_, compiled, accepted, rfl⟩ := value_register_eq_ok_iff.1 answered
      have normal := (Namespace.validate_eq_ok_iff.1 accepted).2
      rw [← normal]
      exact .registered complete accepted answered
    | error e => exact .refused complete answered
  · rw [if_neg complete]
    cases judged : lowered.definition.validate with
    | ok compiled => exact .partlyValid complete judged
    | error found => exact .partlyInvalid complete judged

theorem isOf_of_rejected {registry : Registry} {ns : Namespace} {e : RegistrationError}
    (rejected : registry.answer (.register ns) = .error e) :
    FailedNamespace.IsOf ⟨e.namespaceName, e.violations⟩ ns.name := by
  rw [answer_register, value_register, value_checkVacant] at rejected
  by_cases known : registry.contains ns.name = true
  · rw [if_pos known] at rejected
    obtain rfl := Except.error.inj rejected
    exact FailedNamespace.isOf_singleton (.duplicateNamespace ns.name)
  · rw [if_neg known] at rejected
    cases holder : registry.slotHolder? ns.name with
    | some rival =>
      rw [holder] at rejected
      obtain rfl := Except.error.inj rejected
      exact FailedNamespace.isOf_singleton (.namespaceIdCollision ns.name rival.name)
    | none =>
      rw [holder] at rejected
      cases judged : ns.validate with
      | ok compiled => simp [judged] at rejected
      | error found =>
        simp only [judged, Except.error.injEq] at rejected
        subst rejected
        exact Namespace.isOf_of_refused judged

theorem FateCase.fits {registry : Registry} {lowered : Lowering} {fate : Fate}
    (outcome : FateCase registry lowered fate) : fate.Fits lowered := by
  cases outcome with
  | registered complete accepted =>
    exact .registered (Lowering.isComplete_iff.2 complete) accepted
  | refused complete answered =>
    exact .refused (Lowering.isComplete_iff.2 complete) (isOf_of_rejected answered)
  | partlyValid partly =>
    refine .incomplete partly ?_
    rintro failure ⟨⟩
  | partlyInvalid partly refused =>
    refine .incomplete partly ?_
    rintro failure ⟨⟩
    exact Namespace.isOf_of_refused refused

theorem fates_fit (registry : Registry) (lowered : List Lowering) :
    List.Forall₂ Fate.Fits lowered (registry.fates lowered) := by
  induction lowered generalizing registry with
  | nil => exact .nil
  | cons first rest ih => exact .cons (registry.fateCase first).fits (ih _)

theorem namespaces_foldl_store (registry : Registry) (stored : List NormalNamespace) :
    (stored.foldl store registry).namespaces = registry.namespaces ++ stored := by
  induction stored generalizing registry with
  | nil => exact (List.append_nil _).symm
  | cons first rest ih =>
    rw [List.foldl_cons, ih, namespaces_store, List.append_assoc, List.singleton_append]

end Registry

namespace BuildReport

def record (report : BuildReport) (fate : Fate) : BuildReport :=
  { registry := report.registry.keep fate
    failures := report.failures ++ fate.failures
    declarationErrors := report.declarationErrors ++ fate.errors }

theorem takeUp_eq_record {report : BuildReport} {lowered : Lowering} {fate : Fate}
    (outcome : Registry.FateCase report.registry lowered fate) :
    report.takeUp lowered = report.record fate := by
  cases outcome with
  | registered complete accepted answered =>
    rw [takeUp_of_stored complete answered]
    simp [record, Registry.keep, Fate.stored, Fate.failures, Fate.errors]
  | refused complete answered =>
    rw [takeUp_of_rejected complete answered]
    simp [record, Registry.keep, Fate.stored, Fate.failures, Fate.errors]
  | partlyValid partly accepted =>
    rw [takeUp, if_neg partly, accepted]
    rfl
  | partlyInvalid partly refused =>
    rw [takeUp, if_neg partly, refused]
    rfl

theorem foldl_takeUp (report : BuildReport) (lowered : List Lowering) :
    lowered.foldl takeUp report = (report.registry.fates lowered).foldl record report := by
  induction lowered generalizing report with
  | nil => rfl
  | cons first rest ih =>
    rw [List.foldl_cons, ih, takeUp_eq_record (report.registry.fateCase first), Registry.fates,
      List.foldl_cons]
    rfl

theorem foldl_record (report : BuildReport) (fates : List Fate) :
    fates.foldl record report =
      { registry := (fates.flatMap Fate.stored).foldl Registry.store report.registry
        failures := report.failures ++ fates.flatMap Fate.failures
        declarationErrors := report.declarationErrors ++ fates.flatMap Fate.errors } := by
  induction fates generalizing report with
  | nil => simp
  | cons first rest ih =>
    rw [List.foldl_cons, ih]
    simp [record, Registry.keep]

/-- The report that is made of fates, on top of errors met before. -/
def ofFates (errors : List DeclarationError) (fates : List Fate) : BuildReport :=
  { registry := (fates.flatMap Fate.stored).foldl Registry.store Registry.empty
    failures := fates.flatMap Fate.failures
    declarationErrors := errors ++ fates.flatMap Fate.errors }

theorem namespaces_ofFates (errors : List DeclarationError) (fates : List Fate) :
    (ofFates errors fates).registry.namespaces = fates.flatMap Fate.stored :=
  Registry.namespaces_foldl_store Registry.empty _

theorem isSuccess_ofFates_iff {errors : List DeclarationError} {fates : List Fate} :
    (ofFates errors fates).isSuccess = true ↔
      errors = [] ∧ ∀ fate ∈ fates, fate.failures = [] ∧ fate.errors = [] := by
  simp only [isSuccess, ofFates, Bool.and_eq_true, List.isEmpty_iff, List.append_eq_nil_iff,
    List.flatMap_eq_nil_iff, forall_and]
  tauto

end BuildReport

namespace Build

def fates (lowered : List Lowering) : List Fate :=
  Registry.empty.fates lowered

theorem fates_fit (lowered : List Lowering) : List.Forall₂ Fate.Fits lowered (fates lowered) :=
  Registry.empty.fates_fit lowered

theorem value_ofLowerings_eq_ofFates (options : BuildOptions) (lowered : List Lowering)
    (errors : List DeclarationError) :
    (ofLowerings options lowered errors).value = BuildReport.ofFates errors (fates lowered) := by
  rw [value_ofLowerings_eq_foldl, BuildReport.foldl_takeUp, BuildReport.foldl_record]
  rfl

end Build

theorem flatMap_errors_of_fits {lowered : List Lowering} {fates : List Fate}
    (fits : List.Forall₂ Fate.Fits lowered fates) :
    fates.flatMap Fate.errors = lowered.flatMap (·.errors) := by
  induction fits with
  | nil => rfl
  | cons first _ ih => rw [List.flatMap_cons, List.flatMap_cons, first.errors_eq, ih]

theorem exists_fits_of_mem {lowered : List Lowering} {fates : List Fate}
    (fits : List.Forall₂ Fate.Fits lowered fates) {fate : Fate} (member : fate ∈ fates) :
    ∃ one ∈ lowered, fate.Fits one := by
  induction fits with
  | nil => cases member
  | @cons one first rest _ own _ ih =>
    rcases List.mem_cons.1 member with rfl | member
    · exact ⟨one, List.mem_cons_self, own⟩
    · obtain ⟨other, there, fit⟩ := ih member
      exact ⟨other, List.mem_cons_of_mem one there, fit⟩

theorem count_of_fits {lowered : List Lowering} {fates : List Fate}
    (fits : List.Forall₂ Fate.Fits lowered fates) :
    (fates.flatMap Fate.stored).length + fates.countP Fate.isRefused +
      lowered.countP (!·.isComplete) = lowered.length := by
  induction fits with
  | nil => rfl
  | @cons one fate rest others first _ ih =>
    have once := first.count
    rw [List.flatMap_cons, List.length_append, List.length_cons,
      ← List.singleton_append (x := fate), ← List.singleton_append (x := one),
      List.countP_append, List.countP_append]
    omega

/-- A report that accounts for every declaration by its fate. -/
structure BuildReport.AccountsFor (report : BuildReport) (loaded : Loaded)
    (defaultHints : HintSet) (fates : List Fate) : Prop where
  each : List.Forall₂ (fun declaration fate => Fate.Fits (declaration.lower defaultHints) fate)
    loaded.declarations fates
  registered : report.registry.namespaces = fates.flatMap Fate.stored
  failures : report.failures = fates.flatMap Fate.failures
  declarationErrors : report.declarationErrors =
    loaded.errors ++ loaded.declarations.flatMap fun declaration =>
      (declaration.lower defaultHints).errors
  told : ∀ failure ∈ report.failures,
    ∃ declaration ∈ loaded.declarations, failure.IsOf declaration.namespaceName
  total : report.registry.size + fates.countP Fate.isRefused +
    loaded.declarations.countP (fun declaration => !(declaration.lower defaultHints).isComplete) =
      loaded.declarations.length

namespace Build

/-- Every declaration of a build has exactly one fate, and the report tells all fates, in input
order, and nothing else but what could not be loaded. -/
theorem report_accountsFor_fates (options : BuildOptions) (loaded : Loaded)
    (defaultHints : HintSet) :
    (ofLoaded options loaded defaultHints).value.AccountsFor loaded defaultHints
      (fates (loaded.declarations.map (·.lower defaultHints))) := by
  have fits := fates_fit (loaded.declarations.map (·.lower defaultHints))
  have made : (ofLoaded options loaded defaultHints).value =
      BuildReport.ofFates loaded.errors (fates (loaded.declarations.map (·.lower defaultHints))) :=
    value_ofLowerings_eq_ofFates options _ loaded.errors
  have stored := BuildReport.namespaces_ofFates loaded.errors
    (fates (loaded.declarations.map (·.lower defaultHints)))
  rw [made]
  refine ⟨List.forall₂_map_left_iff.1 fits, stored, rfl, ?_, ?_, ?_⟩
  · have errors := flatMap_errors_of_fits fits
    rw [List.flatMap_map] at errors
    rw [BuildReport.ofFates, errors]
  · intro failure member
    obtain ⟨fate, met, reported⟩ := List.mem_flatMap.1 member
    obtain ⟨one, there, fit⟩ := exists_fits_of_mem fits met
    obtain ⟨declaration, declared, rfl⟩ := List.mem_map.1 there
    exact ⟨declaration, declared, fit.isOf reported⟩
  · have count := count_of_fits fits
    rw [List.countP_map, List.length_map, ← stored] at count
    exact count

end Build

end TableSchema
