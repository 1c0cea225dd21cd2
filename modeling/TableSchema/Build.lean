import TableSchema.Declaration.Basic
import TableSchema.Registry

/-!
One build: declarations are lowered, validated, possibly in several chunks, and registered one by
one in input order.

A bad namespace is reported and the build goes on. The report holds every namespace that got into
the registry and every reason why one did not; the records tell what happened, in order.
-/

set_option autoImplicit false

namespace TableSchema

/-- How a build validates: in one piece, or in chunks for at most so many workers. -/
structure BuildOptions where
  parallel : Bool
  maxWorkers : Nat
  deriving DecidableEq, Repr

namespace BuildOptions

def default : BuildOptions := ⟨true, 4⟩

end BuildOptions

structure Loaded where
  declarations : List Declaration
  errors : List DeclarationError

namespace Loaded

def isClean (report : Loaded) : Bool :=
  report.errors.isEmpty

end Loaded

structure FailedNamespace where
  namespaceName : String
  violations : List Violation
  deriving DecidableEq, Repr

structure BuildReport where
  registry : Registry
  failures : List FailedNamespace
  declarationErrors : List DeclarationError

namespace BuildReport

def isSuccess (report : BuildReport) : Bool :=
  report.failures.isEmpty && report.declarationErrors.isEmpty

def violations (report : BuildReport) : List Violation :=
  report.failures.flatMap (·.violations)

def failedNames (report : BuildReport) : List String :=
  report.failures.map (·.namespaceName)

def outcome (report : BuildReport) : Event :=
  if report.isSuccess then .buildComplete else .buildFailed

def closingRecord (report : BuildReport) : LogRecord :=
  if report.isSuccess then .buildCompleted report.registry.size
  else .buildFailed report.registry.size report.failures.length report.declarationErrors.length

end BuildReport

/-- A list cut into chunks of a size, the last of which may be shorter. -/
def chunks {α : Type} (size : Nat) (positive : 0 < size) (items : List α) : List (List α) :=
  match items with
  | [] => []
  | item :: rest =>
    (item :: rest).take size :: chunks size positive ((item :: rest).drop size)
termination_by items.length
decreasing_by simp only [List.length_drop, List.length_cons]; omega

def clamp (low high : Nat) (_ordered : low ≤ high) (n : Nat) : Nat :=
  if n < low then low else if high < n then high else n

theorem clamp_pos {low high n : Nat} (ordered : low ≤ high) (h : 0 < low) :
    0 < clamp low high ordered n := by
  unfold clamp
  split
  · exact h
  · split <;> omega

/-- The least size at which so many workers can take so many items. -/
def chunkSize (items workers : Nat) : Nat :=
  (items + workers - 1) / workers

theorem chunkSize_pos {items workers : Nat} (hi : 0 < items) (hw : 0 < workers) :
    0 < chunkSize items workers :=
  Nat.div_pos (by omega) hw

namespace Build

def inOrder {α : Type} : List (Logged α) → Logged (List α)
  | [] => return []
  | first :: rest => do
    let value ← first
    let values ← inOrder rest
    return value :: values

/-- The namespaces as they are handed to workers, one chunk for each. -/
def workload (options : BuildOptions) (namespaces : List Namespace) : List (List Namespace) :=
  if h : options.parallel = true ∧ 2 ≤ namespaces.length then
    let count := namespaces.length
    let workers := clamp 1 count (by omega) options.maxWorkers
    chunks (chunkSize count workers)
      (chunkSize_pos (by omega) (clamp_pos _ (by omega))) namespaces
  else [namespaces]

def verdicts (options : BuildOptions) (namespaces : List Namespace) :
    Logged (List Verdict) := do
  let results ← inOrder ((workload options namespaces).map fun chunk =>
    inOrder (chunk.map Namespace.validateLogged))
  return results.flatten

/-- Takes up one namespace with its validation result. One that did not lower completely stays
out, and one whose name or slot is taken is rejected whatever its content. -/
def settle (report : BuildReport) (lowered : Lowering) (result : Verdict) :
    Logged BuildReport := do
  let ns := lowered.definition
  if lowered.isComplete then
    let taken : Registration ← match ← report.registry.checkVacant ns.name with
      | .error e => pure ⟨.error e, report.registry⟩
      | .ok () => match result with
        | .ok compiled => report.registry.enterNormal compiled
        | .error found => do
          let e ← Registry.rejectInvalid .build ns.name found
          pure ⟨.error e, report.registry⟩
    let failures := match taken.answer with
      | .ok () => []
      | .error e => [⟨e.namespaceName, e.violations⟩]
    return { report with registry := taken.registry, failures := report.failures ++ failures }
  else
    Logged.tell (.rejected ns.name (.malformedTables lowered.errors.length))
    let failures := match result with
      | .ok _ => []
      | .error found => [⟨ns.name, found⟩]
    return { report with
      failures := report.failures ++ failures
      declarationErrors := report.declarationErrors ++ lowered.errors }

def settleAll : BuildReport → List (Lowering × Verdict) → Logged BuildReport
  | report, [] => return report
  | report, (lowered, result) :: rest => do
    let report ← settle report lowered result
    settleAll report rest

def ofLowerings (options : BuildOptions) (lowered : List Lowering)
    (errors : List DeclarationError) : Logged BuildReport := do
  Logged.tell (.buildStarted lowered.length options.parallel)
  let results ← verdicts options (lowered.map (·.definition))
  let report ← settleAll ⟨Registry.empty, [], errors⟩ (lowered.zip results)
  Logged.tell report.closingRecord
  return report

def ofNamespaces (options : BuildOptions) (namespaces : List Namespace) : Logged BuildReport :=
  ofLowerings options (namespaces.map fun ns => ⟨ns, []⟩) []

def ofLoaded (options : BuildOptions) (loaded : Loaded) (defaultHints : HintSet) :
    Logged BuildReport :=
  ofLowerings options (loaded.declarations.map (·.lower defaultHints)) loaded.errors

def ofDeclarations (options : BuildOptions) (declarations : List Declaration)
    (defaultHints : HintSet) : Logged BuildReport :=
  ofLoaded options ⟨declarations, []⟩ defaultHints

end Build

end TableSchema
