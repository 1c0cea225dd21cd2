import TableSchema.Build
import TableSchema.Proofs.Registry.Runs

set_option autoImplicit false

namespace TableSchema

theorem flatten_chunks {α : Type} {size : Nat} (positive : 0 < size) (items : List α) :
    (chunks size positive items).flatten = items := by
  fun_induction chunks size positive items with
  | case1 => rfl
  | case2 item rest ih => rw [List.flatten_cons, ih, List.take_append_drop]

theorem length_chunks_le {α : Type} {size count : Nat} (positive : 0 < size) {items : List α}
    (fits : items.length ≤ count * size) : (chunks size positive items).length ≤ count := by
  fun_induction chunks size positive items generalizing count with
  | case1 => exact Nat.zero_le count
  | case2 item rest ih =>
    cases count with
    | zero => simp at fits
    | succ count =>
      have left : ((item :: rest).drop size).length ≤ count * size := by
        rw [List.length_drop]
        rw [Nat.succ_mul] at fits
        omega
      exact Nat.succ_le_succ (ih left)

theorem clamp_le {low high : Nat} (ordered : low ≤ high) (n : Nat) :
    clamp low high ordered n ≤ max low n := by
  unfold clamp
  split
  · exact le_max_left low n
  · split <;> omega

theorem le_mul_chunkSize {items workers : Nat} (someone : 0 < workers) :
    items ≤ workers * chunkSize items workers := by
  have enough := Nat.lt_mul_div_succ (items + workers - 1) someone
  rw [chunkSize]
  rw [Nat.mul_succ] at enough
  omega

namespace Build

theorem value_inOrder {α : Type} (steps : List (Logged α)) :
    (inOrder steps).value = steps.map (·.value) := by
  induction steps with
  | nil => rfl
  | cons first rest ih =>
    rw [inOrder, Logged.value_bind, Logged.value_bind, ih]
    rfl

theorem flatten_workload (options : BuildOptions) (namespaces : List Namespace) :
    (workload options namespaces).flatten = namespaces := by
  unfold workload
  split_ifs
  · exact flatten_chunks _ namespaces
  · exact List.flatten_singleton

theorem length_workload_le (options : BuildOptions) (namespaces : List Namespace) :
    (workload options namespaces).length ≤ max 1 options.maxWorkers := by
  unfold workload
  split_ifs with several
  · have ordered : 1 ≤ namespaces.length := by omega
    calc _ ≤ clamp 1 namespaces.length ordered options.maxWorkers :=
          length_chunks_le _ (le_mul_chunkSize (clamp_pos ordered Nat.one_pos))
      _ ≤ max 1 options.maxWorkers := clamp_le ordered options.maxWorkers
  · exact le_max_left 1 options.maxWorkers

theorem value_verdicts (options : BuildOptions) (namespaces : List Namespace) :
    (verdicts options namespaces).value = namespaces.map Namespace.validate := by
  have chunked : (verdicts options namespaces).value =
      ((workload options namespaces).map (·.map Namespace.validate)).flatten := by
    rw [verdicts, Logged.value_bind, Logged.value_pure, value_inOrder, List.map_map]
    congr 2
    funext chunk
    rw [Function.comp_apply, value_inOrder, List.map_map]
    rfl
  rw [chunked, ← List.map_flatten, flatten_workload]

theorem value_ofLowerings (options : BuildOptions) (lowered : List Lowering)
    (errors : List DeclarationError) :
    (ofLowerings options lowered errors).value =
      (settleAll ⟨Registry.empty, [], errors⟩
        (lowered.map fun one => (one, one.definition.validate))).value := by
  simp only [ofLowerings, Logged.value_bind, Logged.value_pure, value_verdicts, List.map_map]
  congr 2
  exact List.map_prod_left_eq_zip.symm

/-- Clamping between bounds that need not be ordered. -/
def clamp? (low high n : Nat) : Option Nat :=
  if ordered : low ≤ high then some (clamp low high ordered n) else none

/-- The size of chunks for a number of workers that need not be positive. -/
def chunkSize? (items workers : Nat) : Option Nat :=
  if 0 < workers then some (chunkSize items workers) else none

/-- Chunks of a size that need not be positive. -/
def chunks? {α : Type} (size : Nat) (items : List α) : Option (List (List α)) :=
  if positive : 0 < size then some (chunks size positive items) else none

/-- The workload by steps of which each can fail. -/
def workload? (options : BuildOptions) (namespaces : List Namespace) :
    Option (List (List Namespace)) :=
  if options.parallel = true ∧ 2 ≤ namespaces.length then do
    let workers ← clamp? 1 namespaces.length options.maxWorkers
    let size ← chunkSize? namespaces.length workers
    chunks? size namespaces
  else some [namespaces]

theorem workload?_eq_some (options : BuildOptions) (namespaces : List Namespace) :
    workload? options namespaces = some (workload options namespaces) := by
  unfold workload? workload
  split_ifs with several
  · have ordered : 1 ≤ namespaces.length := by omega
    have someone : 0 < clamp 1 namespaces.length ordered options.maxWorkers :=
      clamp_pos ordered Nat.one_pos
    have positive := chunkSize_pos (Nat.lt_of_lt_of_le Nat.one_pos ordered) someone
    simp [clamp?, chunkSize?, chunks?, ordered, someone, positive]
  · rfl

/-- However the namespaces are cut, no step fails, there are no more chunks than workers, and every
namespace is validated in input order; so no report tells how the build was tuned. -/
theorem validation_independent_of_options (options : BuildOptions) (namespaces : List Namespace) :
    (verdicts options namespaces).value = namespaces.map Namespace.validate ∧
      workload? options namespaces = some (workload options namespaces) ∧
      (workload options namespaces).length ≤ max 1 options.maxWorkers ∧
      ∀ other,
        (ofNamespaces options namespaces).value = (ofNamespaces other namespaces).value ∧
        (∀ loaded defaultHints,
          (ofLoaded options loaded defaultHints).value =
            (ofLoaded other loaded defaultHints).value) ∧
        ∀ declarations defaultHints,
          (ofDeclarations options declarations defaultHints).value =
            (ofDeclarations other declarations defaultHints).value := by
  refine ⟨value_verdicts options namespaces, workload?_eq_some options namespaces,
    length_workload_le options namespaces, fun other => ?_⟩
  have same (lowered : List Lowering) (errors : List DeclarationError) :
      (ofLowerings options lowered errors).value = (ofLowerings other lowered errors).value := by
    rw [value_ofLowerings, value_ofLowerings]
  exact ⟨same _ _, fun _ _ => same _ _, fun _ _ => same _ _⟩

example : chunks 3 (by decide) [1, 2, 3, 4, 5, 6, 7] = [[1, 2, 3], [4, 5, 6], [7]] := by cbv

end Build

end TableSchema
