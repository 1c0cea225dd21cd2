import Mathlib.Data.List.InsertIdx
import TableSchema.Proofs.Build.Fates

/-!
A namespace that is not registered leaves no trace in a build.

It reserves neither its name nor its slot, so every other namespace has the fate that it would have
without it. Main result: an input that is not registered can be deleted from a build, which then
reports all the same but that input's own failure and errors; with all such inputs deleted the
build succeeds.
-/

set_option autoImplicit false

namespace TableSchema

namespace Fate

theorem stored_of_not_isRegistered {fate : Fate} (outside : fate.isRegistered = false) :
    fate.stored = [] := by
  cases fate with
  | registered compiled => cases outside
  | refused failure => rfl
  | incomplete errors failure => rfl

theorem flatMap_eq_of_getElem? {β : Type} (f : Fate → List β) {fates : List Fate} {i : Nat}
    {fate : Fate} (there : fates[i]? = some fate) :
    fates.flatMap f =
      (fates.take i).flatMap f ++ f fate ++ (fates.drop (i + 1)).flatMap f := by
  obtain ⟨below, rfl⟩ := List.getElem?_eq_some_iff.1 there
  conv_lhs => rw [← List.take_append_drop i fates, List.drop_eq_getElem_cons below]
  rw [List.flatMap_append, List.flatMap_cons, List.append_assoc]

theorem flatMap_eraseIdx {β : Type} (f : Fate → List β) (fates : List Fate) (i : Nat) :
    (fates.eraseIdx i).flatMap f =
      (fates.take i).flatMap f ++ (fates.drop (i + 1)).flatMap f := by
  rw [List.eraseIdx_eq_take_drop_succ, List.flatMap_append]

end Fate

namespace Registry

theorem keep_of_not_isRegistered (registry : Registry) {fate : Fate}
    (outside : fate.isRegistered = false) : registry.keep fate = registry := by
  rw [keep, Fate.stored_of_not_isRegistered outside]
  rfl

theorem fates_take (registry : Registry) (lowered : List Lowering) (i : Nat) :
    registry.fates (lowered.take i) = (registry.fates lowered).take i := by
  induction lowered generalizing registry i with
  | nil => simp [fates]
  | cons first rest ih =>
    cases i with
    | zero => rfl
    | succ i => rw [List.take_succ_cons, fates, fates, List.take_succ_cons, ih]

theorem fates_eraseIdx {registry : Registry} {lowered : List Lowering} {i : Nat} {fate : Fate}
    (there : (registry.fates lowered)[i]? = some fate) (outside : fate.isRegistered = false) :
    registry.fates (lowered.eraseIdx i) = (registry.fates lowered).eraseIdx i := by
  induction lowered generalizing registry i with
  | nil => simp [fates] at there
  | cons first rest ih =>
    cases i with
    | zero =>
      -- The rest meets the registry that the first has met, since the first left it unchanged.
      have own : registry.fate first = fate := by simpa [fates] using there
      have unchanged : registry.keep (registry.fate first) = registry := by
        rw [own]
        exact registry.keep_of_not_isRegistered outside
      rw [List.eraseIdx_cons_zero, fates, unchanged, List.eraseIdx_cons_zero]
    | succ i =>
      have later : ((registry.keep (registry.fate first)).fates rest)[i]? = some fate := by
        simpa [fates] using there
      rw [List.eraseIdx_cons_succ, fates, ih later, fates, List.eraseIdx_cons_succ]

end Registry

section

variable {α : Type}

/-- The inputs that are registered. -/
def registeredOf (inputs : List α) (fates : List Fate) : List α :=
  ((inputs.zip fates).filter (·.2.isRegistered)).map (·.1)

theorem registeredOf_cons (input : α) (inputs : List α) (fate : Fate) (fates : List Fate) :
    registeredOf (input :: inputs) (fate :: fates) =
      if fate.isRegistered then input :: registeredOf inputs fates
      else registeredOf inputs fates := by
  unfold registeredOf
  cases registered : fate.isRegistered <;> simp [registered]

theorem Registry.fates_registeredOf (registry : Registry) (lower : α → Lowering)
    (inputs : List α) :
    registry.fates ((registeredOf inputs (registry.fates (inputs.map lower))).map lower) =
      (registry.fates (inputs.map lower)).filter Fate.isRegistered := by
  induction inputs generalizing registry with
  | nil => rfl
  | cons first rest ih =>
    rw [List.map_cons, fates, registeredOf_cons]
    cases registered : (registry.fate (lower first)).isRegistered with
    | true =>
      rw [List.filter_cons_of_pos registered, if_pos rfl, List.map_cons, fates, ih]
    | false =>
      have unchanged := registry.keep_of_not_isRegistered registered
      rw [List.filter_cons_of_neg (by simp [registered]), if_neg Bool.false_ne_true, unchanged, ih]

end

/-- What is left of a build without an input of the given fate: the same registry, and every failure
and every error but those of the input, which follow those of the inputs before it. -/
structure BuildReport.IsLeftWithout (rest whole earlier : BuildReport) (fate : Fate) : Prop where
  registry : rest.registry = whole.registry
  single : fate.failures.length ≤ 1
  failures : ∃ later, whole.failures = earlier.failures ++ fate.failures ++ later ∧
    rest.failures = earlier.failures ++ later
  declarationErrors : ∃ later,
    whole.declarationErrors = earlier.declarationErrors ++ fate.errors ++ later ∧
      rest.declarationErrors = earlier.declarationErrors ++ later

/-- The fates of the inputs of a build, of which those that are not registered touch nothing but
what is reported of them. `clean` is the build without errors met before. -/
structure IsolatesFailures {α : Type} (build clean : List α → BuildReport) (fates : List Fate)
    (inputs : List α) : Prop where
  each : fates.length = inputs.length
  adds : ∀ i fate, fates[i]? = some fate →
    (build (inputs.take (i + 1))).registry.namespaces =
      (build (inputs.take i)).registry.namespaces ++ fate.stored
  registered : (build inputs).registry.namespaces = fates.flatMap Fate.stored
  deletion : ∀ i fate, fates[i]? = some fate → fate.isRegistered = false →
    (build (inputs.eraseIdx i)).IsLeftWithout (build inputs) (build (inputs.take i)) fate
  success : (clean (registeredOf inputs fates)).isSuccess = true
  registry : (clean (registeredOf inputs fates)).registry = (build inputs).registry

namespace BuildReport

theorem ofFates_eraseIdx (errors : List DeclarationError) {fates : List Fate} {i : Nat}
    {fate : Fate} (there : fates[i]? = some fate) (outside : fate.isRegistered = false) :
    (ofFates errors (fates.eraseIdx i)).IsLeftWithout (ofFates errors fates)
      (ofFates errors (fates.take i)) fate where
  registry := by
    have stored := Fate.flatMap_eq_of_getElem? Fate.stored there
    rw [Fate.stored_of_not_isRegistered outside, List.append_nil,
      ← Fate.flatMap_eraseIdx] at stored
    rw [ofFates, ofFates, stored]
  single := fate.length_failures_le
  failures := ⟨(fates.drop (i + 1)).flatMap Fate.failures,
    Fate.flatMap_eq_of_getElem? Fate.failures there, Fate.flatMap_eraseIdx Fate.failures fates i⟩
  declarationErrors := by
    refine ⟨(fates.drop (i + 1)).flatMap Fate.errors, ?_, ?_⟩
    · simp only [ofFates, Fate.flatMap_eq_of_getElem? Fate.errors there, List.append_assoc]
    · simp only [ofFates, Fate.flatMap_eraseIdx Fate.errors, List.append_assoc]

theorem isSuccess_ofFates_filter (fates : List Fate) :
    (ofFates [] (fates.filter Fate.isRegistered)).isSuccess = true := by
  rw [isSuccess_ofFates_iff]
  refine ⟨rfl, ?_⟩
  intro fate member
  have registered := (List.mem_filter.1 member).2
  cases fate with
  | registered compiled => exact ⟨rfl, rfl⟩
  | refused failure => cases registered
  | incomplete errors failure => cases registered

theorem registry_ofFates_filter (errors : List DeclarationError) (fates : List Fate) :
    (ofFates [] (fates.filter Fate.isRegistered)).registry = (ofFates errors fates).registry := by
  have stored : (fates.filter Fate.isRegistered).flatMap Fate.stored =
      fates.flatMap Fate.stored := by
    induction fates with
    | nil => rfl
    | cons first rest ih =>
      cases registered : first.isRegistered with
      | true => rw [List.filter_cons_of_pos registered, List.flatMap_cons, List.flatMap_cons, ih]
      | false =>
        rw [List.filter_cons_of_neg (by simp [registered]), List.flatMap_cons, ih,
          Fate.stored_of_not_isRegistered registered, List.nil_append]
  rw [ofFates, ofFates, stored]

end BuildReport

namespace Build

theorem fates_map_take {α : Type} (lower : α → Lowering) (inputs : List α) (i : Nat) :
    fates ((inputs.take i).map lower) = (fates (inputs.map lower)).take i := by
  rw [List.map_take]
  exact Registry.fates_take Registry.empty (inputs.map lower) i

theorem isolatesFailures_ofLowerings {α : Type} (options : BuildOptions) (lower : α → Lowering)
    (errors : List DeclarationError) (inputs : List α) :
    IsolatesFailures (fun inputs => (ofLowerings options (inputs.map lower) errors).value)
      (fun inputs => (ofLowerings options (inputs.map lower) []).value)
      (fates (inputs.map lower)) inputs where
  each := by
    have fits := fates_fit (inputs.map lower)
    rw [← fits.length_eq, List.length_map]
  adds := by
    intro i fate there
    rw [value_ofLowerings_eq_ofFates, value_ofLowerings_eq_ofFates, BuildReport.namespaces_ofFates,
      BuildReport.namespaces_ofFates, fates_map_take, fates_map_take, List.take_add_one, there,
      List.flatMap_append]
    simp
  registered := by
    rw [value_ofLowerings_eq_ofFates, BuildReport.namespaces_ofFates]
  deletion := by
    intro i fate there outside
    have erased :
        fates ((inputs.eraseIdx i).map lower) = (fates (inputs.map lower)).eraseIdx i := by
      rw [← List.eraseIdx_map]
      exact Registry.fates_eraseIdx there outside
    rw [value_ofLowerings_eq_ofFates, value_ofLowerings_eq_ofFates, value_ofLowerings_eq_ofFates,
      erased, fates_map_take]
    exact BuildReport.ofFates_eraseIdx errors there outside
  success := by
    rw [value_ofLowerings_eq_ofFates, fates, fates, Registry.fates_registeredOf]
    exact BuildReport.isSuccess_ofFates_filter _
  registry := by
    rw [value_ofLowerings_eq_ofFates, value_ofLowerings_eq_ofFates, fates, fates,
      Registry.fates_registeredOf]
    exact BuildReport.registry_ofFates_filter errors _

/-- An input that is not registered can be deleted from a build of declarations or of definitions:
the registry stays the same, and so does all that is reported of others. A build of the registered
inputs alone succeeds with that registry. -/
theorem rejected_leave_no_trace (options : BuildOptions) :
    (∀ (loaded : Loaded) (defaultHints : HintSet),
      IsolatesFailures
        (fun declarations =>
          (ofLoaded options ⟨declarations, loaded.errors⟩ defaultHints).value)
        (fun declarations => (ofDeclarations options declarations defaultHints).value)
        (fates (loaded.declarations.map (·.lower defaultHints))) loaded.declarations) ∧
      ∀ namespaces : List Namespace,
        IsolatesFailures (fun namespaces => (ofNamespaces options namespaces).value)
          (fun namespaces => (ofNamespaces options namespaces).value)
          (fates (namespaces.map fun ns => ⟨ns, []⟩)) namespaces := by
  constructor
  · intro loaded defaultHints
    have isolated := isolatesFailures_ofLowerings options
      (fun declaration : Declaration => declaration.lower defaultHints) loaded.errors
      loaded.declarations
    simpa only [ofDeclarations, ofLoaded] using isolated
  · intro namespaces
    exact isolatesFailures_ofLowerings options (fun ns : Namespace => ⟨ns, []⟩) [] namespaces

def crowdedDeclarations : List Declaration :=
  [{ namespaceName := "inventory_items", tables := [("Item", .shorthand "uint32")]
     deploy := .empty, codegenHints := none },
   { namespaceName := "inventory_items_old", tables := [("Item", .shorthand "uint32")]
     deploy := .empty, codegenHints := none },
   { namespaceName := "orders"
     tables := [("Open", .shorthand "uint64"),
       ("Closed", .full ⟨[("id", "bytes32")], ["id"], some "queue", .empty⟩)]
     deploy := .empty, codegenHints := none }]

theorem crowded_without_rival :
    (ofLoaded .default ⟨crowdedDeclarations.eraseIdx 1, []⟩ .default).value.IsLeftWithout
      (ofLoaded .default ⟨crowdedDeclarations, []⟩ .default).value
      (ofLoaded .default ⟨crowdedDeclarations.take 1, []⟩ .default).value
      (.refused ⟨"inventory_items_old",
        [.namespaceIdCollision "inventory_items_old" "inventory_items"]⟩) := by
  have isolated := (rejected_leave_no_trace .default).1 ⟨crowdedDeclarations, []⟩ .default
  have refused : (fates (crowdedDeclarations.map (·.lower .default)))[1]? =
      some (.refused ⟨"inventory_items_old",
        [.namespaceIdCollision "inventory_items_old" "inventory_items"]⟩) := by
    decide +kernel
  exact isolated.deletion 1 _ refused rfl

end Build

end TableSchema
