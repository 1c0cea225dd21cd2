import TableSchema.Proofs.Build.Fates

set_option autoImplicit false

namespace TableSchema

namespace Registry

def takenSlots (registry : Registry) : List NamespaceSlot :=
  registry.namespaces.map (namespaceSlot ·.name)

theorem not_mem_takenSlots_iff {registry : Registry} {name : String} :
    namespaceSlot name ∉ registry.takenSlots ↔
      ¬ registry.StoresName name ∧ ¬ registry.StoresRival name := by
  constructor
  · intro free
    constructor
    · rintro ⟨stored, member, rfl⟩
      exact free (List.mem_map.2 ⟨stored, member, rfl⟩)
    · rintro ⟨rival, member, _, same⟩
      exact free (List.mem_map.2 ⟨rival, member, same⟩)
  · rintro ⟨unnamed, alone⟩ taken
    obtain ⟨stored, member, same⟩ := List.mem_map.1 taken
    by_cases named : stored.name = name
    · exact unnamed ⟨stored, member, named⟩
    · exact alone ⟨stored, member, named, same⟩

end Registry

/-- A lowering without errors, to a definition that keeps the rules. -/
structure Lowering.IsGood (lowered : Lowering) : Prop where
  complete : lowered.isComplete = true
  valid : ∃ compiled, lowered.definition.validate = .ok compiled

namespace Registry

namespace Sound

variable {registry : Registry}

theorem exists_stored_iff (sound : registry.Sound) (ns : Namespace) :
    (∃ next, registry.answer (.register ns) = .ok next) ↔
      (∃ compiled, ns.validate = .ok compiled) ∧ namespaceSlot ns.name ∉ registry.takenSlots := by
  have law := (sound.registrationCase ns).law sound
  rw [not_mem_takenSlots_iff]
  constructor
  · rintro ⟨next, answered⟩
    have kept : next = (registry.answer (.register ns)).toOption.getD registry := by
      rw [answered]
      rfl
    obtain ⟨free, alone, valid⟩ := law.accepted.1 (kept ▸ answered)
    exact ⟨valid, free, alone⟩
  · rintro ⟨valid, free, alone⟩
    exact ⟨_, law.accepted.2 ⟨free, alone, valid⟩⟩

theorem isRegistered_iff (sound : registry.Sound) {lowered : Lowering} {fate : Fate}
    (outcome : FateCase registry lowered fate) :
    fate.isRegistered = true ↔
      lowered.IsGood ∧ namespaceSlot lowered.definition.name ∉ registry.takenSlots := by
  have stored_iff := sound.exists_stored_iff lowered.definition
  cases outcome with
  | registered complete accepted answered =>
    obtain ⟨valid, free⟩ := stored_iff.1 ⟨_, answered⟩
    have good : lowered.IsGood := ⟨Lowering.isComplete_iff.2 complete, valid⟩
    exact iff_of_true rfl ⟨good, free⟩
  | refused complete answered =>
    refine iff_of_false Bool.false_ne_true ?_
    rintro ⟨good, free⟩
    obtain ⟨next, stored⟩ := stored_iff.2 ⟨good.valid, free⟩
    rw [answered] at stored
    cases stored
  | partlyValid partly | partlyInvalid partly =>
    refine iff_of_false Bool.false_ne_true ?_
    rintro ⟨good, _⟩
    exact partly (Lowering.isComplete_iff.1 good.complete)

theorem keep (sound : registry.Sound) {lowered : Lowering} {fate : Fate}
    (outcome : FateCase registry lowered fate) : (registry.keep fate).Sound := by
  cases outcome with
  | @registered compiled complete accepted answered =>
    have performed : registry.perform (.register lowered.definition) =
        registry.keep (.registered compiled) := by
      rw [Registry.perform_of_answer_eq_ok answered]
      rfl
    rw [← performed]
    exact sound.perform _
  | refused => exact sound
  | partlyValid => exact sound
  | partlyInvalid => exact sound

end Sound

theorem takenSlots_keep (registry : Registry) {lowered : Lowering} {fate : Fate}
    (fits : fate.Fits lowered) (registered : fate.isRegistered = true) :
    (registry.keep fate).takenSlots =
      registry.takenSlots ++ [namespaceSlot lowered.definition.name] := by
  cases fits with
  | @registered compiled complete accepted =>
    rw [← Namespace.name_of_validate_eq_ok accepted]
    exact List.map_append
  | refused => cases registered
  | incomplete => cases registered

/-- All of several namespaces are registered exactly if they are good and all slots differ, those
that are taken before included. -/
theorem Sound.all_registered_iff {registry : Registry} (sound : registry.Sound)
    (lowered : List Lowering) :
    (∀ fate ∈ registry.fates lowered, fate.isRegistered = true) ↔
      (∀ one ∈ lowered, one.IsGood) ∧
        (registry.takenSlots ++ lowered.map (namespaceSlot ·.definition.name)).Nodup := by
  induction lowered generalizing registry with
  | nil =>
    have differ : registry.takenSlots.Nodup := sound.slots.nodup_keys
    simp [fates, differ]
  | cons first rest ih =>
    have outcome := registry.fateCase first
    have taken := takenSlots_keep registry outcome.fits
    rw [fates, List.forall_mem_cons, ih (sound.keep outcome), List.forall_mem_cons, List.map_cons]
    -- Once registered, the first moves its slot from those to come to those that are taken, and the
    -- list of all slots stays the same.
    constructor
    · rintro ⟨registered, good, differ⟩
      rw [taken registered, List.append_assoc, List.singleton_append] at differ
      exact ⟨⟨((sound.isRegistered_iff outcome).1 registered).1, good⟩, differ⟩
    · rintro ⟨⟨own, good⟩, differ⟩
      have free : namespaceSlot first.definition.name ∉ registry.takenSlots := by
        rw [List.nodup_middle, List.nodup_cons] at differ
        exact fun taken => differ.1 (List.mem_append_left _ taken)
      have registered := (sound.isRegistered_iff outcome).2 ⟨own, free⟩
      refine ⟨registered, good, ?_⟩
      rw [taken registered, List.append_assoc, List.singleton_append]
      exact differ

end Registry

theorem forall₂_stored_of_fits {lowered : List Lowering} {fates : List Fate}
    (fits : List.Forall₂ Fate.Fits lowered fates)
    (registered : ∀ fate ∈ fates, fate.isRegistered = true) :
    List.Forall₂ (fun one compiled => one.definition.validate = .ok compiled) lowered
      (fates.flatMap Fate.stored) := by
  induction fits with
  | nil => exact .nil
  | cons first _ ih =>
    obtain ⟨own, others⟩ := List.forall_mem_cons.1 registered
    cases first with
    | registered _ accepted => exact .cons accepted (ih others)
    | refused => cases own
    | incomplete => cases own

namespace Build

theorem isSuccess_iff_registered (options : BuildOptions) (lowered : List Lowering)
    (errors : List DeclarationError) :
    (ofLowerings options lowered errors).value.isSuccess = true ↔
      errors = [] ∧ ∀ fate ∈ fates lowered, fate.isRegistered = true := by
  rw [value_ofLowerings_eq_ofFates, BuildReport.isSuccess_ofFates_iff]
  have reported : ∀ fate ∈ fates lowered,
      (fate.isRegistered = true ↔ fate.failures = [] ∧ fate.errors = []) := by
    intro fate member
    obtain ⟨one, _, fit⟩ := exists_fits_of_mem (fates_fit lowered) member
    exact fit.isRegistered_iff
  rw [forall₂_congr reported]

theorem isSuccess_iff_good (options : BuildOptions) (lowered : List Lowering)
    (errors : List DeclarationError) :
    (ofLowerings options lowered errors).value.isSuccess = true ↔
      errors = [] ∧ (∀ one ∈ lowered, one.IsGood) ∧
        (lowered.map (namespaceSlot ·.definition.name)).Nodup := by
  rw [isSuccess_iff_registered, fates, Registry.Sound.empty.all_registered_iff]
  rfl

theorem isSuccess_perm (options : BuildOptions) {lowered reordered : List Lowering}
    (same : reordered.Perm lowered) (errors : List DeclarationError) :
    (ofLowerings options reordered errors).value.isSuccess =
      (ofLowerings options lowered errors).value.isSuccess := by
  have good : (∀ one ∈ reordered, one.IsGood) ↔ ∀ one ∈ lowered, one.IsGood := by
    simp only [same.mem_iff]
  have differ := (same.map (namespaceSlot ·.definition.name)).nodup_iff
  rw [Bool.eq_iff_iff, isSuccess_iff_good, isSuccess_iff_good, good, differ]

/-- A build succeeds exactly if everything could be loaded, every declaration lowers completely to
a namespace that keeps the rules, and the slots of the declared names differ. Then the registry
holds the compiled form of every declaration, in input order. Reordered declarations have the same
success. -/
theorem success_iff_all_good (options : BuildOptions) (loaded : Loaded) (defaultHints : HintSet) :
    ((ofLoaded options loaded defaultHints).value.isSuccess = true ↔
        loaded.errors = [] ∧
          (∀ declaration ∈ loaded.declarations, (declaration.lower defaultHints).IsGood) ∧
          (loaded.declarations.map (namespaceSlot ·.namespaceName)).Nodup) ∧
      ((ofLoaded options loaded defaultHints).value.isSuccess = true →
        List.Forall₂
          (fun declaration compiled =>
            (declaration.lower defaultHints).definition.validate = .ok compiled)
          loaded.declarations (ofLoaded options loaded defaultHints).value.registry.namespaces) ∧
      ∀ reordered : List Declaration, reordered.Perm loaded.declarations →
        (ofLoaded options ⟨reordered, loaded.errors⟩ defaultHints).value.isSuccess =
            (ofLoaded options loaded defaultHints).value.isSuccess ∧
          (ofLoaded options ⟨reordered, loaded.errors⟩ defaultHints).value.outcome =
            (ofLoaded options loaded defaultHints).value.outcome := by
  refine ⟨?_, ?_, ?_⟩
  · rw [ofLoaded, isSuccess_iff_good, List.forall_mem_map, List.map_map]
    rfl
  · intro success
    obtain ⟨_, registered⟩ := (isSuccess_iff_registered options _ loaded.errors).1 success
    have stored := forall₂_stored_of_fits (fates_fit _) registered
    rw [ofLoaded, value_ofLowerings_eq_ofFates, BuildReport.namespaces_ofFates]
    exact List.forall₂_map_left_iff.1 stored
  · intro reordered same
    have success := isSuccess_perm options (same.map (·.lower defaultHints)) loaded.errors
    refine ⟨success, ?_⟩
    rw [BuildReport.outcome, BuildReport.outcome]
    exact congrArg (fun success => if success then Event.buildComplete else Event.buildFailed)
      success

def separateDeclarations : List Declaration :=
  [{ namespaceName := "inventory", tables := [("Item", .shorthand "uint32")]
     deploy := .empty, codegenHints := none },
   { namespaceName := "orders", tables := [("Open", .shorthand "uint64")]
     deploy := .empty, codegenHints := some ["dataStruct"] }]

theorem separateDeclarations_succeed :
    (ofLoaded .default ⟨separateDeclarations, []⟩ .default).value.isSuccess = true ∧
      (ofLoaded .default ⟨separateDeclarations.reverse, []⟩ .default).value.isSuccess = true ∧
      List.Forall₂
        (fun declaration compiled =>
          (declaration.lower .default).definition.validate = .ok compiled)
        separateDeclarations
        (ofLoaded .default ⟨separateDeclarations, []⟩ .default).value.registry.namespaces := by
  obtain ⟨success_iff, registered, reordered⟩ :=
    success_iff_all_good .default ⟨separateDeclarations, []⟩ .default
  have good : ∀ declaration ∈ separateDeclarations, (declaration.lower .default).IsGood := by
    intro declaration member
    have silent : (declaration.lower .default).isComplete = true ∧
        (declaration.lower .default).definition.violations = [] := by
      revert declaration
      decide +kernel
    exact ⟨silent.1, _, Namespace.validate_eq_ok_iff.2 ⟨silent.2, rfl⟩⟩
  have success := success_iff.2 ⟨rfl, good, by decide +kernel⟩
  have same := (reordered _ (List.reverse_perm separateDeclarations)).1
  exact ⟨success, same.trans success, registered success⟩

end Build

end TableSchema
