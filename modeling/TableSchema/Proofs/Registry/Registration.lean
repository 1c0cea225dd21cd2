import TableSchema.Proofs.Registry.Lookup

/-!
What a registry does with a namespace that is handed to it.

The name decides first, then the slot, then the rules. A namespace that passes all three is stored
at the end, and nothing else changes; one that fails changes nothing. It makes no difference
whether a namespace is validated by the registry or was validated before.
-/

set_option autoImplicit false

namespace TableSchema

namespace Registry

/-- A namespace of the given name is stored. -/
def StoresName (registry : Registry) (name : String) : Prop :=
  ∃ stored ∈ registry.namespaces, stored.name = name

/-- A namespace of another name is stored that has the slot of the given name. -/
def StoresRival (registry : Registry) (name : String) : Prop :=
  ∃ stored ∈ registry.namespaces,
    stored.name ≠ name ∧ namespaceSlot stored.name = namespaceSlot name

/-- The ways in which a registration can go, each with its reason and its answer. -/
inductive RegistrationCase (registry : Registry) (ns : Namespace) :
    Except RegistrationError Registry → Prop where
  | duplicate (known : registry.StoresName ns.name) :
    RegistrationCase registry ns (.error (.duplicateNamespace ns.name))
  | collision (rival : NormalNamespace) (free : ¬ registry.StoresName ns.name)
    (taken : registry.StoresRival ns.name)
    (only : registry.namespaces.filter (namespaceSlot ·.name = namespaceSlot ns.name) = [rival]) :
    RegistrationCase registry ns (.error (.slotCollision ns.name rival.name))
  | invalid (found : List Violation) (free : ¬ registry.StoresName ns.name)
    (alone : ¬ registry.StoresRival ns.name) (refused : ns.validate = .error found) :
    RegistrationCase registry ns (.error (.invalid ns.name found))
  | stored (compiled : NormalNamespace) (free : ¬ registry.StoresName ns.name)
    (alone : ¬ registry.StoresRival ns.name) (accepted : ns.validate = .ok compiled) :
    RegistrationCase registry ns (.ok (registry.store compiled))

theorem namespaces_store (registry : Registry) (ns : NormalNamespace) :
    (registry.store ns).namespaces = registry.namespaces ++ [ns] := rfl

theorem index_store (registry : Registry) (ns : NormalNamespace) :
    (registry.store ns).index = (ns.name, registry.size) :: registry.index := rfl

namespace Sound

variable {registry : Registry}

theorem lookup?_store (sound : registry.Sound) (ns : NormalNamespace) (name : String) :
    (registry.store ns).lookup? name =
      if name = ns.name then some ns else registry.lookup? name :=
  sound.names.bind_getElem?_push ns name

theorem slotHolder?_eq_none_iff (sound : registry.Sound) {name : String}
    (free : ¬ registry.StoresName name) :
    registry.slotHolder? name = none ↔ ¬ registry.StoresRival name := by
  rw [Option.eq_none_iff_forall_ne_some]
  constructor
  · rintro vacant ⟨rival, stored, _, same⟩
    exact vacant rival (sound.slotHolder?_eq_some_iff.2 ⟨stored, same⟩)
  · intro alone holder found
    obtain ⟨stored, same⟩ := sound.slotHolder?_eq_some_iff.1 found
    exact alone ⟨holder, stored, fun named => free ⟨holder, stored, named⟩, same⟩

theorem registrationCase (sound : registry.Sound) (ns : Namespace) :
    RegistrationCase registry ns (registry.register ns).value := by
  rw [value_register, value_checkVacant]
  by_cases known : registry.contains ns.name = true
  · rw [if_pos known]
    exact .duplicate (sound.contains_iff.1 known)
  · have free : ¬ registry.StoresName ns.name := fun stored => known (sound.contains_iff.2 stored)
    rw [if_neg known]
    cases holder : registry.slotHolder? ns.name with
    | some rival =>
      obtain ⟨stored, same⟩ := sound.slotHolder?_eq_some_iff.1 holder
      have unlike : rival.name ≠ ns.name := fun named => free ⟨rival, stored, named⟩
      refine .collision rival free ⟨rival, stored, unlike, same⟩ ?_
      exact (filter_key_eq_singleton_iff sound.slots.nodup_keys).2 ⟨stored, same⟩
    | none =>
      have alone := (sound.slotHolder?_eq_none_iff free).1 holder
      cases judged : ns.validate with
      | error found => exact .invalid found free alone judged
      | ok compiled => exact .stored compiled free alone judged

end Sound

/-- What is said of a namespace that a registry does not take, as violations. -/
inductive Tells (registry : Registry) (ns : Namespace) : List Violation → Prop where
  | duplicate (known : registry.StoresName ns.name) :
    Tells registry ns [⟨.duplicateNamespace, ns.name, none, none,
      s!"Namespace '{ns.name}' is already registered"⟩]
  | collision {rival : NormalNamespace} (stored : rival ∈ registry.namespaces)
    (same : namespaceSlot rival.name = namespaceSlot ns.name) :
    Tells registry ns [⟨.duplicateNamespace, ns.name, none, none,
      s!"Namespace '{ns.name}' has the same resource id as registered namespace " ++
        s!"'{rival.name}' (namespaces are truncated to {namespaceSlotBytes} bytes)"⟩]
  | invalid {found : List Violation} (refused : ns.validate = .error found) :
    Tells registry ns found

/-- What a registry answers to a namespace, and which registry comes after it. -/
structure RegistrationLaw (registry : Registry) (ns : Namespace)
    (answer : Except RegistrationError Registry) (next : Registry) : Prop where
  duplicate : answer = .error (.duplicateNamespace ns.name) ↔ registry.StoresName ns.name
  collision : (∃ existing, answer = .error (.slotCollision ns.name existing)) ↔
    ¬ registry.StoresName ns.name ∧ registry.StoresRival ns.name
  existing : ∀ existing, answer = .error (.slotCollision ns.name existing) →
    ∃ rival, rival.name = existing ∧
      registry.namespaces.filter (namespaceSlot ·.name = namespaceSlot ns.name) = [rival]
  invalid : ∀ found, answer = .error (.invalid ns.name found) ↔
    ¬ registry.StoresName ns.name ∧ ¬ registry.StoresRival ns.name ∧ ns.validate = .error found
  accepted : answer = .ok next ↔
    ¬ registry.StoresName ns.name ∧ ¬ registry.StoresRival ns.name ∧
      ∃ compiled, ns.validate = .ok compiled
  stored : ∀ compiled, answer = .ok next → ns.validate = .ok compiled →
    next.namespaces = registry.namespaces ++ [compiled] ∧
      ∀ name, next.lookup? name = if name = ns.name then some compiled else registry.lookup? name
  unchanged : ∀ e, answer = .error e → next = registry
  told : ∀ e, answer = .error e → e.namespaceName = ns.name ∧ registry.Tells ns e.violations

theorem perform_eq_getD (registry : Registry) (call : Call) :
    registry.perform call = (registry.answer call).toOption.getD registry := by
  cases answered : registry.answer call with
  | error e => rw [perform_of_answer_eq_error answered, Except.toOption, Option.getD_none]
  | ok next => rw [perform_of_answer_eq_ok answered, Except.toOption, Option.getD_some]

theorem RegistrationCase.law {registry : Registry} (sound : registry.Sound) {ns : Namespace}
    {answer : Except RegistrationError Registry} (outcome : RegistrationCase registry ns answer) :
    RegistrationLaw registry ns answer (answer.toOption.getD registry) := by
  -- The cases exclude each other, so each answer is given in its own case alone.
  cases outcome with
  | duplicate known =>
    have told : registry.Tells ns (RegistrationError.duplicateNamespace ns.name).violations :=
      .duplicate known
    constructor <;> simp [Except.toOption, known, told, RegistrationError.namespaceName]
  | collision rival free taken only =>
    obtain ⟨stored, same⟩ := List.mem_filter.1 (only ▸ List.mem_singleton_self rival)
    have told : registry.Tells ns (RegistrationError.slotCollision ns.name rival.name).violations :=
      .collision stored (of_decide_eq_true same)
    constructor <;> simp [Except.toOption, free, taken, only, told, RegistrationError.namespaceName]
  | invalid found free alone refused =>
    have told : registry.Tells ns (RegistrationError.invalid ns.name found).violations :=
      .invalid refused
    constructor <;> simp [Except.toOption, free, alone, refused, told,
      RegistrationError.namespaceName]
  | stored compiled free alone accepted =>
    have appended := namespaces_store registry compiled
    have answered (name : String) : (registry.store compiled).lookup? name =
        if name = ns.name then some compiled else registry.lookup? name := by
      rw [sound.lookup?_store, Namespace.name_of_validate_eq_ok accepted]
    constructor <;> simp [Except.toOption, free, alone, accepted, appended, answered]

theorem value_enterNormal_eq_value_enter (registry : Registry) {ns : Namespace}
    {compiled : NormalNamespace} (accepted : ns.validate = .ok compiled) :
    (registry.enterNormal compiled).value = (registry.enter ns).value := by
  rw [value_enterNormal, value_enter, accepted, Namespace.name_of_validate_eq_ok accepted]

/-- After any calls a registration keeps its law, and a namespace that was validated before gets
the same answer and leaves the same registry. -/
theorem register_after_run (calls : List Call) (ns : Namespace) :
    RegistrationLaw (run calls) ns ((run calls).register ns).value
        ((run calls).perform (.register ns)) ∧
      ∀ compiled (accepted : ns.validate = .ok compiled),
        ((run calls).registerNormal compiled).value = ((run calls).register ns).value ∧
          (run calls).perform (.registerNormal ns compiled accepted) =
            (run calls).perform (.register ns) := by
  have sound := sound_run calls
  constructor
  · rw [perform_eq_getD, answer_register]
    exact (sound.registrationCase ns).law sound
  · intro compiled accepted
    have same := value_enterNormal_eq_value_enter (run calls) accepted
    constructor
    · rw [registerNormal, register, Logged.value_bind, Logged.value_bind, same]
    · rw [perform, perform, attempt, attempt, same]

end Registry

end TableSchema
