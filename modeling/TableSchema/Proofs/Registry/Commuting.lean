import TableSchema.Proofs.Registry.Registration

set_option autoImplicit false

namespace TableSchema

namespace Registry

def outcome (registry : Registry) (ns : Namespace) : Except RegistrationError Unit :=
  (registry.answer (.register ns)).map fun _ => ()

def outcomes (registry : Registry) : List Namespace → List (Except RegistrationError Unit)
  | [] => []
  | ns :: rest => registry.outcome ns :: (registry.perform (.register ns)).outcomes rest

def registerAll (registry : Registry) (namespaces : List Namespace) : Registry :=
  namespaces.foldl (fun registry ns => registry.perform (.register ns)) registry

def accepts (registry : Registry) (ns : Namespace) : Bool :=
  (registry.outcome ns).isOk

theorem outcome_eq (registry : Registry) (ns : Namespace) :
    registry.outcome ns =
      match (registry.checkVacant ns.name).value with
      | .error e => .error e
      | .ok () => match ns.validate with
        | .ok _ => .ok ()
        | .error found => .error (.invalid ns.name found) := by
  rw [outcome, answer_register, value_register]
  cases (registry.checkVacant ns.name).value with
  | error e => rfl
  | ok vacant => cases ns.validate <;> rfl

theorem perform_register (registry : Registry) (ns : Namespace) :
    registry.perform (.register ns) =
      if registry.accepts ns then registry.store ns.normalForm else registry := by
  rw [perform_eq_getD, accepts, outcome]
  cases answered : registry.answer (.register ns) with
  | error e => rfl
  | ok next =>
    obtain ⟨_, compiled, accepted, rfl⟩ := value_register_eq_ok_iff.1 answered
    rw [(Namespace.validate_eq_ok_iff.1 accepted).2]
    rfl

theorem validate_of_accepts {registry : Registry} {ns : Namespace}
    (accepted : registry.accepts ns = true) : ns.validate = .ok ns.normalForm := by
  rw [accepts, outcome_eq] at accepted
  split at accepted
  · cases accepted
  · split at accepted
    · rename_i compiled judged
      rw [judged, (Namespace.validate_eq_ok_iff.1 judged).2]
    · cases accepted

theorem contains_store {registry : Registry} {stored : NormalNamespace} {name : String}
    (other : name ≠ stored.name) :
    (registry.store stored).contains name = registry.contains name := by
  have differ : (name == stored.name) = false := by simpa using other
  rw [contains, index_store, List.lookup_cons, differ]
  rfl

namespace Sound

variable {registry : Registry}

theorem slotHolder?_store (sound : registry.Sound) (stored : NormalNamespace) (name : String) :
    (registry.store stored).slotHolder? name =
      if namespaceSlot name = namespaceSlot stored.name then some stored
      else registry.slotHolder? name :=
  sound.slots.bind_getElem?_push stored (namespaceSlot name)

theorem outcome_store (sound : registry.Sound) {stored : NormalNamespace} {ns : Namespace}
    (apart : namespaceSlot ns.name ≠ namespaceSlot stored.name) :
    (registry.store stored).outcome ns = registry.outcome ns := by
  have other : ns.name ≠ stored.name := fun same => apart (congrArg namespaceSlot same)
  have vacancy : ((registry.store stored).checkVacant ns.name).value =
      (registry.checkVacant ns.name).value := by
    rw [value_checkVacant, value_checkVacant, contains_store other, sound.slotHolder?_store,
      if_neg apart]
  rw [outcome_eq, outcome_eq, vacancy]

theorem outcome_perform (sound : registry.Sound) {ns other : Namespace}
    (apart : namespaceSlot ns.name ≠ namespaceSlot other.name) :
    (registry.perform (.register other)).outcome ns = registry.outcome ns := by
  rw [perform_register]
  split_ifs
  · exact sound.outcome_store apart
  · rfl

theorem outcomes_eq_map (sound : registry.Sound) {namespaces : List Namespace}
    (apart : (namespaces.map (namespaceSlot ·.name)).Nodup) :
    registry.outcomes namespaces = namespaces.map registry.outcome := by
  induction namespaces generalizing registry with
  | nil => rfl
  | cons ns rest ih =>
    rw [List.map_cons, List.nodup_cons] at apart
    rw [outcomes, ih (sound.perform _) apart.2, List.map_cons]
    refine congrArg _ (List.map_congr_left fun later member => ?_)
    refine sound.outcome_perform fun same => apart.1 ?_
    exact List.mem_map.2 ⟨later, member, same⟩

theorem zip_outcomes (sound : registry.Sound) {namespaces : List Namespace}
    (apart : (namespaces.map (namespaceSlot ·.name)).Nodup) :
    namespaces.zip (registry.outcomes namespaces) =
      namespaces.map fun ns => (ns, registry.outcome ns) := by
  rw [sound.outcomes_eq_map apart, List.map_prod_left_eq_zip]

theorem namespaces_registerAll (sound : registry.Sound) {namespaces : List Namespace}
    (apart : (namespaces.map (namespaceSlot ·.name)).Nodup) :
    (registry.registerAll namespaces).namespaces =
      registry.namespaces ++ (namespaces.filter registry.accepts).map Namespace.normalForm := by
  induction namespaces generalizing registry with
  | nil => exact (List.append_nil _).symm
  | cons ns rest ih =>
    rw [List.map_cons, List.nodup_cons] at apart
    have later : rest.filter (registry.perform (.register ns)).accepts =
        rest.filter registry.accepts := by
      refine List.filter_congr fun later member => ?_
      rw [accepts, accepts, sound.outcome_perform]
      exact fun same => apart.1 (List.mem_map.2 ⟨later, member, same⟩)
    have all := ih (sound.perform (.register ns)) apart.2
    rw [later, perform_register] at all
    rw [registerAll, List.foldl_cons, ← registerAll, perform_register, all]
    split_ifs with accepted
    · rw [List.filter_cons_of_pos accepted, List.map_cons, namespaces_store, List.append_assoc,
        List.singleton_append]
    · rw [List.filter_cons_of_neg accepted]

theorem registerAll (sound : registry.Sound) (namespaces : List Namespace) :
    (registry.registerAll namespaces).Sound := by
  induction namespaces generalizing registry with
  | nil => exact sound
  | cons ns rest ih => exact ih (sound.perform _)

theorem lookup?_eq_of_perm {other : Registry} (sound : registry.Sound) (sound' : other.Sound)
    (same : registry.namespaces.Perm other.namespaces) (name : String) :
    registry.lookup? name = other.lookup? name := by
  ext ns
  rw [sound.lookup?_eq_some_iff, sound'.lookup?_eq_some_iff, same.mem_iff]

end Sound

/-- After any calls, namespaces of different slots can be registered in any order: each is told the
same, and the registry answers the same afterwards. Those that are accepted are stored at the end,
in the order in which they come. -/
theorem registrations_commute (calls : List Call) {namespaces reordered : List Namespace}
    (apart : (namespaces.map (namespaceSlot ·.name)).Nodup) (same : reordered.Perm namespaces) :
    (reordered.zip ((run calls).outcomes reordered)).Perm
        (namespaces.zip ((run calls).outcomes namespaces)) ∧
      (∀ name,
        ((run calls).registerAll reordered).contains name =
            ((run calls).registerAll namespaces).contains name ∧
          ((run calls).registerAll reordered).lookup? name =
            ((run calls).registerAll namespaces).lookup? name) ∧
      ((run calls).registerAll reordered).size = ((run calls).registerAll namespaces).size ∧
      ∃ accepted : Namespace → Bool,
        (∀ ns ∈ namespaces, accepted ns = true ↔
          (ns, .ok ()) ∈ namespaces.zip ((run calls).outcomes namespaces)) ∧
        (∀ ns ∈ namespaces, accepted ns = true → ns.validate = .ok ns.normalForm) ∧
        ((run calls).registerAll namespaces).namespaces =
          (run calls).namespaces ++ (namespaces.filter accepted).map Namespace.normalForm ∧
        ((run calls).registerAll reordered).namespaces =
          (run calls).namespaces ++ (reordered.filter accepted).map Namespace.normalForm := by
  have sound := sound_run calls
  have apart' : (reordered.map (namespaceSlot ·.name)).Nodup := (same.map _).nodup_iff.2 apart
  have stored := sound.namespaces_registerAll apart
  have stored' := sound.namespaces_registerAll apart'
  have entries : ((run calls).registerAll reordered).namespaces.Perm
      ((run calls).registerAll namespaces).namespaces := by
    rw [stored, stored']
    exact ((same.filter _).map _).append_left _
  have lookups := (sound.registerAll reordered).lookup?_eq_of_perm (sound.registerAll namespaces)
    entries
  rw [sound.zip_outcomes apart, sound.zip_outcomes apart']
  refine ⟨same.map _, fun name => ⟨?_, lookups name⟩, entries.length_eq,
    (run calls).accepts, fun ns member => ?_, fun ns _ => validate_of_accepts, stored, stored'⟩
  · rw [Bool.eq_iff_iff, (sound.registerAll reordered).contains_iff_lookup?,
      (sound.registerAll namespaces).contains_iff_lookup?, lookups]
  · rw [accepts]
    cases outcome : (run calls).outcome ns <;> simp [Except.isOk, Except.toBool, member, outcome]

def latecomers : List Namespace :=
  [.ofTables "orders" [⟨"Open", [⟨"id", "uint64"⟩], ["id"], true, .empty⟩] .empty,
    .ofTables "inventory_items_old" [] .empty,
    .ofTables "returns" [⟨"Open", [⟨"id", "uint65"⟩], [], true, .empty⟩] .empty]

theorem latecomers_reversed :
    (latecomers.map (namespaceSlot ·.name)).Nodup ∧
      latecomers.reverse.Perm latecomers ∧
      (latecomers.reverse.zip
          ((run [.register (.ofTables "inventory_items" [] .empty)]).outcomes
            latecomers.reverse)).Perm
        (latecomers.zip
          [.ok (), .error (.slotCollision "inventory_items_old" "inventory_items"),
            .error (.invalid "returns" [.unknownType "returns" "Open" "id" "uint65"])]) := by
  have apart : (latecomers.map (namespaceSlot ·.name)).Nodup := by decide +kernel
  have same : latecomers.reverse.Perm latecomers := List.reverse_perm latecomers
  have told := (registrations_commute [.register (.ofTables "inventory_items" [] .empty)]
    apart same).1
  exact ⟨apart, same, told⟩

end Registry

end TableSchema
