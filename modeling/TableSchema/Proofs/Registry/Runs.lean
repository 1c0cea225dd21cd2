import TableSchema.Proofs.Validation.Findings
import TableSchema.Registry

/-!
Runs of a registry, and what holds after each of them.

A call either leaves the registry as it was or stores one compiled namespace whose name and slot
were free. The indexes therefore tell the position of every name and every slot, and every stored
namespace is the compiled form of its definition.
-/

set_option autoImplicit false

namespace TableSchema

namespace Namespace

@[simp] theorem value_validateLogged (ns : Namespace) : ns.validateLogged.value = ns.validate := rfl

end Namespace

namespace Registry

def store (registry : Registry) (ns : NormalNamespace) : Registry :=
  (registry.insert ns).value.registry

theorem value_checkVacant (registry : Registry) (name : String) :
    (registry.checkVacant name).value =
      if registry.contains name then .error (.duplicateNamespace name)
      else match registry.slotHolder? name with
        | some existing => .error (.slotCollision name existing.name)
        | none => .ok () := by
  rw [checkVacant]
  split_ifs
  · rfl
  · cases registry.slotHolder? name <;> rfl

theorem value_checkVacant_eq_ok_iff {registry : Registry} {name : String} :
    (registry.checkVacant name).value = .ok () ↔
      registry.contains name = false ∧ registry.slotHolder? name = none := by
  rw [value_checkVacant]
  cases registry.contains name <;> cases registry.slotHolder? name <;> simp

theorem value_enterNormal (registry : Registry) (ns : NormalNamespace) :
    (registry.enterNormal ns).value =
      match (registry.checkVacant ns.name).value with
      | .error e => ⟨.error e, registry⟩
      | .ok () => ⟨.ok (), registry.store ns⟩ := by
  rw [enterNormal, Logged.value_bind]
  cases (registry.checkVacant ns.name).value <;> rfl

theorem value_enter (registry : Registry) (ns : Namespace) :
    (registry.enter ns).value =
      match (registry.checkVacant ns.name).value with
      | .error e => ⟨.error e, registry⟩
      | .ok () => match ns.validate with
        | .ok compiled => ⟨.ok (), registry.store compiled⟩
        | .error found => ⟨.error (.invalid ns.name found), registry⟩ := by
  rw [enter, Logged.value_bind]
  cases (registry.checkVacant ns.name).value with
  | error e => rfl
  | ok vacant =>
    simp only [Logged.value_bind, Namespace.value_validateLogged]
    cases ns.validate <;> rfl

theorem value_register (registry : Registry) (ns : Namespace) :
    (registry.register ns).value =
      match (registry.checkVacant ns.name).value with
      | .error e => .error e
      | .ok () => match ns.validate with
        | .ok compiled => .ok (registry.store compiled)
        | .error found => .error (.invalid ns.name found) := by
  rw [register, Logged.value_bind, value_enter]
  cases (registry.checkVacant ns.name).value with
  | error e => rfl
  | ok vacant => cases ns.validate <;> rfl

theorem value_register_eq_ok_iff {registry next : Registry} {ns : Namespace} :
    (registry.register ns).value = .ok next ↔
      (registry.checkVacant ns.name).value = .ok () ∧
        ∃ compiled, ns.validate = .ok compiled ∧ next = registry.store compiled := by
  rw [value_register]
  cases (registry.checkVacant ns.name).value <;> cases ns.validate <;> simp [eq_comm]

/-- A call that may change a registry. A compiled namespace comes with what it was compiled
from. -/
inductive Call where
  | register (ns : Namespace)
  | registerNormal (source : Namespace) (ns : NormalNamespace) (accepted : source.validate = .ok ns)

def attempt (registry : Registry) : Call → Registration
  | .register ns => (registry.enter ns).value
  | .registerNormal _ ns _ => (registry.enterNormal ns).value

def answer (registry : Registry) (call : Call) : Except RegistrationError Registry :=
  (registry.attempt call).result

def perform (registry : Registry) (call : Call) : Registry :=
  (registry.attempt call).registry

theorem answer_register (registry : Registry) (ns : Namespace) :
    registry.answer (.register ns) = (registry.register ns).value := rfl

def run (calls : List Call) : Registry :=
  calls.foldl perform empty

/-- All that a call can do: it fails and leaves the registry as it was, or it stores a compiled
namespace whose name and slot were free. -/
theorem attempt_cases (registry : Registry) (call : Call) :
    (∃ e, registry.attempt call = ⟨.error e, registry⟩) ∨
      ∃ ns, ns.definition.validate = .ok ns ∧ registry.contains ns.name = false ∧
        registry.slotHolder? ns.name = none ∧
        registry.attempt call = ⟨.ok (), registry.store ns⟩ := by
  cases call with
  | register source =>
    rw [attempt, value_enter]
    cases vacancy : (registry.checkVacant source.name).value with
    | error e => exact Or.inl ⟨e, rfl⟩
    | ok vacant =>
      cases judged : source.validate with
      | error found => exact Or.inl ⟨_, rfl⟩
      | ok ns =>
        have definition := Namespace.definition_of_validate_eq_ok judged
        rw [← Namespace.name_of_validate_eq_ok judged] at vacancy
        obtain ⟨name, slot⟩ := value_checkVacant_eq_ok_iff.1 vacancy
        exact Or.inr ⟨ns, definition ▸ judged, name, slot, rfl⟩
  | registerNormal source ns accepted =>
    rw [attempt, value_enterNormal]
    cases vacancy : (registry.checkVacant ns.name).value with
    | error e => exact Or.inl ⟨e, rfl⟩
    | ok vacant =>
      have definition := Namespace.definition_of_validate_eq_ok accepted
      obtain ⟨name, slot⟩ := value_checkVacant_eq_ok_iff.1 vacancy
      exact Or.inr ⟨ns, definition ▸ accepted, name, slot, rfl⟩

theorem perform_cases (registry : Registry) (call : Call) :
    registry.perform call = registry ∨
      ∃ ns, ns.definition.validate = .ok ns ∧ registry.contains ns.name = false ∧
        registry.slotHolder? ns.name = none ∧ registry.perform call = registry.store ns := by
  rw [perform]
  obtain ⟨e, failed⟩ | ⟨ns, compiled, name, slot, stored⟩ := attempt_cases registry call
  · exact Or.inl (by rw [failed])
  · exact Or.inr ⟨ns, compiled, name, slot, by rw [stored]⟩

/-- A call that fails leaves the registry as it was, with its namespaces and both its indexes. -/
theorem perform_of_answer_eq_error {registry : Registry} {call : Call} {e : RegistrationError}
    (failed : registry.answer call = .error e) : registry.perform call = registry := by
  rw [answer] at failed
  rw [perform]
  obtain ⟨_, same⟩ | ⟨ns, _, _, _, stored⟩ := attempt_cases registry call
  · rw [same]
  · rw [stored] at failed
    cases failed

theorem perform_of_answer_eq_ok {registry next : Registry} {call : Call}
    (stored : registry.answer call = .ok next) : registry.perform call = next := by
  rw [answer, Registration.result] at stored
  rw [perform]
  cases told : (registry.attempt call).answer with
  | error e => rw [told] at stored; cases stored
  | ok done =>
    rw [told] at stored
    exact Except.ok.inj stored

/-- The index tells the position of every key among the entries, and of no other key. -/
def Indexes {κ : Type} [BEq κ] (key : NormalNamespace → κ) (entries : List NormalNamespace)
    (index : List (κ × Nat)) : Prop :=
  ∀ k i, index.lookup k = some i ↔ ∃ ns, entries[i]? = some ns ∧ key ns = k

private theorem getElem?_concat_eq_some_iff {α : Type} {items : List α} {last item : α} {i : Nat} :
    (items ++ [last])[i]? = some item ↔
      items[i]? = some item ∨ i = items.length ∧ item = last := by
  rcases Nat.lt_trichotomy i items.length with below | rfl | above
  · rw [List.getElem?_append_left below]
    simp [below.ne]
  · simp [eq_comm]
  · rw [List.getElem?_eq_none (by simp; omega), List.getElem?_eq_none above.le]
    simp [above.ne']

namespace Indexes

variable {κ : Type} [BEq κ] {key : NormalNamespace → κ}
  {entries : List NormalNamespace} {index : List (κ × Nat)}

theorem empty (key : NormalNamespace → κ) : Indexes key [] [] := by
  intro k i
  simp

theorem push [LawfulBEq κ] (indexes : Indexes key entries index) {ns : NormalNamespace}
    (fresh : index.lookup (key ns) = none) :
    Indexes key (entries ++ [ns]) ((key ns, entries.length) :: index) := by
  intro k i
  simp only [getElem?_concat_eq_some_iff]
  by_cases same : k = key ns
  · subst same
    rw [List.lookup_cons_self, Option.some.injEq]
    constructor
    · rintro rfl
      exact ⟨ns, Or.inr ⟨rfl, rfl⟩, rfl⟩
    · rintro ⟨other, stored | ⟨rfl, _⟩, same⟩
      · rw [(indexes _ i).2 ⟨other, stored, same⟩] at fresh
        cases fresh
      · rfl
  · have differ : (k == key ns) = false := by simpa using same
    rw [List.lookup_cons, differ]
    simp only [indexes k i]
    constructor
    · rintro ⟨other, stored, named⟩
      exact ⟨other, Or.inl stored, named⟩
    · rintro ⟨other, stored | ⟨_, rfl⟩, named⟩
      · exact ⟨other, stored, named⟩
      · exact absurd named.symm same

theorem position_unique (indexes : Indexes key entries index) {i j : Nat}
    {ns other : NormalNamespace} (at_i : entries[i]? = some ns) (at_j : entries[j]? = some other)
    (same : key ns = key other) : i = j := by
  have first := (indexes (key ns) i).2 ⟨ns, at_i, rfl⟩
  have second := (indexes (key ns) j).2 ⟨other, at_j, same.symm⟩
  exact Option.some.inj (first.symm.trans second)

theorem nodup_keys (indexes : Indexes key entries index) : (entries.map key).Nodup := by
  rw [List.Nodup, List.pairwise_map, List.pairwise_iff_getElem]
  intro i j hi hj below same
  exact below.ne (indexes.position_unique (List.getElem?_eq_getElem hi)
    (List.getElem?_eq_getElem hj) same)

theorem bind_getElem?_eq_some_iff (indexes : Indexes key entries index) {k : κ}
    {ns : NormalNamespace} :
    (index.lookup k).bind (entries[·]?) = some ns ↔ ns ∈ entries ∧ key ns = k := by
  rw [Option.bind_eq_some_iff]
  constructor
  · rintro ⟨i, position, stored⟩
    obtain ⟨other, stored', same⟩ := (indexes k i).1 position
    obtain rfl := Option.some.inj (stored.symm.trans stored')
    exact ⟨List.mem_of_getElem? stored, same⟩
  · rintro ⟨member, same⟩
    obtain ⟨i, stored⟩ := List.mem_iff_getElem?.1 member
    exact ⟨i, (indexes k i).2 ⟨ns, stored, same⟩, stored⟩

theorem bind_getElem?_eq_none_iff (indexes : Indexes key entries index) {k : κ} :
    (index.lookup k).bind (entries[·]?) = none ↔ index.lookup k = none := by
  -- A position that the index tells is never out of range.
  cases position : index.lookup k with
  | none => simp
  | some i =>
    obtain ⟨ns, stored, _⟩ := (indexes k i).1 position
    simp [stored]

theorem bind_getElem?_push [DecidableEq κ] [LawfulBEq κ] (indexes : Indexes key entries index)
    (ns : NormalNamespace) (k : κ) :
    (((key ns, entries.length) :: index).lookup k).bind ((entries ++ [ns])[·]?) =
      if k = key ns then some ns else (index.lookup k).bind (entries[·]?) := by
  rw [List.lookup_cons]
  split_ifs with same
  · simp [same]
  · have differ : (k == key ns) = false := by simpa using same
    rw [differ]
    cases position : index.lookup k with
    | none => rfl
    | some i =>
      obtain ⟨other, stored, _⟩ := (indexes k i).1 position
      have below := (List.getElem?_eq_some_iff.1 stored).1
      simp [List.getElem?_append_left below]

end Indexes

/-- What holds of every registry that calls build up. -/
structure Sound (registry : Registry) : Prop where
  names : Indexes (·.name) registry.namespaces registry.index
  slots : Indexes (namespaceSlot ·.name) registry.namespaces registry.slots
  compiled : ∀ ns ∈ registry.namespaces, ns.definition.validate = .ok ns

namespace Sound

theorem empty : Sound Registry.empty where
  names := Indexes.empty _
  slots := Indexes.empty _
  compiled := by
    intro ns member
    cases member

theorem store {registry : Registry} (sound : registry.Sound) {ns : NormalNamespace}
    (compiled : ns.definition.validate = .ok ns) (name : registry.contains ns.name = false)
    (slot : registry.slotHolder? ns.name = none) : (registry.store ns).Sound where
  names := sound.names.push (by simpa [contains] using name)
  slots := sound.slots.push (sound.slots.bind_getElem?_eq_none_iff.1 slot)
  compiled := by
    intro other member
    rcases List.mem_append.1 member with member | member
    · exact sound.compiled other member
    · obtain rfl := List.mem_singleton.1 member
      exact compiled

theorem perform {registry : Registry} (sound : registry.Sound) (call : Call) :
    (registry.perform call).Sound := by
  rcases perform_cases registry call with same | ⟨ns, compiled, name, slot, stored⟩
  · rw [same]
    exact sound
  · rw [stored]
    exact sound.store compiled name slot

end Sound

/-- Every run leaves a sound registry. -/
theorem sound_run (calls : List Call) : (run calls).Sound := by
  rw [run]
  induction calls using List.reverseRecOn with
  | nil => exact Sound.empty
  | append_singleton calls call ih =>
    rw [List.foldl_append]
    exact ih.perform call

end Registry

end TableSchema
