import TableSchema.Log.Record
import TableSchema.Validation

/-!
The registry of one build: compiled namespaces in the order of their registration.

Nothing enters that has not been validated, and no two entries share a name or a slot. Two indexes
beside the entries say where a name and where a slot is stored.
-/

set_option autoImplicit false

namespace TableSchema

inductive RegistrationError where
  | duplicateNamespace (namespaceName : String)
  | slotCollision (namespaceName existing : String)
  | invalid (namespaceName : String) (violations : List Violation)
  deriving DecidableEq, Repr

namespace RegistrationError

def message : RegistrationError → String
  | .duplicateNamespace name => "namespace '" ++ name ++ "' is already registered"
  | .slotCollision name existing =>
    "namespace '" ++ name ++ "' has the same resource id as registered namespace '" ++
      existing ++ "'"
  | .invalid name violations =>
    "namespace '" ++ name ++ "' failed validation with " ++ toString violations.length ++
      " violation(s)"

def namespaceName : RegistrationError → String
  | .duplicateNamespace name | .slotCollision name _ | .invalid name _ => name

def violations : RegistrationError → List Violation
  | .duplicateNamespace name => [Violation.duplicateNamespace name]
  | .slotCollision name existing => [Violation.namespaceIdCollision name existing]
  | .invalid _ violations => violations

end RegistrationError

/-- Compiled namespaces in registration order, with the position of each name and each slot. -/
structure Registry where
  namespaces : List NormalNamespace
  index : List (String × Nat)
  slots : List (NamespaceSlot × Nat)

/-- The answer to a namespace that is handed to a registry, and the registry after it. -/
structure Registration where
  answer : Except RegistrationError Unit
  registry : Registry

def Registration.result (registration : Registration) : Except RegistrationError Registry :=
  registration.answer.map fun () => registration.registry

namespace Registry

def empty : Registry := ⟨[], [], []⟩

def lookup? (registry : Registry) (name : String) : Option NormalNamespace :=
  (registry.index.lookup name).bind (registry.namespaces[·]?)

def contains (registry : Registry) (name : String) : Bool :=
  (registry.index.lookup name).isSome

def size (registry : Registry) : Nat :=
  registry.namespaces.length

def isEmpty (registry : Registry) : Bool :=
  registry.namespaces.isEmpty

def slotHolder? (registry : Registry) (name : String) : Option NormalNamespace :=
  (registry.slots.lookup (namespaceSlot name)).bind (registry.namespaces[·]?)

/-- Fails where the name, or another name with its slot, is stored. -/
def checkVacant (registry : Registry) (name : String) : Logged (Except RegistrationError Unit) :=
  if registry.contains name then do
    Logged.tell (.rejected name .registered)
    return .error (.duplicateNamespace name)
  else match registry.slotHolder? name with
    | some existing => do
      Logged.tell (.rejected name (.slotTaken existing.name))
      return .error (.slotCollision name existing.name)
    | none => return .ok ()

def insert (registry : Registry) (ns : NormalNamespace) : Logged Registration := do
  Logged.tell (.registered ns.name ns.tables.length)
  return ⟨.ok (), {
    namespaces := registry.namespaces ++ [ns]
    index := (ns.name, registry.size) :: registry.index
    slots := (namespaceSlot ns.name, registry.size) :: registry.slots }⟩

def enterNormal (registry : Registry) (ns : NormalNamespace) : Logged Registration := do
  match ← registry.checkVacant ns.name with
  | .error e => return ⟨.error e, registry⟩
  | .ok () => registry.insert ns

def rejectInvalid (reporter : Component) (name : String) (violations : List Violation) :
    Logged RegistrationError := do
  Logged.tell (.rejected name (.invalid reporter violations.length))
  return .invalid name violations

end Registry

namespace Namespace

def validateLogged (ns : Namespace) : Logged Verdict := do
  let result := ns.validate
  let violations := match result with
    | .ok _ => 0
    | .error found => found.length
  Logged.tell (.validated ns.name ns.tables.length violations)
  return result

end Namespace

namespace Registry

/-- Validates and stores a namespace. Its name and slot are looked at before its content. -/
def enter (registry : Registry) (ns : Namespace) : Logged Registration := do
  match ← registry.checkVacant ns.name with
  | .error e => return ⟨.error e, registry⟩
  | .ok () =>
    match ← ns.validateLogged with
    | .ok compiled => registry.insert compiled
    | .error found =>
      let e ← rejectInvalid .registry ns.name found
      return ⟨.error e, registry⟩

def register (registry : Registry) (ns : Namespace) :
    Logged (Except RegistrationError Registry) := do
  return (← registry.enter ns).result

def registerNormal (registry : Registry) (ns : NormalNamespace) :
    Logged (Except RegistrationError Registry) := do
  return (← registry.enterNormal ns).result

end Registry

end TableSchema
