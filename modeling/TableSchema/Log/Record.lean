import TableSchema.Json.Basic

set_option autoImplicit false

namespace TableSchema

inductive Level where
  | trace
  | debug
  | info
  | warn
  | error
  deriving DecidableEq, Repr

namespace Level

def all : List Level := [.trace, .debug, .info, .warn, .error]

def name : Level → String
  | .trace => "trace"
  | .debug => "debug"
  | .info => "info"
  | .warn => "warn"
  | .error => "error"

def label : Level → String
  | .trace => "TRACE"
  | .debug => "DEBUG"
  | .info => "INFO"
  | .warn => "WARN"
  | .error => "ERROR"

def names : List String :=
  all.map name

def ofName? (text : String) : Option Level :=
  all.find? (·.name == text)

def severity : Level → Nat
  | .trace => 0
  | .debug => 1
  | .info => 2
  | .warn => 3
  | .error => 4

end Level

inductive Event where
  | configLoaded
  | declarationsLoaded
  | buildStart
  | namespaceValidated
  | namespaceRejected
  | namespaceRegistered
  | buildComplete
  | buildFailed
  deriving DecidableEq, Repr

namespace Event

def all : List Event :=
  [.configLoaded, .declarationsLoaded, .buildStart, .namespaceValidated, .namespaceRejected,
    .namespaceRegistered, .buildComplete, .buildFailed]

def name : Event → String
  | .configLoaded => "CONFIG_LOADED"
  | .declarationsLoaded => "DECLARATIONS_LOADED"
  | .buildStart => "BUILD_START"
  | .namespaceValidated => "NAMESPACE_VALIDATED"
  | .namespaceRejected => "NAMESPACE_REJECTED"
  | .namespaceRegistered => "NAMESPACE_REGISTERED"
  | .buildComplete => "BUILD_COMPLETE"
  | .buildFailed => "BUILD_FAILED"

def isFailure : Event → Bool
  | .namespaceRejected | .buildFailed => true
  | _ => false

end Event

inductive Component where
  | command
  | loader
  | build
  | validator
  | registry
  deriving DecidableEq, Repr

namespace Component

/-- The dotted address by which a log filter selects the records of a component. -/
def target : Component → String
  | .command => "worldschema::cli::commands"
  | .loader => "worldschema::declaration::loader"
  | .build => "worldschema::compiler"
  | .validator => "worldschema::schema::validator"
  | .registry => "worldschema::schema::registry"

end Component

inductive Rejection where
  | registered
  | slotTaken (existing : String)
  | invalid (reporter : Component) (violations : Nat)
  | malformedTables (count : Nat)
  deriving DecidableEq, Repr

inductive LogRecord where
  | configLoaded (path : String) (declarations : Nat)
  | declarationsLoaded (paths declarations errors : Nat)
  | buildStarted (namespaces : Nat) (parallel : Bool)
  | validated (namespaceName : String) (tables violations : Nat)
  | rejected (namespaceName : String) (reason : Rejection)
  | registered (namespaceName : String) (tables : Nat)
  | buildCompleted (namespaces : Nat)
  | buildFailed (registered rejected declarationErrors : Nat)
  deriving DecidableEq, Repr

namespace LogRecord

def event : LogRecord → Event
  | .configLoaded .. => .configLoaded
  | .declarationsLoaded .. => .declarationsLoaded
  | .buildStarted .. => .buildStart
  | .validated .. => .namespaceValidated
  | .rejected .. => .namespaceRejected
  | .registered .. => .namespaceRegistered
  | .buildCompleted .. => .buildComplete
  | .buildFailed .. => .buildFailed

def level : LogRecord → Level
  | .validated .. => .debug
  | .rejected .. | .buildFailed .. => .warn
  | _ => .info

def component : LogRecord → Component
  | .configLoaded .. => .command
  | .declarationsLoaded .. => .loader
  | .buildStarted .. | .buildCompleted .. | .buildFailed .. => .build
  | .validated .. => .validator
  | .registered .. => .registry
  | .rejected _ (.invalid reporter _) => reporter
  | .rejected _ (.malformedTables _) => .build
  | .rejected _ .registered | .rejected _ (.slotTaken _) => .registry

def message : LogRecord → String
  | .configLoaded .. => "configuration loaded"
  | .declarationsLoaded .. => "declarations loaded"
  | .buildStarted .. => "build started"
  | .validated .. => "namespace validated"
  | .rejected _ .registered => "namespace already registered"
  | .rejected _ (.slotTaken _) => "namespace resource id already registered"
  | .rejected _ (.invalid ..) => "namespace failed validation"
  | .rejected _ (.malformedTables _) => "namespace has tables that could not be lowered"
  | .registered .. => "namespace registered"
  | .buildCompleted .. => "build complete"
  | .buildFailed .. => "build finished with errors"

def details : LogRecord → List (String × Json)
  | .configLoaded path declarations =>
    [("path", .text path), ("declarations", .ofNat declarations)]
  | .declarationsLoaded paths declarations errors =>
    [("paths", .ofNat paths), ("declarations", .ofNat declarations), ("errors", .ofNat errors)]
  | .buildStarted namespaces parallel =>
    [("namespaces", .ofNat namespaces), ("parallel", .bool parallel)]
  | .validated name tables violations =>
    [("namespace", .text name), ("tables", .ofNat tables), ("violations", .ofNat violations)]
  | .rejected name .registered => [("namespace", .text name)]
  | .rejected name (.slotTaken existing) =>
    [("namespace", .text name), ("existing", .text existing)]
  | .rejected name (.invalid _ violations) =>
    [("namespace", .text name), ("violations", .ofNat violations)]
  | .rejected name (.malformedTables count) =>
    [("namespace", .text name), ("malformed_tables", .ofNat count)]
  | .registered name tables => [("namespace", .text name), ("tables", .ofNat tables)]
  | .buildCompleted namespaces => [("namespaces", .ofNat namespaces)]
  | .buildFailed stored refused errors =>
    [("registered", .ofNat stored), ("rejected", .ofNat refused),
      ("declaration_errors", .ofNat errors)]

def fields (record : LogRecord) : List (String × Json) :=
  ("message", .text record.message) :: ("event", .text record.event.name) :: record.details

def toJson (record : LogRecord) : Json :=
  .object [("level", .text record.level.label), ("fields", .object record.fields)]

end LogRecord

/-- A result with the records told on the way to it. -/
structure Logged (α : Type) where
  value : α
  records : List LogRecord

namespace Logged

def quiet {α : Type} (value : α) : Logged α := ⟨value, []⟩

def tell (record : LogRecord) : Logged Unit := ⟨(), [record]⟩

def andThen {α β : Type} (first : Logged α) (next : α → Logged β) : Logged β :=
  let second := next first.value
  ⟨second.value, first.records ++ second.records⟩

instance : Monad Logged where
  pure := quiet
  bind := andThen

@[simp] theorem value_pure {α : Type} (value : α) : (pure value : Logged α).value = value := rfl

@[simp] theorem value_bind {α β : Type} (first : Logged α) (next : α → Logged β) :
    (first >>= next).value = (next first.value).value := rfl

end Logged

end TableSchema
