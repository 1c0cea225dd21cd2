import TableSchema.Command.Help
import TableSchema.Command.Outcome

set_option autoImplicit false

namespace TableSchema.Main

private def failureOf : IO.Error → FileFailure
  | .permissionDenied .. => .denied
  | .inappropriateType .. => .notDirectory
  | .hardwareFault _ details => .other details
  | _ => .notFound

private def attempt {α : Type} (action : IO α) : IO (Except FileFailure α) := do
  try
    return .ok (← action)
  catch e => return .error (failureOf e)

private def nameOf? (text : String) : Option FileName :=
  FileName.ofBytes? (FilePath.ofText text).bytes

/-- Looks at a path. The runtime takes and tells only paths that are texts. -/
private def observe (path : FilePath) : IO Files.Sight := do
  let some text := String.fromUTF8? path.bytes.toByteArray | return .nowhere .notFound
  if text.toList.contains '\x00' then return .nowhere .nulInPath
  if text.isEmpty then return .nowhere .notFound
  let place := (← IO.currentDir) / text
  if ← place.isDir then
    return .directory (← attempt do
      return (← place.readDir).toList.filterMap fun child => nameOf? child.fileName)
  else
    match ← attempt (IO.FS.readBinFile place) with
    | .ok content => return .file (.ok content)
    | .error .notFound => return .nowhere .notFound
    | .error failure => return .file (.error failure)

private def snapshot (paths : List FilePath) : IO (List (FilePath × Files.Sight)) :=
  paths.mapM fun path => return (path, ← observe path)

private def filesOf (seen : List (FilePath × Files.Sight)) : Files :=
  .ofSights fun path => (seen.lookup path).getD (.nowhere .notFound)

/-- The paths of the children seen in directories that may hold declarations. -/
private def childrenOf (seen : List (FilePath × Files.Sight)) : List FilePath :=
  seen.flatMap fun place => match place.2 with
    | .directory (.ok names) =>
      (names.filter FileName.hasJsonExtension).map fun name => place.1.join name.path
    | _ => []

private def filesFor (config : String) : IO Files := do
  let own ← snapshot [config]
  match Configuration.load (filesOf own) config with
  | .error _ => return filesOf own
  | .ok loaded =>
    let declared ← snapshot (loaded.declarations.map FilePath.ofText)
    return filesOf (own ++ declared ++ (← snapshot (childrenOf declared)))

private def configOf? : Command → Option String
  | .check config | .compile config => some config
  | .catalog => none

private def runCommand (command : Command) : IO UInt32 := do
  let files ← match configOf? command with
    | some config => filesFor config
    | none => pure (filesOf [])
  let outcome := command.run files (← IO.getEnv "RUST_LOG")
  let stdout ← IO.getStdout
  stdout.write outcome.output.toByteArray
  stdout.flush
  for message in outcome.messages do
    IO.eprintln message
  return outcome.status.toUInt32

def run (arguments : List String) : IO UInt32 :=
  match Request.ofArguments arguments with
  | some (.run command) => runCommand command
  | some .version => do
    IO.print versionText
    return 0
  | some (.help topic) => do
    IO.print topic.text
    return 0
  | none => do
    IO.eprint (HelpTopic.text .program)
    return 2

end TableSchema.Main

def main (arguments : List String) : IO UInt32 :=
  TableSchema.Main.run arguments
