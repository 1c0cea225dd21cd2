import TableSchema.Build
import TableSchema.Declaration.Reader

set_option autoImplicit false

namespace TableSchema

namespace Loading

/-- The names in a directory that lead to files and end in `.json`, in the order of their bytes. -/
def declarationFiles (files : Files) (directory : FilePath) (names : List FileName) :
    List FileName :=
  let chosen := names.filter fun name =>
    files.isFile (directory.join name.path) && name.hasJsonExtension
  chosen.mergeSort fun a b => decide (a.bytes ≤ b.bytes)

def filesAt (files : Files) (path : FilePath) : Except DeclarationError (List FilePath) :=
  match files.find path with
  | .error _ => .error (.missingPath path)
  | .ok (.file _) => .ok [path]
  | .ok (.directory (.error failure)) => .error (.unreadable path failure)
  | .ok (.directory (.ok children)) =>
    .ok ((declarationFiles files path (children.map (·.1))).map fun name => path.join name.path)

def declarationsIn (files : Files) (path : FilePath) : Except DeclarationError (List Declaration) :=
  match files.readText path with
  | .error failure => .error (.unreadable path failure)
  | .ok text =>
    match Declaration.ofText text with
    | .ok declarations => .ok declarations
    | .error problem => .error (.malformed path problem)

/-- A report with what one file or path adds to it. -/
def addResult (report : Loaded) (result : Except DeclarationError (List Declaration)) :
    Loaded :=
  match result with
  | .ok declarations => { report with declarations := report.declarations ++ declarations }
  | .error e => { report with errors := report.errors ++ [e] }

def addPath (files : Files) (report : Loaded) (path : FilePath) : Loaded :=
  match filesAt files path with
  | .ok paths => (paths.map (declarationsIn files)).foldl addResult report
  | .error e => addResult report (.error e)

def ofPaths (files : Files) (paths : List FilePath) : Logged Loaded := do
  let report := paths.foldl (addPath files) ⟨[], []⟩
  Logged.tell (.declarationsLoaded paths.length report.declarations.length report.errors.length)
  return report

end Loading

end TableSchema
