import TableSchema.FilePath

/-!
Files as a value: what each path leads to.

A directory lists its names in whatever order the file system enumerates them, and shows for each
what its path leads to. This is a law of every state of the files; a tree of directories keeps it
because a path is followed part by part.
-/

set_option autoImplicit false

namespace TableSchema

inductive FileFailure where
  | notFound
  | notDirectory
  | isDirectory
  | nameTooLong
  | nulInPath
  | denied
  | notUtf8
  | other (text : String)
  deriving DecidableEq, Repr

namespace FileFailure

def message : FileFailure → String
  | .notFound => "No such file or directory (os error 2)"
  | .notDirectory => "Not a directory (os error 20)"
  | .isDirectory => "Is a directory (os error 21)"
  | .nameTooLong => "File name too long (os error 36)"
  | .nulInPath => "file name contained an unexpected NUL byte"
  | .denied => "Permission denied (os error 13)"
  | .notUtf8 => "stream did not contain valid UTF-8"
  | .other text => text

end FileFailure

abbrev FileContent := Except FileFailure ByteArray

/-- What a name in a directory leads to. -/
inductive Child where
  | file (content : FileContent)
  | directory
  | nowhere (failure : FileFailure)

inductive Target where
  | file (content : FileContent)
  | directory (children : Except FileFailure (List (FileName × Child)))

def Child.of : Except FileFailure Target → Child
  | .ok (.file content) => .file content
  | .ok (.directory _) => .directory
  | .error failure => .nowhere failure

/-- The state of the files that a run sees. -/
structure Files where
  find : FilePath → Except FileFailure Target
  shows : ∀ {directory children name child},
    find directory = .ok (.directory (.ok children)) → (name, child) ∈ children →
      child = Child.of (find (directory.child name))

namespace Files

def isFile (files : Files) (path : FilePath) : Bool :=
  match files.find path with
  | .ok (.file _) => true
  | _ => false

def textOf : FileContent → Except FileFailure String
  | .error failure => .error failure
  | .ok bytes => match String.fromUTF8? bytes with
    | some text => .ok text
    | none => .error .notUtf8

def readText (files : Files) (path : FilePath) : Except FileFailure String :=
  match files.find path with
  | .error failure => .error failure
  | .ok (.directory _) => .error .isDirectory
  | .ok (.file content) => textOf content

/-- What a look at a single path tells. Of a directory these are only the names. -/
inductive Sight where
  | file (content : FileContent)
  | directory (names : Except FileFailure (List FileName))
  | nowhere (failure : FileFailure)

def Sight.child : Sight → Child
  | .file content => .file content
  | .directory _ => .directory
  | .nowhere failure => .nowhere failure

/-- The files of which every path has been looked at. -/
def ofSights (sight : FilePath → Sight) : Files where
  find path := match sight path with
    | .file content => .ok (.file content)
    | .directory names =>
      .ok (.directory (names.map (List.map fun name => (name, (sight (path.child name)).child))))
    | .nowhere failure => .error failure
  shows {directory children name child} found listed := by
    cases seen : sight directory with
    | file content => simp [seen] at found
    | nowhere failure => simp [seen] at found
    | directory names =>
      cases names with
      | error failure => simp [seen, Except.map] at found
      | ok names =>
        simp only [seen, Except.map, Except.ok.injEq, Target.directory.injEq] at found
        obtain ⟨name, _, rfl, rfl⟩ : ∃ other ∈ names, other = name ∧ _ = child := by
          simpa [← found] using listed
        cases sight (directory.child name) <;> rfl

end Files

/-- Names as the bytes that a file system compares. -/
class NameBytes (Name : Type) where
  bytes : Name → List UInt8

instance : NameBytes String := ⟨fun name => (FilePath.ofText name).bytes⟩

instance : NameBytes FilePath := ⟨FilePath.bytes⟩

/-- A tree of files. What a file holds and what a directory lists may be out of reach. -/
inductive FileEntry (Name : Type := String) where
  | file (content : FileContent)
  | directory (children : Except FileFailure (List (Name × FileEntry Name)))

/-- A tree from its root, and the names that lead from the root to the working directory, from
which relative paths start. -/
structure FileTree (Name : Type := String) where
  root : FileEntry Name
  workingDirectory : List Name

variable {Name : Type} [NameBytes Name]

namespace FileEntry

/-- An entry with the directories that contain it, the innermost first. -/
structure Place (Name : Type) where
  here : FileEntry Name
  above : List (FileEntry Name)

def asChild : Except FileFailure (FileEntry Name) → Child
  | .ok (.file content) => .file content
  | .ok (.directory _) => .directory
  | .error failure => .nowhere failure

/-- The entry of a directory that bears the name. -/
def lookup (children : List (Name × FileEntry Name)) (name : List UInt8) :
    Except FileFailure (FileEntry Name) :=
  if 255 < name.length then .error .nameTooLong
  else match children.find? fun child => NameBytes.bytes child.1 == name with
    | some child => .ok child.2
    | none => .error .notFound

namespace Place

def up (place : Place Name) : Place Name :=
  match place.above with
  | [] => place
  | parent :: above => ⟨parent, above⟩

/-- Follows one part of a path. Whatever has a part after it must be a directory. -/
def step (place : Place Name) (part : List UInt8) : Except FileFailure (Place Name) :=
  match place.here with
  | .file _ => .error .notDirectory
  | .directory (.error failure) => .error failure
  | .directory (.ok children) =>
    if part = [] ∨ part = [FilePath.dot] then .ok place
    else if part = [FilePath.dot, FilePath.dot] then .ok place.up
    else (lookup children part).map fun entry => ⟨entry, place.here :: place.above⟩

def follow (place : Place Name) (parts : List (List UInt8)) : Except FileFailure (Place Name) :=
  parts.foldlM step place

end Place

end FileEntry

namespace FileTree

variable (tree : FileTree Name)

def start (path : FilePath) : Except FileFailure (FileEntry.Place Name) :=
  let root : FileEntry.Place Name := ⟨tree.root, []⟩
  if path.isAbsolute then .ok root else root.follow (tree.workingDirectory.map NameBytes.bytes)

/-- The place that a path leads to. -/
def reach (path : FilePath) : Except FileFailure (FileEntry.Place Name) :=
  tree.start path >>= (·.follow path.parts)

def entryAt (path : FilePath) : Except FileFailure (FileEntry Name) :=
  if 0 ∈ path.bytes then .error .nulInPath
  else if path.bytes = [] then .error .notFound
  else if 4096 ≤ path.bytes.length then .error .nameTooLong
  else (tree.reach path).map (·.here)

/-- The entry that the path to a name in a directory leads to. -/
def childAt (directory : FilePath) (children : List (Name × FileEntry Name)) (name : FileName) :
    Except FileFailure (FileEntry Name) :=
  if 4096 ≤ (directory.child name).bytes.length then .error .nameTooLong
  else FileEntry.lookup children name.bytes

def listing (directory : FilePath) (children : List (Name × FileEntry Name)) :
    List (FileName × Child) :=
  (children.filterMap fun child => FileName.ofBytes? (NameBytes.bytes child.1)).map fun name =>
    (name, FileEntry.asChild (childAt directory children name))

def target (path : FilePath) : FileEntry Name → Target
  | .file content => .file content
  | .directory children => .directory (children.map (listing path))

end FileTree

section Child

variable {directory : FilePath} {children : List (Name × FileEntry Name)} {name : FileName}

namespace FileEntry.Place

variable {start place next : Place Name}

theorem follow_append (front back : List (List UInt8)) :
    start.follow (front ++ back) = start.follow front >>= (·.follow back) :=
  List.foldlM_append

theorem follow_singleton (part : List UInt8) : start.follow [part] = start.step part := by
  rw [follow, List.foldlM_cons]
  cases start.step part <;> rfl

theorem step_empty (stepped : place.step [] = .ok next) : next = place := by
  unfold step at stepped
  split at stepped
  · cases stepped
  · cases stepped
  · exact (Except.ok.inj stepped).symm

theorem step_name (here : place.here = .directory (.ok children)) :
    place.step name.bytes =
      (lookup children name.bytes).map fun entry => ⟨entry, place.here :: place.above⟩ := by
  obtain ⟨notEmpty, notDot, notDots, _⟩ := name.proper
  simp only [step, here, notEmpty, notDot, notDots, or_self, if_false]

theorem follow_child (given : directory.bytes ≠ [])
    (reached : start.follow directory.parts = .ok place) :
    start.follow (directory.child name).parts = place.step name.bytes := by
  obtain ⟨front, parts, own⟩ := FilePath.parts_child given name
  have before : start.follow front = .ok place := by
    rcases own with same | slashed
    · rw [← same, reached]
    · rw [slashed, follow_append] at reached
      cases through : start.follow front with
      | error failure =>
        rw [through] at reached
        cases reached
      | ok last =>
        rw [through] at reached
        rw [step_empty ((follow_singleton []).symm.trans reached)]
  rw [parts, follow_append, before]
  exact follow_singleton name.bytes

end FileEntry.Place

namespace FileTree

variable {tree : FileTree Name}

theorem reach_child {place : FileEntry.Place Name} (given : directory.bytes ≠ [])
    (reached : tree.reach directory = .ok place) :
    tree.reach (directory.child name) = place.step name.bytes := by
  have same : tree.start (directory.child name) = tree.start directory := by
    rw [start, start, FilePath.isAbsolute_child given]
  rw [reach] at reached
  rw [reach, same]
  cases started : tree.start directory with
  | error failure =>
    rw [started] at reached
    cases reached
  | ok start =>
    rw [started] at reached
    exact FileEntry.Place.follow_child given reached

/-- The path of a name in a directory leads to the entry that the directory has under it. -/
theorem entryAt_child (found : tree.entryAt directory = .ok (.directory (.ok children))) :
    tree.entryAt (directory.child name) = childAt directory children name := by
  unfold entryAt at found
  split at found
  · cases found
  rename_i noNul
  split at found
  · cases found
  rename_i given
  split at found
  · cases found
  cases reached : tree.reach directory with
  | error failure =>
    rw [reached] at found
    cases found
  | ok place =>
    rw [reached] at found
    have here : place.here = .directory (.ok children) := Except.ok.inj found
    have named : (directory.child name).bytes ≠ [] := FilePath.child_ne_nil directory name
    have clean : 0 ∉ (directory.child name).bytes := by
      rw [FilePath.mem_child_iff (by decide)]
      exact not_or.2 ⟨noNul, name.proper.2.2.2.2⟩
    rw [entryAt, if_neg clean, if_neg named, childAt, reach_child given reached,
      FileEntry.Place.step_name here]
    split
    · rfl
    · cases FileEntry.lookup children name.bytes <;> rfl

theorem childOf_target (path : FilePath) (entry : Except FileFailure (FileEntry Name)) :
    Child.of (entry.map (target path)) = FileEntry.asChild entry := by
  match entry with
  | .error _ | .ok (.file _) | .ok (.directory _) => rfl

theorem child_eq_of_mem_listing {child : Child}
    (listed : (name, child) ∈ listing directory children) :
    child = FileEntry.asChild (childAt directory children name) := by
  obtain ⟨other, _, same⟩ := List.mem_map.1 listed
  obtain ⟨rfl, rfl⟩ := Prod.mk.inj same
  rfl

theorem exists_of_target_eq {entry : FileEntry Name} {listed : List (FileName × Child)}
    (seen : target directory entry = .directory (.ok listed)) :
    ∃ children, entry = .directory (.ok children) ∧ listed = listing directory children := by
  match entry with
  | .file content => cases seen
  | .directory (.error failure) => cases seen
  | .directory (.ok children) =>
    exact ⟨children, rfl, (Except.ok.inj (Target.directory.inj seen)).symm⟩

def files (tree : FileTree Name) : Files where
  find path := (tree.entryAt path).map (target path)
  shows {directory children name child} found listed := by
    cases reached : tree.entryAt directory with
    | error failure =>
      rw [reached] at found
      cases found
    | ok entry =>
      rw [reached] at found
      obtain ⟨entries, rfl, rfl⟩ := exists_of_target_eq (Except.ok.inj found)
      rw [entryAt_child reached, childOf_target]
      exact child_eq_of_mem_listing listed

end FileTree

end Child

end TableSchema
