import Mathlib.Data.List.Forall2
import TableSchema.Loading
import TableSchema.Proofs.Text.ByteOrder

/-!
What loading reads, in which order, and what becomes of what cannot be read.

Loading makes its stops path by path: at every file that a path refers to, and at every path that
refers to none. Each stop adds the declarations of its file or one error. Where the stops are
depends on no content of a file, and on no order in which directories list their children.
-/

set_option autoImplicit false

namespace TableSchema

namespace Files

theorem isFile_iff {files : Files} {path : FilePath} :
    files.isFile path = true ↔ ∃ content, files.find path = .ok (.file content) := by
  unfold isFile
  split
  · rename_i content found
    simp [found]
  · rename_i other
    simpa using other

theorem textOf_toUTF8 (text : String) : textOf (.ok text.toUTF8) = .ok text := by
  have decoded : String.fromUTF8? text.toUTF8 = some text := by
    rw [String.fromUTF8?, String.toUTF8_eq_toByteArray, dif_pos text.isValidUTF8]
    rfl
  simp only [textOf, decoded]

theorem textOf_of_notUtf8 {bytes : ByteArray} (invalid : ∀ text : String, text.toUTF8 ≠ bytes) :
    textOf (.ok bytes) = .error .notUtf8 := by
  have undecoded : String.fromUTF8? bytes = none := by
    refine dif_neg fun valid => invalid (String.fromUTF8 bytes valid) ?_
    rw [String.toUTF8_eq_toByteArray]
    rfl
  simp only [textOf, undecoded]

theorem readText_of_file {files : Files} {path : FilePath} {content : FileContent}
    (found : files.find path = .ok (.file content)) : files.readText path = textOf content := by
  simp only [readText, found]

end Files

namespace Loaded

def concat (parts : List Loaded) : Loaded :=
  ⟨parts.flatMap (·.declarations), parts.flatMap (·.errors)⟩

def append (report part : Loaded) : Loaded :=
  ⟨report.declarations ++ part.declarations, report.errors ++ part.errors⟩

theorem foldl_append (report : Loaded) (parts : List Loaded) :
    parts.foldl append report = report.append (.concat parts) := by
  induction parts generalizing report with
  | nil => simp [append, concat]
  | cons part rest ih =>
    rw [List.foldl_cons, ih]
    simp [append, concat]

end Loaded

namespace Loading

/-- A stop of loading: a file with its content, or the error of a path without files. -/
abbrev Stop := Except DeclarationError (FilePath × FileContent)

def IsDeclarationName (name : FileName) : Prop :=
  ∃ stem, stem ≠ [] ∧ name.bytes = stem ++ Text.utf8 ".json"

instance : DecidablePred IsDeclarationName := fun _ =>
  decidable_of_iff _ FileName.hasJsonExtension_iff

/-- A child of a directory that is a file with the extension `json`, with its content. -/
def declarationFile? (child : FileName × Child) : Option (FileName × FileContent) :=
  match child.2 with
  | .file content => if IsDeclarationName child.1 then some (child.1, content) else none
  | .directory | .nowhere _ => none

/-- The stops that a path makes: one at a file of any name, and those at the declaration files that
a directory lists, in the order of the bytes of their names. -/
inductive RefersTo (files : Files) (path : FilePath) : List Stop → Prop
  | missing {failure : FileFailure} (nowhere : files.find path = .error failure) :
      RefersTo files path [.error (.missingPath path)]
  | unlisted {failure : FileFailure}
      (found : files.find path = .ok (.directory (.error failure))) :
      RefersTo files path [.error (.unreadable path failure)]
  | file {content : FileContent} (found : files.find path = .ok (.file content)) :
      RefersTo files path [.ok (path, content)]
  | directory {children : List (FileName × Child)} {entries : List (FileName × FileContent)}
      (found : files.find path = .ok (.directory (.ok children)))
      (chosen : entries.Perm (children.filterMap declarationFile?))
      (ascending : (entries.map (·.1.bytes)).Pairwise (· ≤ ·)) :
      RefersTo files path (entries.map fun entry => .ok (path.child entry.1, entry.2))

/-- What a stop adds to a report: what its file declares, or one error. -/
inductive Adds : Stop → Loaded → Prop
  | withoutFiles (e : DeclarationError) : Adds (.error e) ⟨[], [e]⟩
  | declared {file : FilePath} {text : String} {declarations : List Declaration}
      (read : Declaration.ofText text = .ok declarations) :
      Adds (.ok (file, .ok text.toUTF8)) ⟨declarations, []⟩
  | malformed {file : FilePath} {text : String} {problem : Problem}
      (refused : Declaration.ofText text = .error problem) :
      Adds (.ok (file, .ok text.toUTF8)) ⟨[], [.malformed file problem]⟩
  | notUtf8 {file : FilePath} {bytes : ByteArray}
      (invalid : ∀ text : String, text.toUTF8 ≠ bytes) :
      Adds (.ok (file, .ok bytes)) ⟨[], [.unreadable file .notUtf8]⟩
  | unreadable (file : FilePath) (failure : FileFailure) :
      Adds (.ok (file, .error failure)) ⟨[], [.unreadable file failure]⟩

/-- The stops of a run over paths. -/
def Traverses (files : Files) (paths : List FilePath) (stops : List Stop) : Prop :=
  ∃ groups, List.Forall₂ (RefersTo files) paths groups ∧ stops = groups.flatten

/-- The stops of a run, each with what it adds. -/
def Visits (files : Files) (paths : List FilePath) (visits : List (Stop × Loaded)) : Prop :=
  Traverses files paths (visits.map (·.1)) ∧ ∀ visit ∈ visits, Adds visit.1 visit.2

/-- A report that has what every stop adds, in the order of the stops. -/
def Loads (files : Files) (paths : List FilePath) (report : Loaded) : Prop :=
  ∃ visits, Visits files paths visits ∧ report = .concat (visits.map (·.2))

section Stops

variable {files : Files} {path : FilePath}

def placesAt (files : Files) (path : FilePath) : List (Except DeclarationError FilePath) :=
  match filesAt files path with
  | .ok found => found.map .ok
  | .error e => [.error e]

def contentAt (files : Files) (path : FilePath) : FileContent :=
  match files.find path with
  | .ok (.file content) => content
  | _ => .error .notFound

def stopAt (files : Files) (place : Except DeclarationError FilePath) : Stop :=
  place.map fun file => (file, contentAt files file)

theorem contentAt_of_file {content : FileContent}
    (found : files.find path = .ok (.file content)) : contentAt files path = content := by
  simp only [contentAt, found]

theorem declarationFile?_eq {child : FileName × Child}
    (shown : child.2 = Child.of (files.find (path.child child.1))) :
    declarationFile? child =
      if files.isFile (path.join child.1.path) && child.1.hasJsonExtension then
        some (child.1, contentAt files (path.child child.1))
      else none := by
  have named : child.1.hasJsonExtension = true ↔ IsDeclarationName child.1 :=
    FileName.hasJsonExtension_iff
  rw [FilePath.join_name, declarationFile?, shown]
  cases found : files.find (path.child child.1) with
  | error failure => simp [Child.of, Files.isFile, found]
  | ok target =>
    cases target with
    | file content => simp [Child.of, Files.isFile, contentAt, found, named]
    | directory listing => simp [Child.of, Files.isFile, found]

theorem map_filter_names {children : List (FileName × Child)}
    (shown : ∀ child ∈ children, child.2 = Child.of (files.find (path.child child.1))) :
    (((children.map (·.1)).filter fun name =>
        files.isFile (path.join name.path) && name.hasJsonExtension).map fun name =>
          (name, contentAt files (path.child name))) =
      children.filterMap declarationFile? := by
  induction children with
  | nil => rfl
  | cons child rest ih =>
    have later := ih fun other member => shown other (List.mem_cons_of_mem child member)
    rw [List.filterMap_cons, declarationFile?_eq (shown child List.mem_cons_self), ← later,
      List.map_cons, List.filter_cons]
    split <;> rfl

/-- The declaration files of a directory in the order in which loading takes them. -/
def entriesOf (files : Files) (path : FilePath) (children : List (FileName × Child)) :
    List (FileName × FileContent) :=
  (declarationFiles files path (children.map (·.1))).map fun name =>
    (name, contentAt files (path.child name))

theorem declarationFiles_ascending (files : Files) (path : FilePath) (names : List FileName) :
    (declarationFiles files path names).Pairwise fun a b => a.bytes ≤ b.bytes := by
  have transitive (a b c : FileName) (first : decide (a.bytes ≤ b.bytes) = true)
      (second : decide (b.bytes ≤ c.bytes) = true) : decide (a.bytes ≤ c.bytes) = true :=
    decide_eq_true (List.le_trans (of_decide_eq_true first) (of_decide_eq_true second))
  have total (a b : FileName) :
      (decide (a.bytes ≤ b.bytes) || decide (b.bytes ≤ a.bytes)) = true := by
    rw [Bool.or_eq_true, decide_eq_true_iff, decide_eq_true_iff]
    exact List.le_total a.bytes b.bytes
  exact (List.pairwise_mergeSort transitive total _).imp of_decide_eq_true

theorem entriesOf_ascending (children : List (FileName × Child)) :
    (entriesOf files path children).Pairwise fun a b => a.1.bytes ≤ b.1.bytes :=
  List.pairwise_map.2 (declarationFiles_ascending files path _)

theorem entriesOf_perm {children : List (FileName × Child)}
    (found : files.find path = .ok (.directory (.ok children))) :
    (entriesOf files path children).Perm (children.filterMap declarationFile?) := by
  rw [← map_filter_names fun child member => files.shows found member]
  exact (List.mergeSort_perm _ _).map _

theorem eq_of_mem_declarationFiles {children : List (FileName × Child)}
    {a b : FileName × FileContent} (found : files.find path = .ok (.directory (.ok children)))
    (first : a ∈ children.filterMap declarationFile?)
    (second : b ∈ children.filterMap declarationFile?) (forth : a.1.bytes ≤ b.1.bytes)
    (back : b.1.bytes ≤ a.1.bytes) : a = b := by
  have content_eq (entry : FileName × FileContent)
      (member : entry ∈ children.filterMap declarationFile?) :
      entry.2 = contentAt files (path.child entry.1) := by
    have made := (entriesOf_perm found).mem_iff.2 member
    obtain ⟨name, _, rfl⟩ := List.mem_map.1 made
    rfl
  have named : a.1 = b.1 := FileName.ext (List.le_antisymm forth back)
  refine Prod.ext named ?_
  rw [content_eq a first, content_eq b second, named]

def stopsAt (files : Files) (path : FilePath) : List Stop :=
  (placesAt files path).map (stopAt files)

theorem stopsAt_of_missing {failure : FileFailure} (nowhere : files.find path = .error failure) :
    stopsAt files path = [.error (.missingPath path)] := by
  rw [stopsAt, placesAt, filesAt, nowhere]
  rfl

theorem stopsAt_of_unlisted {failure : FileFailure}
    (found : files.find path = .ok (.directory (.error failure))) :
    stopsAt files path = [.error (.unreadable path failure)] := by
  rw [stopsAt, placesAt, filesAt, found]
  rfl

theorem stopsAt_of_directory {children : List (FileName × Child)}
    (found : files.find path = .ok (.directory (.ok children))) :
    stopsAt files path =
      (entriesOf files path children).map fun entry => .ok (path.child entry.1, entry.2) := by
  rw [stopsAt, placesAt, filesAt, found, entriesOf, List.map_map, List.map_map, List.map_map]
  refine List.map_congr_left fun name _ => ?_
  simp only [Function.comp_apply, FilePath.join_name]
  rfl

theorem stopsAt_of_file {content : FileContent} (found : files.find path = .ok (.file content)) :
    stopsAt files path = [.ok (path, content)] := by
  have stop : stopAt files (.ok path) = .ok (path, content) := by
    rw [stopAt, Except.map, contentAt_of_file found]
  rw [stopsAt, placesAt, filesAt, found, ← stop]
  rfl

theorem refersTo_iff {stops : List Stop} :
    RefersTo files path stops ↔ stopsAt files path = stops := by
  constructor
  · intro refers
    cases refers with
    | missing nowhere => exact stopsAt_of_missing nowhere
    | unlisted found => exact stopsAt_of_unlisted found
    | file found => exact stopsAt_of_file found
    | @directory children entries found chosen ascending =>
      have same : entries = entriesOf files path children :=
        (chosen.trans (entriesOf_perm found).symm).eq_of_pairwise
          (fun a b first second => eq_of_mem_declarationFiles found (chosen.mem_iff.1 first)
            ((entriesOf_perm found).mem_iff.1 second))
          (List.pairwise_map.1 ascending) (entriesOf_ascending children)
      rw [same, stopsAt_of_directory found]
  · rintro rfl
    cases found : files.find path with
    | error failure =>
      rw [stopsAt_of_missing found]
      exact .missing found
    | ok target =>
      cases target with
      | file content =>
        rw [stopsAt_of_file found]
        exact .file found
      | directory listing =>
        cases listing with
        | error failure =>
          rw [stopsAt_of_unlisted found]
          exact .unlisted found
        | ok children =>
          rw [stopsAt_of_directory found]
          exact .directory found (entriesOf_perm found)
            (List.pairwise_map.2 (entriesOf_ascending children))

theorem traverses_iff {paths : List FilePath} {stops : List Stop} :
    Traverses files paths stops ↔ paths.flatMap (stopsAt files) = stops := by
  have groups_iff (groups : List (List Stop)) :
      List.Forall₂ (RefersTo files) paths groups ↔ paths.map (stopsAt files) = groups := by
    rw [← List.forall₂_eq_eq_eq, List.forall₂_map_left_iff]
    exact ⟨fun each => each.imp fun _ _ => refersTo_iff.1,
      fun each => each.imp fun _ _ => refersTo_iff.2⟩
  simp only [Traverses, groups_iff, exists_eq_left', List.flatMap_def, eq_comm (a := stops)]

end Stops

section Parts

def partOf (file : FilePath) : Except FileFailure String → Loaded
  | .error failure => ⟨[], [.unreadable file failure]⟩
  | .ok text => match Declaration.ofText text with
    | .ok declarations => ⟨declarations, []⟩
    | .error problem => ⟨[], [.malformed file problem]⟩

def part : Stop → Loaded
  | .error e => ⟨[], [e]⟩
  | .ok (file, content) => partOf file (Files.textOf content)

theorem part_of_adds {stop : Stop} {added : Loaded} (adds : Adds stop added) :
    part stop = added := by
  cases adds with
  | withoutFiles e => rfl
  | declared read => simp only [part, partOf, Files.textOf_toUTF8, read]
  | malformed refused => simp only [part, partOf, Files.textOf_toUTF8, refused]
  | notUtf8 invalid => simp only [part, partOf, Files.textOf_of_notUtf8 invalid]
  | unreadable file failure => rfl

theorem adds_part (stop : Stop) : Adds stop (part stop) := by
  have adds : ∃ added, Adds stop added := by
    match stop with
    | .error e => exact ⟨_, .withoutFiles e⟩
    | .ok (file, .error failure) => exact ⟨_, .unreadable file failure⟩
    | .ok (file, .ok bytes) =>
      by_cases valid : ∃ text : String, text.toUTF8 = bytes
      · obtain ⟨text, rfl⟩ := valid
        cases read : Declaration.ofText text with
        | ok declarations => exact ⟨_, .declared read⟩
        | error problem => exact ⟨_, .malformed read⟩
      · exact ⟨_, .notUtf8 fun text same => valid ⟨text, same⟩⟩
  obtain ⟨added, adds⟩ := adds
  rwa [part_of_adds adds]

def visitsOf (files : Files) (paths : List FilePath) : List (Stop × Loaded) :=
  (paths.flatMap (placesAt files)).map fun place => (stopAt files place, part (stopAt files place))

theorem visits_iff {files : Files} {paths : List FilePath} {visits : List (Stop × Loaded)} :
    Visits files paths visits ↔ visitsOf files paths = visits := by
  have stops : (visitsOf files paths).map (·.1) = paths.flatMap (stopsAt files) := by
    rw [visitsOf, List.map_map, List.map_flatMap]
    rfl
  rw [Visits, traverses_iff, ← stops]
  constructor
  · rintro ⟨same, adds⟩
    have parted (visit : Stop × Loaded) (member : visit ∈ visits) :
        (visit.1, part visit.1) = visit := Prod.ext rfl (part_of_adds (adds visit member))
    calc
      visitsOf files paths =
          ((visitsOf files paths).map (·.1)).map fun stop => (stop, part stop) := by
        rw [visitsOf, List.map_map, List.map_map]
        rfl
      _ = visits.map fun visit => (visit.1, part visit.1) := by
        rw [same, List.map_map]
        rfl
      _ = visits := (List.map_congr_left parted).trans (List.map_id visits)
  · rintro rfl
    refine ⟨rfl, fun visit member => ?_⟩
    obtain ⟨place, _, rfl⟩ := List.mem_map.1 member
    exact adds_part (stopAt files place)

end Parts

section Reports

variable (files : Files) (paths : List FilePath)

theorem isFile_of_mem_filesAt {path file : FilePath} {found : List FilePath}
    (refers : filesAt files path = .ok found) (member : file ∈ found) :
    files.isFile file = true := by
  unfold filesAt at refers
  split at refers
  · cases refers
  · rename_i content there
    obtain rfl := Except.ok.inj refers
    obtain rfl := List.mem_singleton.1 member
    exact Files.isFile_iff.2 ⟨content, there⟩
  · cases refers
  · obtain rfl := Except.ok.inj refers
    obtain ⟨name, chosen, rfl⟩ := List.mem_map.1 member
    have taken := List.mem_filter.1 ((List.mergeSort_perm _ _).mem_iff.1 chosen)
    exact (Bool.and_eq_true_iff.1 taken.2).1

theorem part_stopAt {file : FilePath} (there : files.isFile file = true) :
    part (stopAt files (.ok file)) = partOf file (files.readText file) := by
  obtain ⟨content, found⟩ := Files.isFile_iff.1 there
  rw [Files.readText_of_file found, stopAt, Except.map, contentAt_of_file found, part]

theorem addResult_declarationsIn (report : Loaded) (file : FilePath) :
    addResult report (declarationsIn files file) =
      report.append (partOf file (files.readText file)) := by
  rw [declarationsIn, partOf.eq_def]
  cases files.readText file with
  | error failure => simp [addResult, Loaded.append]
  | ok text =>
    dsimp only
    cases Declaration.ofText text <;> simp [addResult, Loaded.append]

theorem addPath_eq (report : Loaded) (path : FilePath) :
    addPath files report path =
      (placesAt files path).foldl (fun sum place => sum.append (part (stopAt files place)))
        report := by
  rw [addPath, placesAt]
  cases refers : filesAt files path with
  | error e => simp [addResult, stopAt, Except.map, part, Loaded.append]
  | ok found =>
    simp only [List.foldl_map]
    refine List.foldl_ext _ _ _ fun sum file member => ?_
    rw [addResult_declarationsIn, part_stopAt files (isFile_of_mem_filesAt files refers member)]

theorem value_ofPaths :
    (ofPaths files paths).value = .concat ((visitsOf files paths).map (·.2)) := by
  have folded : (ofPaths files paths).value = paths.foldl (addPath files) ⟨[], []⟩ := rfl
  rw [folded, funext fun report => funext (addPath_eq files report), ← List.foldl_flatMap,
    ← List.foldl_map, Loaded.foldl_append, visitsOf, List.map_map]
  rfl

theorem ofPaths_eq :
    ofPaths files paths = ⟨(ofPaths files paths).value,
      [.declarationsLoaded paths.length (ofPaths files paths).value.declarations.length
        (ofPaths files paths).value.errors.length]⟩ :=
  rfl

end Reports

end Loading

namespace Files

/-- What a search finds at a path in two states: nothing, a file, or a directory that cannot be
listed or lists the same names in some order. -/
inductive LooksLike : Except FileFailure Target → Except FileFailure Target → Prop
  | nowhere (failure other : FileFailure) : LooksLike (.error failure) (.error other)
  | file (content other : FileContent) : LooksLike (.ok (.file content)) (.ok (.file other))
  | unlisted (failure : FileFailure) :
      LooksLike (.ok (.directory (.error failure))) (.ok (.directory (.error failure)))
  | directory {children others : List (FileName × Child)}
      (same : (children.map (·.1)).Perm (others.map (·.1))) :
      LooksLike (.ok (.directory (.ok children))) (.ok (.directory (.ok others)))

def SameTree (files other : Files) : Prop :=
  ∀ path, LooksLike (files.find path) (other.find path)

/-- The second state is the first with the files at the given places made bad: there they cannot be
read, or hold no document of declarations. -/
structure SpoiltAt (files : Files) (place : FilePath → Prop) (spoilt : Files) : Prop where
  sameTree : files.SameTree spoilt
  elsewhere : ∀ path, ¬ place path → spoilt.readText path = files.readText path
  bad : ∀ path text, place path → spoilt.readText path = .ok text →
    ∃ problem, Declaration.ofText text = .error problem

theorem SameTree.isFile_eq {files other : Files} (same : files.SameTree other) (path : FilePath) :
    other.isFile path = files.isFile path := by
  have alike := same path
  unfold isFile
  generalize files.find path = found at alike
  generalize other.find path = found' at alike
  cases alike <;> rfl

end Files

namespace Loading

variable {files other : Files}

private theorem declarationFiles_congr (same : files.SameTree other) (path : FilePath)
    {names others : List FileName} (listed : names.Perm others) :
    declarationFiles other path others = declarationFiles files path names := by
  have kept : declarationFiles other path others = declarationFiles files path others := by
    simp only [declarationFiles, same.isFile_eq]
  have order : (declarationFiles files path others).Perm (declarationFiles files path names) :=
    (List.mergeSort_perm _ _).trans
      ((listed.symm.filter _).trans (List.mergeSort_perm _ _).symm)
  rw [kept]
  refine order.eq_of_pairwise (fun a b _ _ forth back => ?_)
    (declarationFiles_ascending files path others) (declarationFiles_ascending files path names)
  exact FileName.ext (List.le_antisymm forth back)

theorem placesAt_congr (same : files.SameTree other) (path : FilePath) :
    placesAt other path = placesAt files path := by
  have alike := same path
  unfold placesAt filesAt
  generalize files.find path = found at alike
  generalize other.find path = found' at alike
  cases alike with
  | nowhere failure failure' => rfl
  | file content content' => rfl
  | unlisted failure => rfl
  | directory listed => simp only [declarationFiles_congr same path listed]

/-- How a visit changes where files are made bad: not at all, unless it stops at one of them. There
one error takes the place of whatever the file added. -/
inductive Spoils (place : FilePath → Prop) : Stop × Loaded → Stop × Loaded → Prop
  | withoutFiles (e : DeclarationError) (added : Loaded) :
      Spoils place (.error e, added) (.error e, added)
  | elsewhere {file : FilePath} (away : ¬ place file) (content other : FileContent)
      (added : Loaded) : Spoils place (.ok (file, content), added) (.ok (file, other), added)
  | here {file : FilePath} (there : place file) (content other : FileContent) (added : Loaded)
      (e : DeclarationError) :
      Spoils place (.ok (file, content), added) (.ok (file, other), ⟨[], [e]⟩)

theorem partOf_of_bad {file : FilePath} {read : Except FileFailure String}
    (bad : ∀ text, read = .ok text → ∃ problem, Declaration.ofText text = .error problem) :
    ∃ e, partOf file read = ⟨[], [e]⟩ := by
  cases read with
  | error failure => exact ⟨.unreadable file failure, rfl⟩
  | ok text =>
    obtain ⟨problem, refused⟩ := bad text rfl
    exact ⟨.malformed file problem, by simp only [partOf, refused]⟩

theorem isFile_of_mem_places {paths : List FilePath} {file : FilePath}
    (member : .ok file ∈ paths.flatMap (placesAt files)) : files.isFile file = true := by
  obtain ⟨path, _, inside⟩ := List.mem_flatMap.1 member
  rw [placesAt] at inside
  cases refers : filesAt files path with
  | error e => simp [refers] at inside
  | ok found =>
    rw [refers] at inside
    obtain ⟨_, chosen, same⟩ := List.mem_map.1 inside
    obtain rfl := Except.ok.inj same
    exact isFile_of_mem_filesAt files refers chosen

theorem part_stopAt_congr (same : files.SameTree other) {paths : List FilePath} {file : FilePath}
    (member : .ok file ∈ paths.flatMap (placesAt files))
    (reads : other.readText file = files.readText file) :
    part (stopAt other (.ok file)) = part (stopAt files (.ok file)) := by
  have there := isFile_of_mem_places member
  rw [part_stopAt files there, part_stopAt other ((same.isFile_eq file).trans there), reads]

theorem visitsOf_spoils {place : FilePath → Prop} {spoilt : Files}
    (spoils : files.SpoiltAt place spoilt) (paths : List FilePath) :
    List.Forall₂ (Spoils place) (visitsOf files paths) (visitsOf spoilt paths) := by
  rw [visitsOf, visitsOf, funext (placesAt_congr spoils.sameTree)]
  refine List.forall₂_map_left_iff.2 (List.forall₂_map_right_iff.2 ?_)
  refine List.forall₂_same.2 fun stop member => ?_
  cases stop with
  | error e => exact .withoutFiles e _
  | ok file =>
    by_cases there : place file
    · have found := (spoils.sameTree.isFile_eq file).trans (isFile_of_mem_places member)
      obtain ⟨e, one⟩ := partOf_of_bad fun text => spoils.bad file text there
      rw [part_stopAt spoilt found, one]
      exact .here there _ _ _ e
    · rw [part_stopAt_congr spoils.sameTree member (spoils.elsewhere file there)]
      exact .elsewhere there _ _ _

/-- Loading reads every file that the paths refer to, in the order of the paths and, in a directory,
of the names. Each file adds its declarations or one error, and each path without files adds one
error. The order in which directories list their children does not matter, and a file made bad
takes only its own declarations out of the report and puts only its own error in. -/
theorem ofPaths_exact (files : Files) (paths : List FilePath) :
    (∀ report, (ofPaths files paths).value = report ↔ Loads files paths report) ∧
      (∀ other, files.SameTree other → (∀ path, other.readText path = files.readText path) →
        ofPaths other paths = ofPaths files paths) ∧
      ∀ place spoilt, files.SpoiltAt place spoilt →
        ∃ before after, Visits files paths before ∧ Visits spoilt paths after ∧
          (ofPaths files paths).value = .concat (before.map (·.2)) ∧
          (ofPaths spoilt paths).value = .concat (after.map (·.2)) ∧
          List.Forall₂ (Spoils place) before after := by
  refine ⟨fun report => ⟨?_, ?_⟩, ?_, ?_⟩
  · rintro rfl
    exact ⟨_, visits_iff.2 rfl, value_ofPaths files paths⟩
  · rintro ⟨visits, visited, rfl⟩
    rw [value_ofPaths, visits_iff.1 visited]
  · intro other same reads
    have parts : (visitsOf other paths).map (·.2) = (visitsOf files paths).map (·.2) := by
      rw [visitsOf, visitsOf, funext (placesAt_congr same), List.map_map, List.map_map]
      refine List.map_congr_left fun stop member => ?_
      cases stop with
      | error e => rfl
      | ok file => exact part_stopAt_congr same member (reads file)
    rw [ofPaths_eq other, ofPaths_eq files, value_ofPaths other, value_ofPaths files, parts]
  · intro place spoilt spoils
    exact ⟨_, _, visits_iff.2 rfl, visits_iff.2 rfl, value_ofPaths files paths,
      value_ofPaths spoilt paths, visitsOf_spoils spoils paths⟩

end Loading

namespace Files

variable (files : Files)

def backward : Target → Target
  | .file content => .file content
  | .directory children => .directory (children.map List.reverse)

def reversed : Files where
  find path := (files.find path).map backward
  shows {directory children name child} found listed := by
    have kind (found : Except FileFailure Target) :
        Child.of (found.map backward) = Child.of found := by
      match found with
      | .error _ | .ok (.file _) | .ok (.directory _) => rfl
    rw [kind]
    match there : files.find directory with
    | .error failure => simp [there, Except.map] at found
    | .ok (.file content) => simp [there, Except.map, backward] at found
    | .ok (.directory (.error failure)) => simp [there, Except.map, backward] at found
    | .ok (.directory (.ok others)) =>
      obtain rfl : others.reverse = children := by simpa [there, Except.map, backward] using found
      exact files.shows there (List.mem_reverse.1 listed)

theorem sameTree_reversed : files.SameTree files.reversed := by
  intro path
  unfold reversed
  dsimp only
  match files.find path with
  | .error failure => exact .nowhere failure failure
  | .ok (.file content) => exact .file content content
  | .ok (.directory (.error failure)) => exact .unlisted failure
  | .ok (.directory (.ok children)) => exact .directory ((List.reverse_perm children).symm.map _)

theorem readText_reversed (path : FilePath) :
    files.reversed.readText path = files.readText path := by
  unfold reversed readText
  dsimp only
  match files.find path with
  | .error _ | .ok (.file _) | .ok (.directory (.error _)) | .ok (.directory (.ok _)) => rfl

variable (place : FilePath → Prop) [DecidablePred place] (content : FileContent)

def overwritten (path : FilePath) : Target → Target
  | .file own => .file (if place path then content else own)
  | .directory children => .directory (children.map (List.map fun child => (child.1,
      match child.2 with
      | .file own => .file (if place (path.child child.1) then content else own)
      | other => other)))

/-- The same files when those at the given places hold something else. -/
def overwrite : Files where
  find path := (files.find path).map (overwritten place content path)
  shows {directory children name child} found listed := by
    match there : files.find directory with
    | .error failure => simp [there, Except.map] at found
    | .ok (.file own) => simp [there, Except.map, overwritten] at found
    | .ok (.directory (.error failure)) => simp [there, Except.map, overwritten] at found
    | .ok (.directory (.ok others)) =>
      rw [there] at found
      obtain rfl := Except.ok.inj (Target.directory.inj (Except.ok.inj found))
      obtain ⟨⟨own, shown⟩, member, same⟩ := List.mem_map.1 listed
      obtain ⟨rfl, rfl⟩ := Prod.mk.inj same
      rw [files.shows there member]
      match files.find (directory.child own) with
      | .error _ | .ok (.file _) | .ok (.directory _) => rfl

theorem spoiltAt_overwrite
    (bad : ∀ text, textOf content = .ok text → ∃ problem, Declaration.ofText text = .error problem)
    (there : ∀ path, place path → files.isFile path = true) :
    files.SpoiltAt place (files.overwrite place content) where
  sameTree path := by
    unfold overwrite
    dsimp only
    match files.find path with
    | .error failure => exact .nowhere failure failure
    | .ok (.file own) => exact .file own _
    | .ok (.directory (.error failure)) => exact .unlisted failure
    | .ok (.directory (.ok children)) =>
      refine .directory (.of_eq ?_)
      rw [List.map_map]
      rfl
  elsewhere path away := by
    unfold overwrite readText
    dsimp only
    match files.find path with
    | .error _ | .ok (.directory _) => rfl
    | .ok (.file own) => simp only [Except.map, overwritten, if_neg away]
  bad path text here read := by
    obtain ⟨own, found⟩ := isFile_iff.1 (there path here)
    refine bad text (Eq.trans ?_ read)
    simp only [readText, overwrite, found, Except.map, overwritten, if_pos here]

end Files

namespace Loading

/-- A directory with three declaration files, of which one has a name that is no text, among other
children. One of these is a directory and one is hidden. -/
def worldTree : FileTree FilePath where
  root := .directory (.ok [
    ("world", .directory (.ok [
      ("b.json", .file (.ok "\x7b\"namespace\":\"second\"\x7d".toUTF8)),
      (".json", .file (.ok "".toUTF8)),
      (⟨0xFF :: Text.utf8 ".json"⟩, .file (.ok "\x7b\"namespace\":\"third\"\x7d".toUTF8)),
      ("c.json", .directory (.ok [])),
      ("a.json", .file (.ok "[\x7b\"namespace\":\"first\"\x7d]".toUTF8)),
      ("notes.txt", .file (.ok "".toUTF8))]))])
  workingDirectory := []

def worldFiles : Files :=
  worldTree.files

def worldFilesCut : Files :=
  worldFiles.overwrite (· = "world/a.json") (.ok "[".toUTF8)

def worldEntries (first : String) : List (FileName × FileContent) := [
  (⟨Text.utf8 "a.json", by decide⟩, .ok first.toUTF8),
  (⟨Text.utf8 "b.json", by decide⟩, .ok "\x7b\"namespace\":\"second\"\x7d".toUTF8),
  (⟨0xFF :: Text.utf8 ".json", by decide⟩, .ok "\x7b\"namespace\":\"third\"\x7d".toUTF8)]

def worldVisits (first : String) (added : Loaded) : List (Stop × Loaded) := [
  (.ok ("world/a.json", .ok first.toUTF8), added),
  (.ok ("world/b.json", .ok "\x7b\"namespace\":\"second\"\x7d".toUTF8),
    ⟨[⟨"second", [], Options.empty, none⟩], []⟩),
  (.ok (⟨Text.utf8 "world/" ++ 0xFF :: Text.utf8 ".json"⟩,
      .ok "\x7b\"namespace\":\"third\"\x7d".toUTF8),
    ⟨[⟨"third", [], Options.empty, none⟩], []⟩),
  (.error (.missingPath "gone"), ⟨[], [.missingPath "gone"]⟩)]

def wholeVisits : List (Stop × Loaded) :=
  worldVisits "[\x7b\"namespace\":\"first\"\x7d]" ⟨[⟨"first", [], Options.empty, none⟩], []⟩

def cutVisits : List (Stop × Loaded) :=
  worldVisits "[" ⟨[], [.malformed "world/a.json" (.fault .truncated)]⟩

private theorem visits_world {files : Files} {first : String} {added : Loaded}
    (world : RefersTo files "world"
      ((worldEntries first).map fun entry => .ok (FilePath.child "world" entry.1, entry.2)))
    (gone : files.find "gone" = .error .notFound)
    (adds : Adds (.ok ("world/a.json", .ok first.toUTF8)) added) :
    Visits files ["world", "gone"] (worldVisits first added) := by
  refine ⟨⟨[_, _], .cons world (.cons (.missing gone) .nil), rfl⟩, ?_⟩
  simp only [worldVisits, List.forall_mem_cons, List.not_mem_nil, false_imp_iff, implies_true,
    and_true]
  refine ⟨adds, .declared ?_, .declared ?_, .withoutFiles _⟩
  · decide +kernel
  · decide +kernel

private theorem visits_wholeVisits : Visits worldFiles ["world", "gone"] wholeVisits :=
  visits_world (.directory rfl ((@List.perm_append_comm _ [_] [_, _]).trans (.of_eq rfl))
    (by decide)) rfl (.declared (by decide +kernel))

private theorem visits_cutVisits : Visits worldFilesCut ["world", "gone"] cutVisits :=
  visits_world (.directory rfl ((@List.perm_append_comm _ [_] [_, _]).trans (.of_eq rfl))
    (by decide)) rfl (.malformed (by decide +kernel))

private theorem worldFiles_spoiltAt : worldFiles.SpoiltAt (· = "world/a.json") worldFilesCut := by
  refine worldFiles.spoiltAt_overwrite _ _ (fun text read => ?_) ?_
  · obtain rfl := Except.ok.inj ((Files.textOf_toUTF8 "[").symm.trans read)
    exact ⟨.fault .truncated, by decide +kernel⟩
  · rintro _ rfl
    rfl

theorem worldFiles_exact :
    Visits worldFiles ["world", "gone"] wholeVisits ∧
      (ofPaths worldFiles ["world", "gone"]).value = .concat (wholeVisits.map (·.2)) ∧
      worldFiles.SameTree worldFiles.reversed ∧
      (∀ path, worldFiles.reversed.readText path = worldFiles.readText path) ∧
      ofPaths worldFiles.reversed ["world", "gone"] = ofPaths worldFiles ["world", "gone"] ∧
      worldFiles.SpoiltAt (· = "world/a.json") worldFilesCut ∧
      (ofPaths worldFilesCut ["world", "gone"]).value = .concat (cutVisits.map (·.2)) ∧
      List.Forall₂ (Spoils (· = "world/a.json")) wholeVisits cutVisits := by
  obtain ⟨exact, ordered, spoils⟩ := ofPaths_exact worldFiles ["world", "gone"]
  obtain ⟨before, after, visits, visits', _, loads, each⟩ := spoils _ _ worldFiles_spoiltAt
  have whole : before = wholeVisits :=
    (visits_iff.1 visits).symm.trans (visits_iff.1 visits_wholeVisits)
  have cut : after = cutVisits :=
    (visits_iff.1 visits').symm.trans (visits_iff.1 visits_cutVisits)
  rw [whole, cut] at each
  rw [cut] at loads
  exact ⟨visits_wholeVisits, (exact _).2 ⟨_, visits_wholeVisits, rfl⟩,
    worldFiles.sameTree_reversed, worldFiles.readText_reversed,
    ordered _ worldFiles.sameTree_reversed worldFiles.readText_reversed, worldFiles_spoiltAt,
    loads, each⟩

end Loading

end TableSchema
