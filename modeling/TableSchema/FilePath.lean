import TableSchema.Text.Lossy

set_option autoImplicit false

namespace TableSchema

structure FilePath where
  bytes : List UInt8
  deriving DecidableEq, Repr

namespace FilePath

def slash : UInt8 := 0x2F

def dot : UInt8 := 0x2E

def ofText (text : String) : FilePath :=
  ⟨text.toUTF8.data.toList⟩

instance : Coe String FilePath := ⟨ofText⟩

instance : Coe (List String) (List FilePath) := ⟨List.map ofText⟩

def display (path : FilePath) : String :=
  String.ofList (Text.decodeLossy path.bytes)

section Parts

-- Paths in documents are joined as texts, those of found files as bytes.
variable {α : Type} [BEq α]

/-- A path below a base. An absolute path replaces the base. -/
def joinAt (slash : α) (base path : List α) : List α :=
  if path.head? == some slash || base.isEmpty then path
  else if base.getLast? == some slash then base ++ path
  else base ++ slash :: path

/-- The parts between slashes, empty ones included. -/
def splitAt (slash : α) : List α → List (List α)
  | [] => [[]]
  | c :: rest =>
    if c == slash then [] :: splitAt slash rest
    else match splitAt slash rest with
      | [] => [[c]]
      | part :: parts => (c :: part) :: parts

theorem splitAt_ne_nil (slash : α) (path : List α) : splitAt slash path ≠ [] := by
  cases path with
  | nil => simp [splitAt]
  | cons c rest =>
    rw [splitAt]
    split
    · simp
    · split <;> simp

variable [LawfulBEq α] {slash : α}

theorem splitAt_of_not_mem {path : List α} (single : slash ∉ path) :
    splitAt slash path = [path] := by
  induction path with
  | nil => rfl
  | cons c rest ih =>
    rw [List.mem_cons, not_or] at single
    rw [splitAt, if_neg (by simpa using Ne.symm single.1), ih single.2]

theorem splitAt_append (front back : List α) :
    splitAt slash (front ++ slash :: back) = splitAt slash front ++ splitAt slash back := by
  induction front with
  | nil => simp [splitAt]
  | cons c front ih =>
    rw [List.cons_append, splitAt, splitAt, ih]
    split
    · rfl
    · obtain ⟨part, parts, split⟩ := List.exists_cons_of_ne_nil (splitAt_ne_nil slash front)
      simp only [split, List.cons_append]

end Parts

def join (base path : FilePath) : FilePath :=
  ⟨joinAt slash base.bytes path.bytes⟩

def joinText (base path : String) : String :=
  String.ofList (joinAt '/' base.toList path.toList)

def isAbsolute (path : FilePath) : Bool :=
  path.bytes.head? == some slash

def parts (path : FilePath) : List (List UInt8) :=
  splitAt slash path.bytes

def segments (path : String) : List String :=
  (splitAt '/' path.toList).map String.ofList

/-- Takes slashes and segments of one dot from the end of a path, read backward; the first
character of the path stays. -/
def trimBackward : List Char → List Char
  | '/' :: c :: rest => trimBackward (c :: rest)
  | '.' :: '/' :: c :: rest => trimBackward ('/' :: c :: rest)
  | ['.', '/'] => ['/']
  | path => path

def parent (path : String) : String :=
  String.ofList (trimBackward (path.toList.reverse.dropWhile (· != '/'))).reverse

end FilePath

@[ext]
structure FileName where
  bytes : List UInt8
  proper : bytes ≠ [] ∧ bytes ≠ [FilePath.dot] ∧ bytes ≠ [FilePath.dot, FilePath.dot] ∧
    FilePath.slash ∉ bytes ∧ 0 ∉ bytes
  deriving DecidableEq, Repr

namespace FileName

def ofBytes? (bytes : List UInt8) : Option FileName :=
  if proper : bytes ≠ [] ∧ bytes ≠ [FilePath.dot] ∧ bytes ≠ [FilePath.dot, FilePath.dot] ∧
      FilePath.slash ∉ bytes ∧ 0 ∉ bytes then
    some ⟨bytes, proper⟩
  else none

def path (name : FileName) : FilePath :=
  ⟨name.bytes⟩

def jsonExtension : List UInt8 := (FilePath.ofText ".json").bytes

/-- Whether a name ends in `.json` after at least one other byte. -/
def hasJsonExtension (name : FileName) : Bool :=
  jsonExtension.isSuffixOf name.bytes && jsonExtension.length < name.bytes.length

theorem hasJsonExtension_iff {name : FileName} :
    name.hasJsonExtension = true ↔ ∃ stem, stem ≠ [] ∧ name.bytes = stem ++ jsonExtension := by
  rw [hasJsonExtension, Bool.and_eq_true, List.isSuffixOf_iff_suffix, decide_eq_true_iff]
  constructor
  · rintro ⟨⟨stem, whole⟩, longer⟩
    refine ⟨stem, ?_, whole.symm⟩
    rintro rfl
    rw [← whole] at longer
    exact absurd longer (Nat.lt_irrefl _)
  · rintro ⟨stem, given, whole⟩
    refine ⟨⟨stem, whole.symm⟩, ?_⟩
    rw [whole, List.length_append]
    exact Nat.lt_add_of_pos_left (List.length_pos_iff.2 given)

end FileName

namespace FilePath

def child (directory : FilePath) (name : FileName) : FilePath :=
  if directory.bytes = [] then name.path
  else if directory.bytes.getLast? = some slash then ⟨directory.bytes ++ name.bytes⟩
  else ⟨directory.bytes ++ slash :: name.bytes⟩

theorem join_name (directory : FilePath) (name : FileName) :
    directory.join name.path = directory.child name := by
  have relative : name.bytes.head? ≠ some slash := fun head =>
    name.proper.2.2.2.1 (List.mem_of_mem_head? head)
  simp only [join, joinAt, child, FileName.path, beq_iff_eq, relative, Bool.or_eq_true, false_or,
    List.isEmpty_iff]
  split
  · rfl
  · split <;> rfl

section Child

variable {directory : FilePath} (given : directory.bytes ≠ []) (name : FileName)
include given

theorem isAbsolute_child : (directory.child name).isAbsolute = directory.isAbsolute := by
  obtain ⟨first, rest, bytes⟩ := List.exists_cons_of_ne_nil given
  unfold child isAbsolute
  rw [if_neg given]
  split <;> simp [bytes]

/-- The parts of an entry's path are those of its directory and its name. A directory that ends in
a slash has an empty part after it, which the name takes. -/
theorem parts_child : ∃ front, (directory.child name).parts = front ++ [name.bytes] ∧
    (directory.parts = front ∨ directory.parts = front ++ [[]]) := by
  have single : splitAt slash name.bytes = [name.bytes] := splitAt_of_not_mem name.proper.2.2.2.1
  unfold child
  rw [if_neg given]
  split
  · rename_i last
    obtain ⟨front, whole⟩ := List.getLast?_eq_some_iff.1 last
    refine ⟨splitAt slash front, ?_, .inr ?_⟩
    · rw [parts, whole, List.append_assoc, List.singleton_append, splitAt_append, single]
    · rw [parts, whole, splitAt_append]
      rfl
  · exact ⟨directory.parts, by rw [parts, splitAt_append, single, parts], .inl rfl⟩

end Child

theorem child_ne_nil (directory : FilePath) (name : FileName) :
    (directory.child name).bytes ≠ [] := by
  unfold child
  split
  · exact name.proper.1
  · split <;> simp [name.proper.1]

theorem mem_child_iff {byte : UInt8} (other : byte ≠ slash) (directory : FilePath)
    (name : FileName) :
    byte ∈ (directory.child name).bytes ↔ byte ∈ directory.bytes ∨ byte ∈ name.bytes := by
  unfold child
  split
  · rename_i none
    simp [none, FileName.path]
  · split <;> simp [other]

end FilePath

end TableSchema
