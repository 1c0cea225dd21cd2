import TableSchema.Pattern.Bracket

/-!
Patterns that a text may be asked to match: which texts spell one.

A pattern is elements and groups in a row, each perhaps repeated, and alternatives of such rows.
Flags switch modes up to the end of the group in which they stand.
-/

set_option autoImplicit false

namespace TableSchema

namespace Pattern

/-- What matters of a part of a row: whether it can be repeated, as flags cannot, and how deep it
is nested. -/
structure Part where
  repeatable : Bool
  depth : Nat
  deriving DecidableEq, Repr

/-- A group under construction: the modes, the current row, latest part first, and the depths of
the rows before it, of which it is an alternative. -/
structure Body where
  modes : Modes
  row : List Part
  rows : List Nat
  deriving DecidableEq, Repr

namespace Body

def add (body : Body) (part : Part) : Body :=
  { body with row := part :: body.row }

/-- A row of one part is that part. -/
private def rowDepth : List Part → Nat
  | [] => 0
  | [one] => one.depth
  | parts => (parts.map (·.depth)).foldl max 0 + 1

def depth (body : Body) : Nat :=
  match body.rows with
  | [] => rowDepth body.row
  | rows => rows.foldl max (rowDepth body.row) + 1

def divide (body : Body) : Body :=
  { body with row := [], rows := rowDepth body.row :: body.rows }

def repeatLast (body : Body) : Option Body :=
  match body.row with
  | ⟨true, depth⟩ :: row => some { body with row := ⟨true, depth + 1⟩ :: row }
  | _ => none

end Body

/-- A pattern under construction: the innermost group, the groups around it, and the names that
groups have. -/
structure Draft where
  body : Body
  outer : List Body
  names : List (List Char)
  deriving DecidableEq, Repr

namespace Draft

private def isNameStart (c : Char) : Bool :=
  c == '_' || Text.isAlphabetic c

private def isNamePart (c : Char) : Bool :=
  "_.[]".toList.contains c || Text.isAlphanumeric c

/-- Opens a group in the given modes. -/
private def openGroup (draft : Draft) (modes : Modes) : Draft :=
  { draft with body := ⟨modes, [], []⟩, outer := draft.body :: draft.outer }

private def openNamed (draft : Draft) (text : List Char) : Option (Draft × List Char) :=
  let name := text.takeWhile (· != '>')
  match text.dropWhile (· != '>') with
  | _ :: rest =>
    if name.head?.any isNameStart && name.tail.all isNamePart && !draft.names.contains name then
      some ({ draft.openGroup draft.body.modes with names := name :: draft.names }, rest)
    else none
  | [] => none

/-- Reads flags up to a colon, which opens a group in their modes, or up to a closing bracket. -/
private def readFlags (draft : Draft) (text : List Char) : Option (Draft × List Char) := do
  let isEnd := fun c => c == ':' || c == ')'
  let flags := text.takeWhile (!isEnd ·)
  let modes ← draft.body.modes.switch flags
  match text.dropWhile (!isEnd ·) with
  | ':' :: rest => return (draft.openGroup modes, rest)
  | _ :: rest =>
    if flags.isEmpty then none
    else return ({ draft with body := { draft.body.add ⟨false, 0⟩ with modes := modes } }, rest)
  | [] => none

private def readGroup (draft : Draft) (text : List Char) : Option (Draft × List Char) :=
  match draft.body.modes.skip text with
  | '?' :: 'P' :: '<' :: rest | '?' :: '<' :: rest => draft.openNamed rest
  | '?' :: rest => draft.readFlags rest
  | rest => some (draft.openGroup draft.body.modes, rest)

private def closeGroup (draft : Draft) : Option Draft :=
  match draft.outer with
  | [] => none
  | body :: outer =>
    some { draft with body := body.add ⟨true, draft.body.depth + 1⟩, outer := outer }

private def addAtom (draft : Draft) (atom : Atom) : Option Draft :=
  if draft.body.modes.admits atom then some { draft with body := draft.body.add ⟨true, 0⟩ }
  else none

/-- Reads one element, sign or bracket. A question mark right after a repetition belongs to it.
A repetition by numbers in braces is none that can be written here. -/
def step (draft : Draft) (c : Char) (rest : List Char) : Option (Draft × List Char) :=
  match c with
  | '(' => draft.readGroup rest
  | ')' => draft.closeGroup.map (·, rest)
  | '|' => some ({ draft with body := draft.body.divide }, rest)
  | '[' => do
    let (set, rest) ← SetShape.read draft.body.modes rest
    return ({ draft with body := draft.body.add ⟨true, set.depth⟩ }, rest)
  | '?' | '*' | '+' => do
    let body ← draft.body.repeatLast
    let rest := if rest.head? = some '?' then rest.tail else rest
    return ({ draft with body := body }, rest)
  | '\x7b' => none
  | '.' => (draft.addAtom .any).map (·, rest)
  | '^' | '$' => (draft.addAtom .edge).map (·, rest)
  | '\\' => do
    let (atom, rest) ← Atom.ofEscape? draft.body.modes rest
    return (← draft.addAtom atom, rest)
  | c => (draft.addAtom (.char c false)).map (·, rest)

/-- Reads on to the end of the text. The limit is a number of steps; every step takes a
character. -/
def read : Nat → Draft → List Char → Option Draft
  | 0, draft, text => if (draft.body.modes.skip text).isEmpty then some draft else none
  | limit + 1, draft, text =>
    match draft.body.modes.skip text with
    | [] => some draft
    | c :: rest => do
      let (draft, rest) ← draft.step c rest
      read limit draft rest

def start : Draft :=
  ⟨⟨.start, [], []⟩, [], []⟩

end Draft

def maxDepth : Nat := 250

def isSpelledBy (text : List Char) : Bool :=
  match Draft.start.read text.length text with
  | some draft => draft.outer.isEmpty && draft.body.depth ≤ maxDepth
  | none => false

end Pattern

end TableSchema
