import TableSchema.Pattern.Atom

/-!
Sets of characters in brackets: unions of characters, ranges, named classes and further sets, and
what two such unions have in common or not.

Of a set only two things matter to the pattern around it: how deep it is nested, and whether it
holds what is above the first 128 characters. Of bytes it may not, since such a byte is only a
part of a character.
-/

set_option autoImplicit false

namespace TableSchema.Pattern

/-- What matters of a set: its nesting depth, and whether it holds anything from number 128 on. -/
structure SetShape where
  depth : Nat
  high : Bool
  deriving DecidableEq, Repr

inductive SetOperation where
  | common
  | without
  | either
  deriving DecidableEq, Repr

namespace SetOperation

def apply (operation : SetOperation) (a b : SetShape) : SetShape where
  depth := max a.depth b.depth + 1
  high :=
    match operation with
    | .common => a.high && b.high
    | .without => a.high && !b.high
    | .either => a.high != b.high

end SetOperation

/-- Brackets that are not closed yet: whether they stand for what the set does not hold, what
stands before the last sign, the union behind it, latest first, and whether the brackets hold
nothing yet but minus signs. -/
structure OpenSet where
  others : Bool
  before : Option (SetShape × SetOperation)
  union : List SetShape
  fresh : Bool

namespace OpenSet

def start (others : Bool) : OpenSet :=
  ⟨others, none, [], true⟩

def add (set : OpenSet) (item : SetShape) : OpenSet :=
  { set with union := item :: set.union, fresh := false }

private def unite : List SetShape → SetShape
  | [] => ⟨0, false⟩
  | [one] => one
  | sets => ⟨(sets.map (·.depth)).foldl max 0 + 1, sets.any (·.high)⟩

/-- What stands in the brackets so far. Signs are applied in the order in which they stand. -/
def content (set : OpenSet) : SetShape :=
  match set.before with
  | none => unite set.union
  | some (left, operation) => operation.apply left (unite set.union)

def operate (set : OpenSet) (operation : SetOperation) : OpenSet :=
  ⟨set.others, some (set.content, operation), [], false⟩

def close (set : OpenSet) (modes : Modes) : Option SetShape :=
  let high := set.content.high != set.others
  if !modes.unicode && high then none else some ⟨set.content.depth + 1, high⟩

end OpenSet

namespace SetShape

private def item (modes : Modes) (atom : Atom) : Option SetShape :=
  if modes.admitsInSet atom then some ⟨0, false⟩ else none

private def classNames : List String :=
  ["alnum", "alpha", "ascii", "blank", "cntrl", "digit", "graph", "lower", "print", "punct",
   "space", "upper", "word", "xdigit"]

/-- A class of the first 128 characters by its name between colons, or all characters but those,
up to its closing bracket. -/
private def namedClass? (text : List Char) : Option (Bool × List Char) :=
  let named := fun others (text : List Char) =>
    match text.dropWhile (· != ':') with
    | ':' :: ']' :: rest =>
      if classNames.contains (String.ofList (text.takeWhile (· != ':'))) then some (others, rest)
      else none
    | _ => none
  match text with
  | ':' :: '^' :: rest => named true rest
  | ':' :: rest => named false rest
  | _ => none

private def readAtom (modes : Modes) : List Char → Option (Atom × List Char)
  | [] => none
  | '\\' :: rest => Atom.ofEscape? modes rest
  | c :: rest => some (.char c false, rest)

/-- Reads one element, or a range of characters from the lower to the higher. A minus sign before
the closing bracket or before another one makes no range. -/
private def readItem (modes : Modes) (text : List Char) : Option (SetShape × List Char) := do
  let (first, text) ← readAtom modes text
  let single := (item modes first).map (·, text)
  match modes.skip text with
  | '-' :: rest =>
    match (modes.skip rest).head? with
    | some ']' | some '-' => single
    | _ =>
      let (last, rest) ← readAtom modes (modes.skip rest)
      match first, last with
      | .char low _, .char high _ =>
        if low ≤ high && modes.admitsInSet first then (item modes last).map (·, rest) else none
      | _, _ => none
  | _ => single

/-- Reads on inside brackets, of which others may be open around them. The limit is a number of
steps; every step but the last takes a character. -/
private def readOpen (modes : Modes) :
    Nat → OpenSet → List OpenSet → List Char → Option (SetShape × List Char)
  | 0, _, _, _ => none
  | limit + 1, set, outer, text =>
    match modes.skip text with
    | [] => none
    | '-' :: rest =>
      if set.fresh then do
        let shape ← item modes (.char '-' false)
        readOpen modes limit { set.add shape with fresh := true } outer rest
      else match rest with
        | '-' :: rest => readOpen modes limit (set.operate .without) outer rest
        | rest => do
          let (shape, rest) ← readItem modes ('-' :: rest)
          readOpen modes limit (set.add shape) outer rest
    | ']' :: rest =>
      if set.fresh && set.union.isEmpty then do
        let shape ← item modes (.char ']' false)
        readOpen modes limit (set.add shape) outer rest
      else do
        let shape ← set.close modes
        match outer with
        | [] => return (shape, rest)
        | set :: outer => readOpen modes limit (set.add shape) outer rest
    | '&' :: '&' :: rest => readOpen modes limit (set.operate .common) outer rest
    | '~' :: '~' :: rest => readOpen modes limit (set.operate .either) outer rest
    | '[' :: rest =>
      match namedClass? rest with
      | some (others, rest) =>
        if modes.unicode && modes.anyCase then none
        else readOpen modes limit (set.add ⟨0, others⟩) outer rest
      | none =>
        match modes.skip rest with
        | '^' :: rest => readOpen modes limit (.start true) (set :: outer) rest
        | rest => readOpen modes limit (.start false) (set :: outer) rest
    | text => do
      let (shape, rest) ← readItem modes text
      readOpen modes limit (set.add shape) outer rest

def read (modes : Modes) (text : List Char) : Option (SetShape × List Char) :=
  match modes.skip text with
  | '^' :: rest => readOpen modes (text.length + 1) (.start true) [] rest
  | rest => readOpen modes (text.length + 1) (.start false) [] rest

end SetShape

end TableSchema.Pattern
