import TableSchema.Text.CharacterClass
import TableSchema.Text.Hexadecimal

/-!
The single elements of a pattern, and the modes on which it depends which of them may stand.

An element is a character that stands for itself, or an escape after a backslash. Characters are
compared as they are written, and every match is whole characters: there is no folding of case
and no class of characters beyond the first 128, and no element may match a part of a character.
-/

set_option autoImplicit false

namespace TableSchema.Pattern

/-- The modes that flags switch: whether a pattern is about characters rather than bytes, whether
it takes letters of either case, and whether blanks and comments in it are passed over. -/
structure Modes where
  unicode : Bool
  anyCase : Bool
  spaced : Bool
  deriving DecidableEq, Repr

/-- One element: a character, perhaps told by its two hexadecimal digits; any character; an edge
of the text or of a line; an edge of a word; and digits, blanks or letters, or all but those. -/
inductive Atom where
  | char (value : Char) (byTwoDigits : Bool)
  | any
  | edge
  | wordEdge
  | kind (others : Bool)
  deriving DecidableEq, Repr

namespace Modes

def start : Modes :=
  ⟨true, false, false⟩

/-- The modes after flags of one letter each have switched them; those after a minus sign switch
off. No flag may stand twice, and a minus sign not last. -/
def switch (modes : Modes) (flags : List Char) : Option Modes :=
  if flags.all ("-imsUuRx".toList.contains ·) && decide flags.Nodup
      && flags.getLast? != some '-' then
    let on := flags.takeWhile (· != '-')
    let setting := fun flag before => if flags.contains flag then on.contains flag else before
    some ⟨setting 'u' modes.unicode, setting 'i' modes.anyCase, setting 'x' modes.spaced⟩
  else none

def admits (modes : Modes) : Atom → Bool
  | .char value byTwoDigits =>
    if modes.unicode then !modes.anyCase else !byTwoDigits || value.toNat < 0x80
  | .any => modes.unicode
  | .edge => true
  | .wordEdge => !modes.unicode
  | .kind others => !modes.unicode && !others

def admitsInSet (modes : Modes) : Atom → Bool
  | .char value _ => if modes.unicode then !modes.anyCase else value.toNat < 0x80
  | .kind others => !modes.unicode && !others
  | .any | .edge | .wordEdge => false

/-- Passes over blanks, and over comments up to the end of their line. -/
def dropSpace : Bool → List Char → List Char
  | _, [] => []
  | true, c :: rest => dropSpace (c != '\n') rest
  | false, c :: rest =>
    if Text.isBlank c then dropSpace false rest
    else if c = '#' then dropSpace true rest
    else c :: rest

def skip (modes : Modes) (text : List Char) : List Char :=
  if modes.spaced then dropSpace false text else text

end Modes

namespace Atom

/-- A character by the given count of hexadecimal digits, in front of which `value` stands. -/
private def readDigits (modes : Modes) (byTwoDigits : Bool) :
    Nat → Nat → List Char → Option (Atom × List Char)
  | 0, value, rest =>
    if value.isValidChar then some (.char (.ofNat value) byTwoDigits, rest) else none
  | count + 1, value, text =>
    match modes.skip text with
    | [] => none
    | c :: rest => do
      let digit ← Text.hexDigit? c
      readDigits modes byTwoDigits count (value * 16 + digit) rest

/-- The character for which an escape of one letter stands. -/
private def control? : Char → Option Char
  | 'a' => some '\x07'
  | 't' => some '\t'
  | 'n' => some '\n'
  | 'v' => some '\x0b'
  | 'f' => some '\x0c'
  | 'r' => some '\r'
  | _ => none

/-- Reads what follows a backslash. A sign of the first 128 characters stands for itself, other
letters and all digits for nothing. -/
def ofEscape? (modes : Modes) : List Char → Option (Atom × List Char)
  | [] => none
  | 'x' :: rest => readDigits modes true 2 0 rest
  | 'u' :: rest => readDigits modes false 4 0 rest
  | 'U' :: rest => readDigits modes false 8 0 rest
  | c :: rest =>
    if "dsw".toList.contains c then some (.kind false, rest)
    else if "DSW".toList.contains c then some (.kind true, rest)
    else if "Az".toList.contains c then some (.edge, rest)
    else if "bB<>".toList.contains c then some (.wordEdge, rest)
    else match control? c with
      | some value => some (.char value false, rest)
      | none =>
        if c.toNat < 0x80 && !c.isAlphanum then some (.char c false, rest) else none

end Atom

end TableSchema.Pattern
