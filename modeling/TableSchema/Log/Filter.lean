import TableSchema.Log.Record
import TableSchema.Pattern

/-!
Log filters: which records are shown.

A filter is written as directives between commas: a level, a target, or `target=level`; a target
may be followed by a span and a field in brackets. Of the directives that apply to a record the
most specific one decides. A run has no spans, so a directive that asks for one, or for the value
of a field, selects nothing; but a value that is neither a number nor a pattern spoils the filter.
-/

set_option autoImplicit false

namespace TableSchema

namespace Level

def ofNumber? : Nat → Option Level
  | 1 => some .error
  | 2 => some .warn
  | 3 => some .info
  | 4 => some .debug
  | 5 => some .trace
  | _ => none

end Level

/-- How much a directive shows: nothing, or records of a level and of those more severe. -/
inductive Verbosity where
  | off
  | upTo (level : Level)
  deriving DecidableEq, Repr

namespace Verbosity

def allows : Verbosity → Level → Bool
  | .off, _ => false
  | .upTo least, level => least.severity ≤ level.severity

private def number? (text : List Char) : Option Nat :=
  let digits := match text with
    | '+' :: rest => rest
    | text => text
  if digits.isEmpty || !digits.all Char.isDigit then none
  else some (digits.foldl (fun value digit => value * 10 + (digit.toNat - 48)) 0)

def ofText? (text : List Char) : Option Verbosity :=
  match number? text with
  | some 0 => some .off
  | some n => (Level.ofNumber? n).map .upTo
  | none =>
    let name := String.ofList (text.map Char.toLower)
    if name = "off" then some .off else (Level.ofName? name).map .upTo

end Verbosity

/-- The part of a directive between brackets: a span, and a field with or without a value. -/
structure SpanSelector where
  span : Option (List Char)
  field : Option (List Char)
  deriving DecidableEq, Repr

structure Directive where
  target : Option (List Char)
  selector : Option SpanSelector
  verbosity : Verbosity
  deriving DecidableEq, Repr

namespace Directive

private def isOpening (c : Char) : Bool :=
  Text.isAlphanumeric c || c == '-' || c == ':' || c == '_'

private def verbosityAfter (text : List Char) : Option Verbosity :=
  if text.isEmpty then some (.upTo .trace) else Verbosity.ofText? text

/-- What follows the closing bracket: nothing but blanks, or a verbosity. After leading blanks of
the whole directive there is no verbosity that could be read. -/
private def afterBrackets (blankBefore : Bool) (target : Option (List Char))
    (selector : SpanSelector) : List Char → Option Directive
  | '=' :: rest =>
    if blankBefore then none
    else (verbosityAfter rest).map fun verbosity => ⟨target, some selector, verbosity⟩
  | rest => if rest.all Text.isBlank then some ⟨target, some selector, .upTo .trace⟩ else none

private def dropSign : List Char → List Char
  | '+' :: rest | '-' :: rest => rest
  | text => text

private def isExponent : List Char → Bool
  | [] => true
  | 'e' :: rest | 'E' :: rest => !(dropSign rest).isEmpty && (dropSign rest).all Char.isDigit
  | _ => false

/-- Whether the text is a number: digits around a point perhaps, with an exponent perhaps, or a
word for what is no finite number; all that perhaps after a sign. -/
private def isNumber (text : List Char) : Bool :=
  let text := dropSign text
  let whole := text.takeWhile Char.isDigit
  let rest := text.dropWhile Char.isDigit
  let point := rest.take 1 == ['.']
  let rest := if point then rest.drop 1 else rest
  let fraction := if point then rest.takeWhile Char.isDigit else []
  ["inf", "infinity", "nan"].contains (String.ofList (text.map Char.toLower))
    || !(whole ++ fraction).isEmpty && isExponent (rest.drop fraction.length)

/-- Whether a field can be asked for: it is not empty, and a value after its name, which ends at
the next equals sign, is a number or a pattern. -/
private def isField (field : List Char) : Bool :=
  !field.isEmpty && match field.dropWhile (· != '=') with
    | [] => true
    | _ :: rest =>
      let value := rest.takeWhile (· != '=')
      isNumber value || Pattern.isSpelledBy value

/-- What follows the opening bracket of a directive: a span up to a bracket, or up to a brace that
holds one field. The place of the field is counted without leading blanks, but taken in the
directive as it stands. -/
private def inBrackets (directive : List Char) (target : Option (List Char)) (text : List Char) :
    Option Directive :=
  let blanks := (directive.takeWhile Text.isBlank).length
  let isEnd := fun c => c == ']' || c == '\x7b'
  let span := text.takeWhile (!isEnd ·)
  match text.dropWhile (!isEnd ·) with
  | ']' :: rest => afterBrackets (0 < blanks) target ⟨some span, none⟩ rest
  | '\x7b' :: text =>
    let length := (text.takeWhile (· != '\x7d')).length
    let field := (directive.drop (directive.length - blanks - text.length)).take length
    match text.drop length with
    | '\x7d' :: ']' :: rest =>
      if isField field then
        let span := if span.isEmpty then none else some span
        afterBrackets (0 < blanks) target ⟨span, some field⟩ rest
      else none
    | _ => none
  | _ => none

private def isSign (c : Char) : Bool :=
  c == '=' || c == '['

/-- Reads one directive. A level or a target that stands alone is taken with the blanks around it;
with leading blanks a target is none that a record could have. -/
def ofText? (text : List Char) : Option Directive :=
  let blankBefore := text.head?.any Text.isBlank
  let target := text.takeWhile (!isSign ·)
  match text.dropWhile Text.isBlank, text.dropWhile (!isSign ·) with
  | [], _ => none
  | '[' :: _, _ :: rest => inBrackets text (if blankBefore then some target else none) rest
  | first :: _, rest =>
    if !isOpening first then none
    else match rest with
      | '=' :: rest =>
        if blankBefore then none
        else (verbosityAfter rest).map fun verbosity => ⟨some target, none, verbosity⟩
      | _ :: rest => inBrackets text (some target) rest
      | [] =>
        match Verbosity.ofText? text with
        | some verbosity => some ⟨none, none, verbosity⟩
        | none => some ⟨some text, none, .upTo .trace⟩

def needsSpan (directive : Directive) : Bool :=
  match directive.selector with
  | none => false
  | some selector => selector.span.isSome || selector.field.any (·.contains '=')

/-- The field that a record must have. -/
def field? (directive : Directive) : Option String :=
  (directive.selector.bind (·.field)).map String.ofList

def appliesTo (directive : Directive) (record : LogRecord) : Bool :=
  !directive.needsSpan
    && directive.target.all (·.isPrefixOf record.component.target.toList)
    && directive.field?.all fun field => record.fields.any (·.1 == field)

/-- Whether the first directive is at least as specific as the second: the longer target counts,
then that there is a field, and last the order of the fields. -/
def atLeastAsSpecific (a b : Directive) : Bool :=
  let size := fun (d : Directive) => match d.target with
    | some target => target.length + 1
    | none => 0
  if size a ≠ size b then size b < size a
  else match a.field?, b.field? with
    | some x, some y => decide (y ≤ x)
    | none, some _ => false
    | _, none => true

end Directive

/-- The directives of a filter. -/
structure LogFilter where
  directives : List Directive
  deriving DecidableEq, Repr

namespace LogFilter

private def splitAtComma : List Char → List (List Char)
  | [] => [[]]
  | c :: rest =>
    if c = ',' then [] :: splitAtComma rest
    else match splitAtComma rest with
      | [] => [[c]]
      | part :: parts => (c :: part) :: parts

private def errorsOnly : LogFilter :=
  ⟨[⟨none, none, .upTo .error⟩]⟩

/-- Reads a filter. Without any directive it shows errors; with one that cannot be read there is
no filter. -/
def ofText? (text : String) : Option LogFilter :=
  match (splitAtComma text.toList).filter (!·.isEmpty) with
  | [] => some errorsOnly
  | parts => (parts.mapM Directive.ofText?).map LogFilter.mk

/-- The filter of a target and what is below it. -/
def ofTarget (target : String) (level : Level) : LogFilter :=
  ⟨[⟨some target.toList, none, .upTo level⟩]⟩

/-- The directive that decides about a record: the most specific one that applies, of several the
last. -/
def decisive? (filter : LogFilter) (record : LogRecord) : Option Directive :=
  (filter.directives.filter (·.appliesTo record)).foldl (fun best directive =>
    match best with
    | some held => if directive.atLeastAsSpecific held then some directive else some held
    | none => some directive) none

def shows (filter : LogFilter) (record : LogRecord) : Bool :=
  match filter.decisive? record with
  | some directive => directive.verbosity.allows record.level
  | none => false

end LogFilter

end TableSchema
