import TableSchema.Json.Basic
import TableSchema.Text.Hexadecimal

/-!
Tokens of a document text.

`Token.scan` reads a text character by character. A text that stops making tokens ends in one
`Token.bad`, which keeps what a reader meets there: some faults depend on whether the value is
wanted or only passed over.
-/

set_option autoImplicit false

namespace TableSchema

/-- Why a text is no document: it ends too early, or it goes on in a way no document does. -/
inductive Fault where
  | malformed
  | truncated
  deriving DecidableEq, Repr

/-- A token. A number is `none` when it lies beyond the largest double, a text when it pairs
surrogates wrongly: both may be passed over, and neither has a value. -/
inductive Token where
  | openBracket
  | closeBracket
  | openBrace
  | closeBrace
  | comma
  | colon
  | null
  | bool (value : Bool)
  | number (value : Option Number)
  | text (content : Option String)
  | bad (wanted : Fault) (passed : Fault) (quoted : Bool)
  deriving DecidableEq, Repr

/-- The text makes no further token. -/
def Token.IsBad : Token → Prop
  | .bad .. => True
  | _ => False

/-- A value without items or members, or the fault in the place of one. -/
def Token.IsScalar : Token → Prop
  | .null | .bool _ | .number _ | .text _ | .bad .. => True
  | .openBracket | .closeBracket | .openBrace | .closeBrace | .comma | .colon => False

/-- What the next character of a numeral may be. -/
inductive NumeralPlace where
  | sign
  | zero
  | whole
  | point
  | fraction
  | exponentMark
  | exponentSign
  | exponent
  deriving DecidableEq, Repr

structure NumeralDigits where
  negative : Bool
  whole : List Nat
  fraction : List Nat
  negativePower : Bool
  power : List Nat
  deriving DecidableEq, Repr

/-- A place inside a text: its surrogate waits for a partner, an escape has begun, or the digits of
a code unit are being read, of which `bytes` bytes are there. -/
inductive TextPlace where
  | plain (surrogate : Option Nat)
  | escape (surrogate : Option Nat)
  | codeUnit (surrogate : Option Nat) (bytes : Nat) (value : Option Nat)
  deriving DecidableEq, Repr

/-- Where the scanner stands. The content of a text is kept latest character first, and given up
at a wrong surrogate. -/
inductive Scanner where
  | between
  | word (rest : List Char) (token : Token)
  | numeral (place : NumeralPlace) (digits : NumeralDigits)
  | text (place : TextPlace) (content : Option (List Char))
  | stopped
  deriving DecidableEq, Repr

namespace Scanner

def digit? (c : Char) : Option Nat :=
  if '0' ≤ c ∧ c ≤ '9' then some (c.toNat - 48) else none

/-- The blanks between tokens; no other character is one. -/
def isBlank (c : Char) : Bool :=
  c == ' ' || c == '\t' || c == '\n' || c == '\r'

private def malformed (quoted : Bool) : Scanner × List Token :=
  (.stopped, [.bad .malformed .malformed quoted])

private def blankDigits : NumeralDigits :=
  ⟨false, [], [], false, []⟩

def start (c : Char) : Scanner × List Token :=
  if isBlank c then (.between, [])
  else match c with
    | '[' => (.between, [.openBracket])
    | ']' => (.between, [.closeBracket])
    | '\x7b' => (.between, [.openBrace])
    | '\x7d' => (.between, [.closeBrace])
    | ',' => (.between, [.comma])
    | ':' => (.between, [.colon])
    | '"' => (.text (.plain none) (some []), [])
    | 'n' => (.word ['u', 'l', 'l'] .null, [])
    | 't' => (.word ['r', 'u', 'e'] (.bool true), [])
    | 'f' => (.word ['a', 'l', 's', 'e'] (.bool false), [])
    | '-' => (.numeral .sign { blankDigits with negative := true }, [])
    | '0' => (.numeral .zero { blankDigits with whole := [0] }, [])
    | c => match digit? c with
      | some d => (.numeral .whole { blankDigits with whole := [d] }, [])
      | none => malformed false

def numberToken (digits : NumeralDigits) : Token :=
  .number (Numeral.value? {
    negative := digits.negative
    whole := digits.whole.reverse
    fraction := if digits.fraction.isEmpty then none else some digits.fraction.reverse
    exponent :=
      if digits.power.isEmpty then none else some (digits.negativePower, digits.power.reverse) })

private def endNumeral (digits : NumeralDigits) (c : Char) : Scanner × List Token :=
  let (next, tokens) := start c
  (next, numberToken digits :: tokens)

def numeralStep (digits : NumeralDigits) (c : Char) : NumeralPlace → Scanner × List Token
  | .sign => match digit? c with
    | some 0 => (.numeral .zero { digits with whole := [0] }, [])
    | some d => (.numeral .whole { digits with whole := [d] }, [])
    | none => malformed false
  | .zero =>
    if c = '.' then (.numeral .point digits, [])
    else if c = 'e' ∨ c = 'E' then (.numeral .exponentMark digits, [])
    else if (digit? c).isSome then malformed false
    else endNumeral digits c
  | .whole =>
    if c = '.' then (.numeral .point digits, [])
    else if c = 'e' ∨ c = 'E' then (.numeral .exponentMark digits, [])
    else match digit? c with
      | some d => (.numeral .whole { digits with whole := d :: digits.whole }, [])
      | none => endNumeral digits c
  | .point => match digit? c with
    | some d => (.numeral .fraction { digits with fraction := [d] }, [])
    | none => malformed false
  | .fraction =>
    if c = 'e' ∨ c = 'E' then (.numeral .exponentMark digits, [])
    else match digit? c with
      | some d => (.numeral .fraction { digits with fraction := d :: digits.fraction }, [])
      | none => endNumeral digits c
  | .exponentMark =>
    if c = '+' then (.numeral .exponentSign digits, [])
    else if c = '-' then (.numeral .exponentSign { digits with negativePower := true }, [])
    else match digit? c with
      | some d => (.numeral .exponent { digits with power := [d] }, [])
      | none => malformed false
  | .exponentSign => match digit? c with
    | some d => (.numeral .exponent { digits with power := [d] }, [])
    | none => malformed false
  | .exponent => match digit? c with
    | some d => (.numeral .exponent { digits with power := d :: digits.power }, [])
    | none => endNumeral digits c

private def push (c : Char) (content : Option (List Char)) : Option (List Char) :=
  content.map (c :: ·)

/-- The character that an escape of one letter stands for. -/
def escaped? : Char → Option Char
  | '"' => some '"'
  | '\\' => some '\\'
  | '/' => some '/'
  | 'b' => some '\x08'
  | 'f' => some '\x0c'
  | 'n' => some '\n'
  | 'r' => some '\r'
  | 't' => some '\t'
  | _ => none

/-- A complete code unit, after the surrogate that waits for it, if one does. -/
def codeUnitEnd (surrogate : Option Nat) (unit : Nat) (content : Option (List Char)) :
    Scanner × List Token :=
  match surrogate with
  | some high =>
    if 0xDC00 ≤ unit ∧ unit ≤ 0xDFFF then
      let scalar := (high - 0xD800) * 0x400 + (unit - 0xDC00) + 0x10000
      (.text (.plain none) (push (Char.ofNat scalar) content), [])
    else (.text (.plain none) none, [])
  | none =>
    if 0xDC00 ≤ unit ∧ unit ≤ 0xDFFF then (.text (.plain none) none, [])
    else if 0xD800 ≤ unit ∧ unit ≤ 0xDBFF then
      (.text (.plain (if content.isSome then some unit else none)) content, [])
    else (.text (.plain none) (push (Char.ofNat unit) content), [])

/-- A character inside a text. A waiting surrogate that is not followed by its partner makes the
text one without content. -/
def textStep (content : Option (List Char)) (c : Char) : TextPlace → Scanner × List Token
  | .plain surrogate =>
    if c = '\\' then (.text (.escape surrogate) content, [])
    else
      let content := if surrogate.isSome then none else content
      if c = '"' then (.between, [.text (content.map fun cs => String.ofList cs.reverse)])
      else if c.toNat < 0x20 then malformed true
      else (.text (.plain none) (push c content), [])
  | .escape surrogate =>
    if c = 'u' then (.text (.codeUnit surrogate 0 (some 0)) content, [])
    else
      let content := if surrogate.isSome then none else content
      match escaped? c with
      | some e => (.text (.plain none) (push e content), [])
      | none => malformed true
  | .codeUnit surrogate bytes value =>
    let bytes := bytes + c.utf8Size
    let value := do return (← value) * 16 + (← Text.hexDigit? c)
    if bytes < 4 then (.text (.codeUnit surrogate bytes value) content, [])
    else match value with
      | some unit => codeUnitEnd surrogate unit content
      | none => malformed true

def step (scanner : Scanner) (c : Char) : Scanner × List Token :=
  match scanner with
  | .between => start c
  | .word [] token =>
    let (next, tokens) := start c
    (next, token :: tokens)
  | .word (expected :: rest) token =>
    if c = expected then
      match rest with
      | [] => (.between, [token])
      | rest => (.word rest token, [])
    else malformed false
  | .numeral place digits => numeralStep digits c place
  | .text place content => textStep content c place
  | .stopped => (.stopped, [])

def finish : Scanner → List Token
  | .between | .stopped => []
  | .word [] token => [token]
  | .word (_ :: _) _ => [.bad .truncated .truncated false]
  | .numeral place digits =>
    match place with
    | .zero | .whole | .fraction | .exponent => [numberToken digits]
    | .sign | .point | .exponentMark | .exponentSign => [.bad .truncated .malformed false]
  | .text _ content =>
    [.bad (if content.isSome then .truncated else .malformed) .truncated true]

/-- In the middle of a scalar. -/
def Amid : Scanner → Prop
  | .word (_ :: _) token => token.IsScalar
  | .numeral _ _ | .text _ _ => True
  | .between | .word [] _ | .stopped => False

/-- Where a character leads: a stop comes with a bad token. -/
def Proceeds (next : Scanner × List Token) : Prop :=
  next.1 = .between ∨ next.1.Amid ∨ next.1 = .stopped ∧ ∃ token ∈ next.2, token.IsBad

/-- Where a character leads from the middle of a scalar: further on in it, or to its end. -/
def Continues (next : Scanner × List Token) : Prop :=
  next.2 = [] ∧ next.1.Amid ∨
    Proceeds next ∧ ∃ token rest, next.2 = token :: rest ∧ token.IsScalar

theorem Continues.proceeds {next : Scanner × List Token} (continues : Continues next) :
    Proceeds next := by
  rcases continues with ⟨_, amid⟩ | ⟨proceeds, _⟩
  · exact .inr (.inl amid)
  · exact proceeds

theorem proceeds_start (c : Char) : Proceeds (start c) := by
  unfold start
  repeat' split
  all_goals simp [Proceeds, Amid, malformed, Token.IsBad, Token.IsScalar]

theorem Proceeds.after {next : Scanner × List Token} (proceeds : Proceeds next)
    (tokens : List Token) : Proceeds (next.1, tokens ++ next.2) := by
  refine proceeds.imp_right (Or.imp_right (And.imp_right ?_))
  rintro ⟨bad, found, isBad⟩
  exact ⟨bad, List.mem_append_right tokens found, isBad⟩

private theorem Proceeds.continues {next : Scanner × List Token} (proceeds : Proceeds next)
    {token : Token} (scalar : token.IsScalar) : Continues (next.1, token :: next.2) :=
  .inr ⟨proceeds.after [token], token, next.2, rfl, scalar⟩

private theorem continues_malformed (quoted : Bool) : Continues (malformed quoted) := by
  simp [Continues, Proceeds, malformed, Token.IsBad, Token.IsScalar]

private theorem continues_numeralStep (digits : NumeralDigits) (c : Char) (place : NumeralPlace) :
    Continues (numeralStep digits c place) := by
  have ended : Continues (endNumeral digits c) := (proceeds_start c).continues trivial
  have further (place : NumeralPlace) (digits : NumeralDigits) :
      Continues (.numeral place digits, []) := .inl ⟨rfl, trivial⟩
  unfold numeralStep
  repeat' split
  all_goals simp only [continues_malformed, ended, further]

private theorem continues_codeUnitEnd (surrogate : Option Nat) (unit : Nat)
    (content : Option (List Char)) : Continues (codeUnitEnd surrogate unit content) := by
  unfold codeUnitEnd
  repeat' split
  all_goals exact .inl ⟨rfl, trivial⟩

private theorem continues_textStep (content : Option (List Char)) (c : Char) (place : TextPlace) :
    Continues (textStep content c place) := by
  have further (place : TextPlace) (content : Option (List Char)) :
      Continues (.text place content, []) := .inl ⟨rfl, trivial⟩
  have ended (content : Option String) : Continues (.between, [.text content]) :=
    .inr ⟨.inl rfl, _, _, rfl, trivial⟩
  unfold textStep
  dsimp only
  repeat' split
  all_goals simp only [continues_malformed, continues_codeUnitEnd, further, ended]

theorem continues_step {scanner : Scanner} (amid : scanner.Amid) (c : Char) :
    Continues (scanner.step c) := by
  cases scanner with
  | word rest token =>
    cases rest with
    | nil => exact absurd amid id
    | cons expected rest =>
      unfold step
      dsimp only
      split
      · cases rest with
        | nil => exact .inr ⟨.inl rfl, token, [], rfl, amid⟩
        | cons letter rest => exact .inl ⟨rfl, amid⟩
      · exact continues_malformed false
  | numeral place digits => exact continues_numeralStep digits c place
  | text place content => exact continues_textStep content c place
  | between | stopped => exact absurd amid id

theorem finish_amid {scanner : Scanner} (amid : scanner.Amid) :
    ∃ token, scanner.finish = [token] ∧ token.IsScalar := by
  cases scanner with
  | word rest token =>
    cases rest with
    | nil => exact absurd amid id
    | cons c rest => exact ⟨_, rfl, trivial⟩
  | numeral place digits => cases place <;> exact ⟨_, rfl, trivial⟩
  | text place content => exact ⟨_, rfl, trivial⟩
  | between | stopped => exact absurd amid id

end Scanner

namespace Token

/-- The scanner after one more character, with all tokens so far, latest first. -/
def advance (state : Scanner × List Token) (c : Char) : Scanner × List Token :=
  let (next, tokens) := state.1.step c
  (next, tokens.reverse ++ state.2)

def scan (text : List Char) : List Token :=
  let (scanner, tokens) := text.foldl advance (.between, [])
  (scanner.finish.reverse ++ tokens).reverse

end Token

end TableSchema
