import Mathlib.Data.List.Chain
import TableSchema.Json.Token
import TableSchema.Text.Decimal

/-!
How a document may spell its tokens.

A token has one spelling, but for texts, in which each character may stand for itself, be escaped
by a letter or be written as code units. Between tokens there may be any blanks. Two numbers next
to each other would run together; in no document do they meet. A number that is a double has no
spelling here.
-/

set_option autoImplicit false

namespace TableSchema

/-- Four hexadecimal digits in either case, and the code unit that they spell. -/
inductive CodeUnit (unit : Nat) : List Char → Prop
  | digits {a b c d : Char} {w x y z : Nat} (first : Text.hexDigit? a = some w)
      (second : Text.hexDigit? b = some x) (third : Text.hexDigit? c = some y)
      (fourth : Text.hexDigit? d = some z) (value : ((w * 16 + x) * 16 + y) * 16 + z = unit) :
      CodeUnit unit [a, b, c, d]

def escapes : List (Char × Char) :=
  [('"', '"'), ('\\', '\\'), ('/', '/'), ('b', '\x08'), ('f', '\x0c'), ('n', '\n'), ('r', '\r'),
    ('t', '\t')]

/-- The ways to write a character of a text. -/
inductive CharSpelling : Char → List Char → Prop
  | plain {c : Char} (visible : 0x20 ≤ c.toNat) (quote : c ≠ '"') (backslash : c ≠ '\\') :
      CharSpelling c [c]
  | escape {letter c : Char} (known : (letter, c) ∈ escapes) : CharSpelling c ['\\', letter]
  | unit {c : Char} {digits : List Char} (unit : CodeUnit c.toNat digits) :
      CharSpelling c ('\\' :: 'u' :: digits)
  | pair {c : Char} {high low : Nat} {first second : List Char}
      (leading : CodeUnit high first) (least : 0xD800 ≤ high) (most : high ≤ 0xDBFF)
      (trailing : CodeUnit low second) (least' : 0xDC00 ≤ low) (most' : low ≤ 0xDFFF)
      (value : c.toNat = (high - 0xD800) * 0x400 + (low - 0xDC00) + 0x10000) :
      CharSpelling c ('\\' :: 'u' :: first ++ '\\' :: 'u' :: second)

inductive TextSpelling : List Char → List Char → Prop
  | nil : TextSpelling [] []
  | cons {c : Char} {content spelling rest : List Char} (first : CharSpelling c spelling)
      (others : TextSpelling content rest) : TextSpelling (c :: content) (spelling ++ rest)

inductive Token.Spelling : Token → List Char → Prop
  | openBracket : Spelling .openBracket ['[']
  | closeBracket : Spelling .closeBracket [']']
  | openBrace : Spelling .openBrace ['\x7b']
  | closeBrace : Spelling .closeBrace ['\x7d']
  | comma : Spelling .comma [',']
  | colon : Spelling .colon [':']
  | null : Spelling .null ['n', 'u', 'l', 'l']
  | boolTrue : Spelling (.bool true) ['t', 'r', 'u', 'e']
  | boolFalse : Spelling (.bool false) ['f', 'a', 'l', 's', 'e']
  | integer (value : Int) (low : -0x8000000000000000 ≤ value)
      (high : value < 0x10000000000000000) :
      Spelling (.number (some (.integer value low high))) (toString value).toList
  | text {content : String} {spelling : List Char}
      (spelled : TextSpelling content.toList spelling) :
      Spelling (.text (some content)) ('"' :: spelling ++ ['"'])

/-- A text that spells tokens, with any blanks before, between and after them. -/
inductive Spells : List Token → List Char → Prop
  | nil {blanks : List Char} (blank : ∀ c ∈ blanks, Scanner.isBlank c = true) : Spells [] blanks
  | cons {blanks spelling text : List Char} {token : Token} {tokens : List Token}
      (blank : ∀ c ∈ blanks, Scanner.isBlank c = true) (first : token.Spelling spelling)
      (others : Spells tokens text) : Spells (token :: tokens) (blanks ++ spelling ++ text)

namespace Scanner

/-- The tokens made of the characters to come, when the scanner stands at the given place. -/
def tokensFrom : Scanner → List Char → List Token
  | scanner, [] => scanner.finish
  | scanner, c :: rest => (scanner.step c).2 ++ tokensFrom (scanner.step c).1 rest

theorem tokensFrom_cons {scanner next : Scanner} {c : Char} {tokens : List Token}
    (stepped : scanner.step c = (next, tokens)) (rest : List Char) :
    scanner.tokensFrom (c :: rest) = tokens ++ next.tokensFrom rest := by
  rw [tokensFrom, stepped]

theorem tokensFrom_blanks {blanks : List Char} (blank : ∀ c ∈ blanks, isBlank c = true)
    (rest : List Char) : between.tokensFrom (blanks ++ rest) = between.tokensFrom rest := by
  induction blanks with
  | nil => rfl
  | cons c others ih =>
    have here : between.step c = (between, []) := if_pos (blank c List.mem_cons_self)
    rw [List.cons_append, tokensFrom_cons here]
    exact ih fun other member => blank other (List.mem_cons_of_mem c member)

end Scanner

theorem Token.scan_eq_tokensFrom (chars : List Char) :
    Token.scan chars = Scanner.between.tokensFrom chars := by
  -- The scanner keeps its tokens latest first; the induction is over all that it may have so far.
  have along : ∀ (scanner : Scanner) (before : List Token),
      ((chars.foldl Token.advance (scanner, before)).1.finish.reverse ++
        (chars.foldl Token.advance (scanner, before)).2).reverse =
      before.reverse ++ scanner.tokensFrom chars := by
    induction chars with
    | nil =>
      intro scanner before
      simp [Scanner.tokensFrom]
    | cons c rest ih =>
      intro scanner before
      rw [List.foldl_cons, Token.advance, ih]
      simp [Scanner.tokensFrom]
  exact along .between []

section Texts

namespace Scanner

private theorem hexDigit_narrow {c : Char} {value : Nat} (digit : Text.hexDigit? c = some value) :
    c.utf8Size = 1 := by
  have ascii : c.toNat ≤ 0x7f := by
    unfold Text.hexDigit? at digit
    simp only [Char.le_def, UInt32.le_iff_toNat_le] at digit
    have nine : ('9' : Char).val.toNat = 57 := rfl
    have letter : ('f' : Char).val.toNat = 102 := rfl
    have capital : ('F' : Char).val.toNat = 70 := rfl
    have code : c.toNat = c.val.toNat := rfl
    split at digit
    · omega
    · split at digit
      · omega
      · split at digit
        · omega
        · cases digit
  exact Char.utf8Size_eq_one_iff.2 ascii

private theorem tokensFrom_codeUnit {unit : Nat} {digits : List Char}
    (spelled : CodeUnit unit digits) (surrogate : Option Nat) (content : Option (List Char))
    (rest : List Char) :
    (Scanner.text (.escape surrogate) content).tokensFrom ('u' :: digits ++ rest) =
      (codeUnitEnd surrogate unit content).2 ++
        (codeUnitEnd surrogate unit content).1.tokensFrom rest := by
  obtain ⟨first, second, third, fourth, rfl⟩ := spelled
  simp [tokensFrom, step, textStep, hexDigit_narrow first, hexDigit_narrow second,
    hexDigit_narrow third, hexDigit_narrow fourth, first, second, third, fourth]

private theorem escaped?_of_mem {letter c : Char} (known : (letter, c) ∈ escapes) :
    letter ≠ 'u' ∧ escaped? letter = some c := by
  have all : ∀ escape ∈ escapes, escape.1 ≠ 'u' ∧ escaped? escape.1 = some escape.2 := by decide
  exact all (letter, c) known

private theorem codeUnitEnd_char (c : Char) (content : List Char) :
    codeUnitEnd none c.toNat (some content) = (.text (.plain none) (some (c :: content)), []) := by
  have scalar : c.toNat < 0xD800 ∨ 0xDFFF < c.toNat := by
    rcases c.valid with below | ⟨above, _⟩
    · exact .inl below
    · exact .inr above
  have trailing : ¬ (0xDC00 ≤ c.toNat ∧ c.toNat ≤ 0xDFFF) := by omega
  have leading : ¬ (0xD800 ≤ c.toNat ∧ c.toNat ≤ 0xDBFF) := by omega
  simp only [codeUnitEnd, if_neg trailing, if_neg leading, Char.ofNat_toNat]
  rfl

private theorem codeUnitEnd_leading {high : Nat} (least : 0xD800 ≤ high) (most : high ≤ 0xDBFF)
    (content : List Char) :
    codeUnitEnd none high (some content) = (.text (.plain (some high)) (some content), []) := by
  have trailing : ¬ (0xDC00 ≤ high ∧ high ≤ 0xDFFF) := by omega
  simp only [codeUnitEnd, if_neg trailing, if_pos (And.intro least most)]
  rfl

private theorem codeUnitEnd_pair {c : Char} {high low : Nat} (least : 0xDC00 ≤ low)
    (most : low ≤ 0xDFFF)
    (value : c.toNat = (high - 0xD800) * 0x400 + (low - 0xDC00) + 0x10000) (content : List Char) :
    codeUnitEnd (some high) low (some content) =
      (.text (.plain none) (some (c :: content)), []) := by
  simp only [codeUnitEnd, if_pos (And.intro least most), ← value, Char.ofNat_toNat]
  rfl

theorem tokensFrom_char {c : Char} {spelling : List Char} (spelled : CharSpelling c spelling)
    (content rest : List Char) :
    (Scanner.text (.plain none) (some content)).tokensFrom (spelling ++ rest) =
      (Scanner.text (.plain none) (some (c :: content))).tokensFrom rest := by
  cases spelled with
  | plain visible quote backslash =>
    have shown : ¬ c.toNat < 0x20 := by omega
    have stepped : (Scanner.text (.plain none) (some content)).step c =
        (.text (.plain none) (some (c :: content)), []) := by
      simp only [step, textStep, if_neg backslash, if_neg quote, if_neg shown]
      rfl
    exact tokensFrom_cons stepped rest
  | @escape letter _ known =>
    obtain ⟨other, read⟩ := escaped?_of_mem known
    have stepped : (Scanner.text (.escape none) (some content)).step letter =
        (.text (.plain none) (some (c :: content)), []) := by
      simp only [step, textStep, if_neg other, read]
      rfl
    exact tokensFrom_cons stepped rest
  | @unit _ digits unit =>
    have read := tokensFrom_codeUnit unit none (some content) rest
    rw [codeUnitEnd_char] at read
    exact read
  | @pair _ high low first second leading least most trailing least' most' value =>
    -- The leading surrogate waits in the scanner until its partner is complete.
    have read := tokensFrom_codeUnit leading none (some content) ('\\' :: 'u' :: second ++ rest)
    have partner := tokensFrom_codeUnit trailing (some high) (some content) rest
    rw [codeUnitEnd_leading least most] at read
    rw [codeUnitEnd_pair least' most' value] at partner
    have whole : '\\' :: 'u' :: first ++ '\\' :: 'u' :: second ++ rest =
        '\\' :: ('u' :: first ++ ('\\' :: 'u' :: second ++ rest)) := by simp
    rw [whole]
    exact read.trans partner

theorem tokensFrom_text {content spelling : List Char} (spelled : TextSpelling content spelling)
    (before rest : List Char) :
    (Scanner.text (.plain none) (some before)).tokensFrom (spelling ++ '"' :: rest) =
      .text (some (String.ofList (before.reverse ++ content))) :: between.tokensFrom rest := by
  induction spelled generalizing before with
  | nil =>
    rw [List.append_nil]
    exact tokensFrom_cons rfl rest
  | @cons c content spelling others first _ ih =>
    rw [List.append_assoc, tokensFrom_char first, ih, List.reverse_cons, List.append_assoc]
    rfl

end Scanner

end Texts

section Numerals

namespace Scanner

/-- A digit, a point or an exponent mark goes on a numeral; every other character ends it. -/
def GoesOn (c : Char) : Prop :=
  (digit? c).isSome = true ∨ c = '.' ∨ c = 'e' ∨ c = 'E'

private theorem digit?_of_isDigit {c : Char} (decimal : c.isDigit = true) :
    digit? c = some (c.toNat - 48) := by
  simp only [Char.isDigit, Bool.and_eq_true, decide_eq_true_eq] at decimal
  exact if_pos decimal

-- The character that ends a numeral is looked at again: it may begin the next token.
private theorem tokensFrom_ended {place : NumeralPlace} {chars : List Char}
    (whole : place = .zero ∨ place = .whole) (ended : ∀ c ∈ chars.head?, ¬ GoesOn c)
    (digits : NumeralDigits) :
    (Scanner.numeral place digits).tokensFrom chars =
      numberToken digits :: between.tokensFrom chars := by
  cases chars with
  | nil => rcases whole with rfl | rfl <;> rfl
  | cons c rest =>
    have stops := ended c rfl
    simp only [GoesOn, not_or, Bool.not_eq_true, Option.isSome_eq_false_iff,
      Option.isNone_iff_eq_none] at stops
    obtain ⟨digit, point, lower, upper⟩ := stops
    have stepped : (Scanner.numeral place digits).step c =
        ((start c).1, numberToken digits :: (start c).2) := by
      rcases whole with rfl | rfl <;> simp [step, numeralStep, digit, point, lower, upper] <;> rfl
    rw [tokensFrom_cons stepped, tokensFrom]
    rfl

private theorem tokensFrom_digits {chars : List Char} (decimal : ∀ c ∈ chars, c.isDigit = true)
    {rest : List Char} (ended : ∀ c ∈ rest.head?, ¬ GoesOn c) (digits : NumeralDigits) :
    (Scanner.numeral .whole digits).tokensFrom (chars ++ rest) =
      numberToken { digits with
        whole := (chars.map fun c => c.toNat - 48).reverse ++ digits.whole } ::
        between.tokensFrom rest := by
  induction chars generalizing digits with
  | nil => exact tokensFrom_ended (.inr rfl) ended digits
  | cons c others ih =>
    have digit := digit?_of_isDigit (decimal c List.mem_cons_self)
    have mark : c ≠ '.' ∧ ¬ (c = 'e' ∨ c = 'E') := by
      refine ⟨?_, ?_⟩
      · rintro rfl
        exact absurd digit (by decide)
      · rintro (rfl | rfl) <;> exact absurd digit (by decide)
    have stepped : (Scanner.numeral .whole digits).step c =
        (.numeral .whole { digits with whole := (c.toNat - 48) :: digits.whole }, []) := by
      simp only [step, numeralStep, if_neg mark.1, if_neg mark.2, digit]
    rw [List.cons_append, tokensFrom_cons stepped, List.nil_append,
      ih fun other member => decimal other (List.mem_cons_of_mem c member)]
    simp

private theorem start_digit {c : Char} (decimal : c.isDigit = true) (nonzero : c ≠ '0') :
    start c = (.numeral .whole ⟨false, [c.toNat - 48], [], false, []⟩, []) ∧
      numeralStep ⟨true, [], [], false, []⟩ c .sign =
        (.numeral .whole ⟨true, [c.toNat - 48], [], false, []⟩, []) := by
  have all : ∀ d : Fin 10, d ≠ 0 →
      start (Nat.digitChar d) = (.numeral .whole ⟨false, [d.val], [], false, []⟩, []) ∧
        numeralStep ⟨true, [], [], false, []⟩ (Nat.digitChar d) .sign =
          (.numeral .whole ⟨true, [d.val], [], false, []⟩, []) := by decide
  obtain ⟨small, spelled⟩ := Text.digitChar_value decimal
  have positive := Text.digit_pos decimal nonzero
  have read := all ⟨c.toNat - 48, small⟩ fun zero => by
    have := congrArg Fin.val zero
    simp only [Fin.val_zero] at this
    omega
  rw [spelled] at read
  exact read

private theorem numberToken_whole {negative : Bool} {value : Int}
    (low : -0x8000000000000000 ≤ value) (high : value < 0x10000000000000000)
    (sign : negative = true ↔ value < 0) :
    numberToken ⟨negative, ((Nat.toDigits 10 value.natAbs).map fun c => c.toNat - 48).reverse, [],
      false, []⟩ = .number (some (.integer value low high)) := by
  have magnitude := Text.foldl_toDigits value.natAbs
  rw [← List.foldl_map (f := fun c : Char => c.toNat - 48)
    (g := fun word digit => word * 10 + digit)] at magnitude
  have read := Numeral.value?_whole low high sign magnitude
  simp only [numberToken, List.reverse_reverse]
  exact congrArg Token.number read

private theorem tokensFrom_magnitude {value : Int} (low : -0x8000000000000000 ≤ value)
    (high : value < 0x10000000000000000) {negative : Bool} (sign : negative = true ↔ value < 0)
    {digit : Char} {others rest : List Char}
    (spelled : Nat.toDigits 10 value.natAbs = digit :: others)
    (decimal : ∀ c ∈ digit :: others, c.isDigit = true) (ended : ∀ c ∈ rest.head?, ¬ GoesOn c) :
    (Scanner.numeral .whole ⟨negative, [digit.toNat - 48], [], false, []⟩).tokensFrom
        (others ++ rest) =
      .number (some (.integer value low high)) :: between.tokensFrom rest := by
  have read := numberToken_whole low high sign
  rw [spelled, List.map_cons, List.reverse_cons] at read
  rw [tokensFrom_digits (fun c member => decimal c (List.mem_cons_of_mem digit member)) ended, read]

theorem tokensFrom_integer {value : Int} (low : -0x8000000000000000 ≤ value)
    (high : value < 0x10000000000000000) {rest : List Char}
    (ended : ∀ c ∈ rest.head?, ¬ GoesOn c) :
    between.tokensFrom ((toString value).toList ++ rest) =
      .number (some (.integer value low high)) :: between.tokensFrom rest := by
  cases value with
  | ofNat n =>
    have spelling : (toString (Int.ofNat n)).toList = Nat.toDigits 10 n := Nat.toList_repr
    rw [spelling]
    rcases Nat.eq_zero_or_pos n with rfl | positive
    · exact tokensFrom_ended (.inl rfl) ended ⟨false, [0], [], false, []⟩
    · obtain ⟨digit, others, spelled, nonzero, decimal⟩ := Text.toDigits_eq_cons positive
      have begun : between.step digit =
          (.numeral .whole ⟨false, [digit.toNat - 48], [], false, []⟩, []) :=
        (start_digit (decimal digit List.mem_cons_self) nonzero).1
      rw [spelled, List.cons_append, tokensFrom_cons begun, List.nil_append]
      exact tokensFrom_magnitude low high (by simp) spelled decimal ended
  | negSucc n =>
    have spelling : (toString (Int.negSucc n)).toList = '-' :: Nat.toDigits 10 (n + 1) := by
      change ("-" ++ (n + 1).repr).toList = _
      rw [String.toList_append, Nat.toList_repr]
      rfl
    obtain ⟨digit, others, spelled, nonzero, decimal⟩ :=
      Text.toDigits_eq_cons (n := n + 1) n.succ_pos
    have signed : between.step '-' = (.numeral .sign ⟨true, [], [], false, []⟩, []) := rfl
    have begun : (Scanner.numeral .sign ⟨true, [], [], false, []⟩).step digit =
        (.numeral .whole ⟨true, [digit.toNat - 48], [], false, []⟩, []) :=
      (start_digit (decimal digit List.mem_cons_self) nonzero).2
    rw [spelling, spelled]
    rw [List.cons_append, tokensFrom_cons signed, List.cons_append, List.nil_append,
      tokensFrom_cons begun, List.nil_append]
    exact tokensFrom_magnitude low high (by simp) spelled decimal ended

end Scanner

end Numerals

namespace Token

def isNumber : Token → Bool
  | .number _ => true
  | _ => false

/-- No two numbers stand next to each other. -/
def Apart (tokens : List Token) : Prop :=
  List.IsChain (fun a b => a.isNumber = true → b.isNumber = false) tokens

-- Only a number begins in a way that could go on a numeral before it.
private theorem Spelling.head_stops {token : Token} {spelling : List Char}
    (spelled : token.Spelling spelling) (other : token.isNumber = false) :
    ∃ c rest, spelling = c :: rest ∧ ¬ Scanner.GoesOn c := by
  cases spelled with
  | integer => cases other
  | text => exact ⟨_, _, rfl, by simp [Scanner.GoesOn, Scanner.digit?]⟩
  | _ => exact ⟨_, _, rfl, by simp [Scanner.GoesOn, Scanner.digit?]⟩

private theorem stops_of_spells {tokens : List Token} {text : List Char}
    (spells : Spells tokens text) (other : ∀ token ∈ tokens.head?, token.isNumber = false) :
    ∀ c ∈ text.head?, ¬ Scanner.GoesOn c := by
  have blank_stops : ∀ c, Scanner.isBlank c = true → ¬ Scanner.GoesOn c := by
    intro c blank
    simp only [Scanner.isBlank, Bool.or_eq_true, beq_iff_eq] at blank
    rcases blank with ((rfl | rfl) | rfl) | rfl <;> simp [Scanner.GoesOn, Scanner.digit?]
  intro c first
  cases spells with
  | nil blank => exact blank_stops c (blank c (List.mem_of_mem_head? first))
  | @cons blanks spelling text token tokens blank spelled others =>
    cases blanks with
    | cons b blanks =>
      cases first
      exact blank_stops c (blank c List.mem_cons_self)
    | nil =>
      obtain ⟨d, rest, rfl, stops⟩ := spelled.head_stops (other token rfl)
      cases first
      exact stops

theorem tokensFrom_spelling {token : Token} {spelling : List Char}
    (spelled : token.Spelling spelling) {rest : List Char}
    (ended : token.isNumber = true → ∀ c ∈ rest.head?, ¬ Scanner.GoesOn c) :
    Scanner.between.tokensFrom (spelling ++ rest) = token :: Scanner.between.tokensFrom rest := by
  cases spelled with
  | integer value low high => exact Scanner.tokensFrom_integer low high (ended rfl)
  | @text content spelling spelled =>
    have begun : Scanner.between.step '"' = (.text (.plain none) (some []), []) := rfl
    rw [List.cons_append, List.cons_append, Scanner.tokensFrom_cons begun, List.append_assoc,
      List.nil_append]
    have read := Scanner.tokensFrom_text spelled [] rest
    rw [List.reverse_nil, List.nil_append, String.ofList_toList] at read
    exact read
  | _ => rfl

/-- A text is cut into the tokens that it spells. -/
theorem scan_of_spells {tokens : List Token} {text : List Char} (spells : Spells tokens text)
    (apart : Apart tokens) : Token.scan text = tokens := by
  rw [Token.scan_eq_tokensFrom]
  induction spells with
  | nil blank =>
    have read := Scanner.tokensFrom_blanks blank []
    rw [List.append_nil] at read
    exact read
  | @cons blanks spelling text token tokens blank spelled others ih =>
    have later : Apart tokens := List.IsChain.tail apart
    rw [List.append_assoc, Scanner.tokensFrom_blanks blank, tokensFrom_spelling spelled, ih later]
    intro number
    refine stops_of_spells others fun next first => ?_
    cases tokens with
    | nil => cases first
    | cons head tail =>
      cases first
      exact (List.isChain_cons_cons.1 apart).1 number

end Token

end TableSchema
