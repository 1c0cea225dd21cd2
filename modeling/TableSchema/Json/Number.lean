import TableSchema.Double

set_option autoImplicit false

namespace TableSchema

/-- An integer that fits a signed or an unsigned word of 64 bits, or a finite double. -/
inductive Number where
  | integer (value : Int) (low : -0x8000000000000000 ≤ value)
    (high : value < 0x10000000000000000)
  | double (value : Double)
  deriving DecidableEq, Repr

namespace Number

/-- A count; one that is too large for a word is shown as the largest word. -/
def ofNat (n : Nat) : Number :=
  .integer (min n 0xffffffffffffffff : Nat) (by omega) (by omega)

def text : Number → List Char
  | .integer value _ _ => (toString value).toList
  | .double value => value.text

end Number

/-- The digits of a numeral, most significant first, as its text spells them. -/
structure Numeral where
  negative : Bool
  whole : List Nat
  fraction : Option (List Nat)
  exponent : Option (Bool × List Nat)
  deriving Repr, DecidableEq

namespace Numeral

/-- Reads whole digits into a word; from the first digit that does not fit on, digits only shift
the point. Returns the word and how many digits were left out. -/
def readWhole : Nat → List Nat → Nat × Nat
  | significand, [] => (significand, 0)
  | significand, digit :: rest =>
    if significand * 10 + digit < UInt64.size then readWhole (significand * 10 + digit) rest
    else (significand, rest.length + 1)

/-- Reads digits after the point as long as they fit the word; later ones are dropped. Returns the
word and how many digits it took. -/
def readFraction : Nat → List Nat → Nat × Nat
  | significand, [] => (significand, 0)
  | significand, digit :: rest =>
    if significand * 10 + digit < UInt64.size then
      let (word, taken) := readFraction (significand * 10 + digit) rest
      (word, taken + 1)
    else (significand, 0)

def readExponent : Nat → List Nat → Option Nat
  | power, [] => some power
  | power, digit :: rest =>
    if power * 10 + digit < 0x80000000 then readExponent (power * 10 + digit) rest else none

private def powerOfTen (n : Nat) : Float :=
  Float.ofScientific 1 false n

private def divideDown : Nat → Float → Float
  | 0, value => value
  | steps + 1, value =>
    if value == 0 then value else divideDown steps (value / powerOfTen 308)

/-- `significand * 10 ^ power` with one rounding for the word and one for each multiplication or
division by a power of ten up to `10 ^ 308`; `none` beyond the largest double. -/
def scaled? (negative : Bool) (significand : Nat) (power : Int) : Option Double :=
  let word := significand.toUInt64.toFloat
  let magnitude :=
    if 308 < power then (if significand = 0 then word else word / 0)
    else if 0 ≤ power then word * powerOfTen power.toNat
    else
      let steps := ((-power).toNat - 1) / 308
      divideDown steps word / powerOfTen ((-power).toNat - 308 * steps)
  Double.ofFloat? (if negative then -magnitude else magnitude)

private def zero (negative : Bool) : Option Double :=
  Double.ofFloat? (if negative then -0.0 else 0.0)

private def clampPower (power : Int) : Int :=
  max (-0x80000000) (min 0x7fffffff power)

private def integer? (negative : Bool) (magnitude : Nat) : Option Number :=
  let value : Int := if negative then -magnitude else magnitude
  if negative && magnitude == 0 then none
  else if h : -0x8000000000000000 ≤ value ∧ value < 0x10000000000000000 then
    some (.integer value h.1 h.2) else none

/-- A numeral of whole digits only is an integer where one fits; minus zero and all else is a
double. `none`: the numeral is beyond the largest double. -/
def value? (n : Numeral) : Option Number :=
  let (whole, dropped) := readWhole 0 n.whole
  let (significand, taken) := readFraction whole (n.fraction.getD [])
  let power : Int := (dropped : Int) - taken
  match n.exponent with
  | some (negativePower, digits) =>
    match readExponent 0 digits with
    | some size =>
      (scaled? n.negative significand
        (clampPower (if negativePower then power - size else power + size))).map .double
    | none =>
      if significand ≠ 0 && !negativePower then none else (zero n.negative).map .double
  | none =>
    match n.fraction, dropped, integer? n.negative whole with
    | none, 0, some value => some value
    | _, _, _ => (scaled? n.negative significand power).map .double

private theorem le_foldl_whole (digits : List Nat) (word : Nat) :
    word ≤ digits.foldl (fun word digit => word * 10 + digit) word := by
  induction digits generalizing word with
  | nil => exact Nat.le_refl word
  | cons digit rest ih =>
    have grown : word ≤ word * 10 + digit := by omega
    exact Nat.le_trans grown (ih _)

theorem readWhole_of_fits {digits : List Nat} {word : Nat}
    (fits : digits.foldl (fun word digit => word * 10 + digit) word < UInt64.size) :
    readWhole word digits = (digits.foldl (fun word digit => word * 10 + digit) word, 0) := by
  induction digits generalizing word with
  | nil => rfl
  | cons digit rest ih =>
    rw [List.foldl_cons] at fits ⊢
    have small : word * 10 + digit < UInt64.size :=
      Nat.lt_of_le_of_lt (le_foldl_whole rest _) fits
    rw [readWhole, if_pos small]
    exact ih fits

theorem value?_whole {negative : Bool} {digits : List Nat} {value : Int}
    (low : -0x8000000000000000 ≤ value) (high : value < 0x10000000000000000)
    (sign : negative = true ↔ value < 0)
    (magnitude : digits.foldl (fun word digit => word * 10 + digit) 0 = value.natAbs) :
    value? ⟨negative, digits, none, none⟩ = some (.integer value low high) := by
  have size : UInt64.size = 0x10000000000000000 := rfl
  have whole : readWhole 0 digits = (value.natAbs, 0) := by
    rw [← magnitude]
    exact readWhole_of_fits (by rw [magnitude]; omega)
  have signed : (if negative then -(value.natAbs : Int) else value.natAbs) = value := by
    split
    · rename_i below
      have := sign.1 below
      omega
    · rename_i above
      have : ¬ value < 0 := fun below => above (sign.2 below)
      omega
  have nonzero : (negative && value.natAbs == 0) = false := by
    cases negative with
    | false => rfl
    | true =>
      have := sign.1 rfl
      simp only [Bool.true_and, beq_eq_false_iff_ne]
      omega
  have integer : integer? negative value.natAbs = some (.integer value low high) := by
    simp only [integer?, signed, nonzero]
    rw [if_neg Bool.false_ne_true, dif_pos ⟨low, high⟩]
  simp only [value?, whole, integer]

end Numeral

end TableSchema
