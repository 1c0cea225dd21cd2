/-!
Finite doubles, kept as their bits, and the decimal of fewest digits that reads back as one.

A double stands for every real that rounds to it. `Double.shortest` looks for the coarsest grid of
powers of ten with a point among those reals and takes the point nearest to the double.
-/

set_option autoImplicit false

namespace TableSchema

/-- Bits of a finite double: the exponent field is not all ones. -/
def Double.finiteBits (bits : UInt64) : Bool :=
  (bits >>> 52) &&& 0x7ff != 0x7ff

structure Double where
  bits : UInt64
  finite : Double.finiteBits bits = true
  deriving DecidableEq, Repr

/-- The decimal number `digits * 10 ^ exponent`. -/
structure Decimal where
  digits : Nat
  exponent : Int
  deriving DecidableEq, Repr

namespace Double

def ofFloat? (value : Float) : Option Double :=
  if h : finiteBits value.toBits = true then some ⟨value.toBits, h⟩ else none

def isNegative (x : Double) : Bool :=
  x.bits >>> 63 == 1

private def exponentField (x : Double) : Nat :=
  ((x.bits >>> 52) &&& 0x7ff).toNat

private def fractionField (x : Double) : Nat :=
  (x.bits &&& 0xfffffffffffff).toNat

/-- The magnitude is `mantissa * 2 ^ exponent`. -/
def mantissa (x : Double) : Nat :=
  if x.exponentField = 0 then x.fractionField else 0x10000000000000 + x.fractionField

def exponent (x : Double) : Int :=
  if x.exponentField = 0 then -1074 else (x.exponentField : Int) - 1075

/-- A magnitude and the ends of the interval that rounds to it, in units of `1 / scale`. -/
private structure Span where
  low : Nat
  value : Nat
  high : Nat
  scale : Nat
  closed : Bool

/-- The interval reaches half way to both neighbours; below a power of two it reaches half as far.
Its ends belong to it when the mantissa is even. -/
private def span (x : Double) : Span :=
  let m := x.mantissa
  let below := if x.fractionField = 0 && 1 < x.exponentField then 1 else 2
  let up := Nat.pow 2 (x.exponent - 2).toNat
  let scale := Nat.pow 2 (2 - x.exponent).toNat
  ⟨(4 * m - below) * up, 4 * m * up, (4 * m + 2) * up, scale, m % 2 == 0⟩

private def Span.contains (s : Span) (point : Nat) : Bool :=
  if s.closed then s.low ≤ point && point ≤ s.high else s.low < point && point < s.high

private def Span.onGrid (s : Span) (power : Int) : Span :=
  let up := Nat.pow 10 (-power).toNat
  ⟨s.low * up, s.value * up, s.high * up, s.scale * Nat.pow 10 power.toNat, s.closed⟩

/-- The point of the grid nearest to the value, of those that lie in the interval; a tie goes to
the even point. -/
private def Span.nearest? (s : Span) : Option Nat :=
  let lower := s.value / s.scale
  let upper := lower + 1
  match s.contains (lower * s.scale), s.contains (upper * s.scale) with
  | false, false => none
  | true, false => some lower
  | false, true => some upper
  | true, true =>
    let down := s.value - lower * s.scale
    let up := upper * s.scale - s.value
    if down < up then some lower
    else if up < down then some upper
    else if lower % 2 = 0 then some lower else some upper

private def Span.search (s : Span) : Nat → Decimal
  | 0 => ⟨0, 0⟩
  | steps + 1 =>
    let power : Int := (steps : Int) - 345
    match (s.onGrid power).nearest? with
    | some digits => ⟨digits, power⟩
    | none => s.search steps

/-- The decimal of fewest digits that rounds to the magnitude of the double. -/
def shortest (x : Double) : Decimal :=
  if x.mantissa = 0 then ⟨0, 0⟩ else x.span.search 656

/-- Positional from `1e-5` up to below `1e16`, otherwise with an exponent that has a
sign and no leading zero; a point or an exponent is always written. -/
def text (x : Double) : List Char :=
  let d := x.shortest
  let digits := (toString d.digits).toList
  let places := digits.length + d.exponent
  let zeros (n : Int) : List Char := List.replicate n.toNat '0'
  let magnitude : List Char :=
    if d.digits = 0 then "0.0".toList
    else if -5 < places && places ≤ 16 then
      if 0 ≤ d.exponent then digits ++ zeros d.exponent ++ ".0".toList
      else if 0 < places then
        digits.take places.toNat ++ '.' :: digits.drop places.toNat
      else "0.".toList ++ zeros (-places) ++ digits
    else
      let power := places - 1
      let size := (toString power.natAbs).toList
      let rest := if digits.length = 1 then [] else '.' :: digits.drop 1
      digits.take 1 ++ rest ++ ['e', if power < 0 then '-' else '+'] ++ size
  if x.isNegative then '-' :: magnitude else magnitude

end Double

end TableSchema
