import RecordFilter.Numeric.Binary

set_option autoImplicit false

/-!
Decimal numbers of 96 bits: an integer of either sign over a power of ten up to the 28th. The
scale is part of a decimal and is written out, but equality and order look at the number only.
Zero has a sign too, which only its text shows.
-/

namespace RecordFilter

/-- Mantissas are smaller than this. -/
def Decimal.mantissaLimit : Nat := Nat.pow 2 96

structure Decimal where
  negative : Bool
  mantissa : Nat
  scale : Nat
  mantissa_lt : mantissa < Decimal.mantissaLimit
  scale_le : scale ≤ 28
  deriving DecidableEq, Repr

namespace Decimal

/-- The mantissa with its sign. -/
def signed (d : Decimal) : Int :=
  if d.negative then -d.mantissa else d.mantissa

/-- The decimal with the given parts, if they are in range. -/
def ofParts? (negative : Bool) (mantissa scale : Nat) : Option Decimal :=
  if h : mantissa < mantissaLimit ∧ scale ≤ 28 then
    some ⟨negative, mantissa, scale, h.1, h.2⟩
  else none

def ofInt? (n : Int) : Option Decimal := ofParts? (n < 0) n.natAbs 0

/-- The order of the two numbers, brought to a common denominator. -/
def compare (a b : Decimal) : Ordering :=
  Ord.compare (a.signed * Nat.pow 10 b.scale) (b.signed * Nat.pow 10 a.scale)

/-- The integer part. -/
def truncated (d : Decimal) : Int :=
  let whole : Int := (d.mantissa / Nat.pow 10 d.scale : Nat)
  if d.negative then -whole else whole

/-- Digits with as many places as the scale says. -/
def text (d : Decimal) : String :=
  let digits := (toString d.mantissa).toList
  let padded := List.replicate (d.scale + 1 - digits.length) '0' ++ digits
  let whole := padded.length - d.scale
  String.ofList <|
    (if d.negative then ['-'] else []) ++ padded.take whole ++
      (if d.scale = 0 then [] else '.' :: padded.drop whole)

/-- The float a decimal is read as. Whole part and fraction are converted apart and added;
the sum is then rounded to as many places as the decimal has. Every step rounds to double
precision. -/
def toDouble (d : Decimal) : Binary .double :=
  let round := Binary.rounded .double
  let power := Nat.pow 10 d.scale
  let whole := round (d.mantissa / power : Nat)
  let part := round (round (d.mantissa % power : Nat) / round power)
  if d.scale = 0 then Binary.ofInt .double d.signed
  else if part = 0 then Binary.nearest .double d.negative whole
  else
    let scaled := round (round (whole + part) * round power)
    Binary.nearest .double d.negative ((scaled + 1 / 2).floor / round power)

/-- A number under construction: `mantissa * 10 ^ exponent`. -/
structure Draft where
  mantissa : Nat
  exponent : Int

namespace Draft

/-- Divides the number by two as often as said. An odd mantissa is multiplied by five and moved
one place instead; when 96 bits cannot hold that, its last bit is lost. -/
def halve : Nat → Draft → Draft
  | 0, d => d
  | n + 1, d =>
    if d.mantissa % 2 ≠ 0 && d.mantissa * 5 < mantissaLimit then
      halve n ⟨d.mantissa * 5, d.exponent - 1⟩
    else halve n { d with mantissa := d.mantissa / 2 }

/-- Drops the last digit, rounding half up. -/
def dropDigit (d : Draft) : Draft :=
  ⟨d.mantissa / 10 + (if 5 ≤ d.mantissa % 10 then 1 else 0), d.exponent + 1⟩

/-- Drops digits beyond the 28th place. A number whose last digit goes is zero. -/
def limitScale : Nat → Draft → Draft
  | 0, d => d
  | n + 1, d => if d.mantissa < 10 then ⟨0, 0⟩ else limitScale n d.dropDigit

/-- Drops places that a double does not determine. -/
def limitPrecision : Nat → Draft → Draft
  | 0, d => d
  | n + 1, d => if d.mantissa < Nat.pow 2 52 then d else limitPrecision n d.dropDigit

/-- Drops trailing zeros after the point. -/
def strip : Nat → Draft → Draft
  | 0, d => d
  | n + 1, d =>
    if d.mantissa % 10 = 0 then strip n ⟨d.mantissa / 10, d.exponent + 1⟩ else d

/-- The number `mantissa * 2 ^ exponent`; a whole number is kept digit by digit. -/
def ofBinary (mantissa : Nat) (exponent : Int) : Draft :=
  if exponent < 0 then halve (-exponent).toNat ⟨mantissa, 0⟩
  else ⟨mantissa * Nat.pow 2 exponent.toNat, 0⟩

end Draft

/-- The decimal a finite float is read as. Digits after the point end where the number no longer
fits into 52 bits, after about fifteen significant ones, and trailing zeros after the point are
dropped. Absent when the number needs more than 96 bits, as `2 ^ 96` itself does. -/
def ofDouble? (x : Binary .double) : Option Decimal :=
  if !x.isFinite then none
  else if x.magnitude = 0 then ofParts? x.negative 0 0
  else
    let start := Draft.ofBinary x.significand x.unit
    let scaled := start.limitScale (-28 - start.exponent).toNat
    let precise := scaled.limitPrecision (-scaled.exponent).toNat
    let final := precise.strip (-precise.exponent).toNat
    ofParts? x.negative final.mantissa (-final.exponent).toNat

end Decimal

end RecordFilter
