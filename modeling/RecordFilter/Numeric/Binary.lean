import RecordFilter.Numeric.FixedInt

set_option autoImplicit false

/-!
Binary floating-point numbers in interchange form: a sign, and one number holding the exponent
field above the fraction field. Read as an integer that number grows with the value it stands
for, so comparing two floats compares two integers. Arithmetic is exact on rationals and
rounded once, to the nearest float and on a tie to the even one.
-/

namespace RecordFilter

namespace FloatType

/-- The place of the sign bit, above the exponent field and the fraction field. -/
def signBit (t : FloatType) : Nat := Nat.pow 2 (t.exponentBits + t.fractionBits)

/-- The place of the lowest bit of the exponent field. -/
def exponentBit (t : FloatType) : Nat := Nat.pow 2 t.fractionBits

end FloatType

structure Binary (t : FloatType) where
  negative : Bool
  magnitude : Nat
  magnitude_lt : magnitude < t.signBit
  deriving DecidableEq, Repr

/-- Two to an integer power. -/
def twoPow (e : Int) : Rat :=
  if 0 ≤ e then Nat.pow 2 e.toNat else 1 / Nat.pow 2 (-e).toNat

/-- The nearest natural number, on a tie the even one. Meant for rationals that are not
negative. -/
def roundHalfEven (q : Rat) : Nat :=
  let whole := q.floor.toNat
  let rest := q - whole
  if rest < 1 / 2 then whole
  else if 1 / 2 < rest then whole + 1
  else whole + whole % 2

/-- The exponent of the leading binary digit of a positive rational. -/
def binaryOrder (q : Rat) : Int :=
  let estimate : Int := (q.num.toNat.log2 : Int) - q.den.log2
  if twoPow estimate ≤ q then estimate else estimate - 1

namespace FloatType

/-- The magnitude of an infinity: all exponent bits set, no fraction. -/
def infinite (t : FloatType) : Nat :=
  (Nat.pow 2 t.exponentBits - 1) * t.exponentBit

theorem infinite_lt (t : FloatType) : t.infinite < t.signBit := by
  cases t <;> decide

/-- The exponent of the least significant bit of the smallest floats. -/
def leastUnit (t : FloatType) : Int :=
  2 - Nat.pow 2 (t.exponentBits - 1) - t.fractionBits

end FloatType

namespace Binary

variable {t : FloatType}

def isNaN (x : Binary t) : Bool := t.infinite < x.magnitude

def isFinite (x : Binary t) : Bool := x.magnitude < t.infinite

def nan (t : FloatType) : Binary t where
  negative := false
  magnitude := t.infinite + 1
  magnitude_lt := by cases t <;> decide

/-- The float with the given bits, sign bit first. Higher bits are dropped. -/
def ofBits (t : FloatType) (bits : Nat) : Binary t where
  negative := bits / t.signBit % 2 == 1
  magnitude := bits % t.signBit
  magnitude_lt := Nat.mod_lt _ (Nat.two_pow_pos _)

def toBits (x : Binary t) : Nat :=
  (if x.negative then t.signBit else 0) + x.magnitude

/-- The exponent field: zero for the floats below the smallest normal one. -/
def exponentField (x : Binary t) : Nat := x.magnitude / t.exponentBit

/-- The binary digits of a finite float as an integer. -/
def significand (x : Binary t) : Nat :=
  (if x.exponentField = 0 then 0 else t.exponentBit) + x.magnitude % t.exponentBit

/-- The exponent of the last binary digit. -/
def unit (x : Binary t) : Int := t.leastUnit + (x.exponentField - 1 : Nat)

/-- The value of a finite float without its sign. -/
def absRat (x : Binary t) : Rat := x.significand * twoPow x.unit

/-- The float nearest to a rational that is not negative. Values too large for the type
become infinite. -/
def nearest (t : FloatType) (negative : Bool) (q : Rat) : Binary t :=
  let unit := if q = 0 then t.leastUnit else max t.leastUnit (binaryOrder q - t.fractionBits)
  let steps := (unit - t.leastUnit).toNat * t.exponentBit
  { negative
    magnitude := min (steps + roundHalfEven (q / twoPow unit)) t.infinite
    magnitude_lt := Nat.lt_of_le_of_lt (Nat.min_le_right _ _) t.infinite_lt }

/-- A rational that is not negative, rounded to a float's precision. -/
def rounded (t : FloatType) (q : Rat) : Rat := (nearest t false q).absRat

def ofInt (t : FloatType) (n : Int) : Binary t := nearest t (n < 0) n.natAbs

/-- The same number in another float type, rounded if the type is narrower. -/
def cast (u : FloatType) (x : Binary t) : Binary u :=
  if h : t = u then h ▸ x
  else if x.isNaN then nan u
  else if x.isFinite then nearest u x.negative x.absRat
  else ⟨x.negative, u.infinite, u.infinite_lt⟩

/-- The integer part of a finite float. -/
def truncated? (x : Binary t) : Option Int :=
  if x.isFinite then
    let n : Int := x.absRat.floor
    some (if x.negative then -n else n)
  else none

/-- The integer that orders the floats that are numbers; both zeros have the same one. -/
def rank (x : Binary t) : Int :=
  if x.negative then -x.magnitude else x.magnitude

/-- The order of two floats, absent when either is not a number. -/
def compare? {u : FloatType} (x : Binary t) (y : Binary u) : Option Ordering :=
  if x.isNaN || y.isNaN then none else some (compare x.rank y.rank)

end Binary

end RecordFilter
