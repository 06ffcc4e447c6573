import RecordFilter.Numeric.Decimal
import RecordFilter.Numeric.Shortest

set_option autoImplicit false

/-!
Numeric values. Two numbers are related only when they have the same type; numbers of
different types are first converted to a common one.
-/

namespace RecordFilter

inductive Number where
  | integer (type : IntegerType) (value : FixedInt type)
  | float (type : FloatType) (value : Binary type)
  | decimal (value : Decimal)
  deriving DecidableEq, Repr

namespace Number

def type : Number → NumericType
  | integer t _ => .integer t
  | float t _ => .float t
  | decimal _ => .decimal

/-- The number in another type. Floats and decimals are cut toward zero on the way to an
integer, and whatever does not fit has no conversion; a decimal with a minus sign never fits an
unsigned type. Floats and decimals reach a decimal through double precision. -/
def convert : Number → NumericType → Option Number
  | integer _ n, .integer t => (t.ofInt? n.value).map (integer t)
  | integer _ n, .float t => some (float t (Binary.ofInt t n.value))
  | integer _ n, .decimal => (Decimal.ofInt? n.value).map decimal
  | float _ x, .integer t => do return integer t (← t.ofInt? (← x.truncated?))
  | float _ x, .float t => some (float t (x.cast t))
  | float _ x, .decimal => (Decimal.ofDouble? (x.cast .double)).map decimal
  | decimal d, .integer t =>
    if d.negative && !t.signed then none else (t.ofInt? d.truncated).map (integer t)
  | decimal d, .float t => some (float t (d.toDouble.cast t))
  | decimal d, .decimal => (Decimal.ofDouble? d.toDouble).map decimal

/-- The order of two numbers of the same type. Floats that are not numbers have none. -/
def compare? : Number → Number → Option Ordering
  | integer t a, integer u b => if t = u then some (compare a.value b.value) else none
  | float t a, float u b => if t = u then a.compare? b else none
  | decimal a, decimal b => some (a.compare b)
  | _, _ => none

/-- Equality of two numbers of the same type, decided for every such pair. -/
def equals? (a b : Number) : Option Bool :=
  if a.type = b.type then some (a.compare? b == some .eq) else none

/-- The integer value of a number of integer type. -/
def int? : Number → Option Int
  | integer _ n => some n.value
  | _ => none

/-- The number in double precision. -/
def toDouble : Number → Binary .double
  | integer _ n => Binary.ofInt .double n.value
  | float _ x => x.cast .double
  | decimal d => d.toDouble

def text : Number → String
  | integer _ n => toString n.value
  | float _ x => x.text
  | decimal d => d.text

/-- The text in a dump of the value. -/
def dump : Number → String
  | integer _ n => toString n.value
  | float _ x => x.dump
  | decimal d => d.text

end Number

end RecordFilter
