import RecordFilter.Numeric.Number
import RecordFilter.Value.Custom

set_option autoImplicit false

/-!
The values a record holds. Null is a value of its own. Two other values are related only when
they are of the same kind, numbers only when they have the same numeric type; lists are related
to nothing.
-/

namespace RecordFilter

inductive Value where
  | null
  | bool (b : Bool)
  | char (c : Char)
  | number (n : Number)
  | string (s : String)
  /-- A moment, in milliseconds from the start of 1970. -/
  | dateTime (ms : Int)
  /-- A member of an enumeration, by its ordinal. -/
  | enum (ordinal : Int)
  | list (items : List Value)
  | custom (c : CustomValue)

namespace Value

instance : Inhabited Value := ⟨null⟩

def isNull : Value → Bool
  | null => true
  | _ => false

def isTrue : Value → Bool
  | bool b => b
  | _ => false

def numericType? : Value → Option NumericType
  | number n => some n.type
  | _ => none

/-- The value in another numeric type. Null stays null; anything else that is no number, or a
number that does not fit, has no widening. -/
def widen : Value → NumericType → Option Value
  | null, _ => some null
  | number n, t => (n.convert t).map number
  | _, _ => none

def bool? : Value → Option Bool
  | bool b => some b
  | _ => none

/-- Any integer in the range of 64 bits with a sign: of an integer type, a moment, or an
ordinal. -/
def int? : Value → Option Int
  | number n => n.int?.filter (· ≤ (IntegerType.mk true .w64).max)
  | dateTime n | enum n => some n
  | _ => none

def double? : Value → Option (Binary .double)
  | number n => some n.toDouble
  | _ => none

def decimal? : Value → Option Decimal
  | number (.decimal d) => some d
  | _ => none

def string? : Value → Option String
  | string s => some s
  | _ => none

def items? : Value → Option (List Value)
  | list items => some items
  | _ => none

/-- Equality of two values of the same kind. -/
def equals? : Value → Value → Option Bool
  | bool a, bool b => some (a == b)
  | char a, char b => some (a == b)
  | number a, number b => a.equals? b
  | string a, string b => some (a == b)
  | dateTime a, dateTime b => some (a == b)
  | enum a, enum b => some (a == b)
  | custom a, custom b => a.equals? b
  | _, _ => none

/-- The order of two values of the same kind. Truth values and strings have none. -/
def compare? : Value → Value → Option Ordering
  | char a, char b => some (compare a.toNat b.toNat)
  | number a, number b => a.compare? b
  | dateTime a, dateTime b => some (compare a b)
  | enum a, enum b => some (compare a b)
  | custom a, custom b => a.compare? b
  | _, _ => none

mutual

/-- Whether two values are interchangeable: nulls are, lists are item by item, copies of one
custom object are, and other values are when their kind has an equality and it holds. -/
def same : Value → Value → Bool
  | null, null => true
  | list a, list b => sameItems a b
  | custom a, custom b => a.identity == b.identity || (a.equals? b).getD false
  | a, b => (a.equals? b).getD false

def sameItems : List Value → List Value → Bool
  | [], [] => true
  | a :: as, b :: bs => same a b && sameItems as bs
  | _, _ => false

end

end Value

end RecordFilter
