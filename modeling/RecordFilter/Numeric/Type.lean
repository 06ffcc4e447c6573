set_option autoImplicit false

/-!
The numeric types a property may have, and the smallest type in which values of two of
them can be compared without losing anything. Pairs outside that table cannot be compared.
-/

namespace RecordFilter

/-- Width of a fixed-width integer type. -/
inductive Width where
  | w8 | w16 | w32 | w64
  deriving DecidableEq, Repr

namespace Width

def bits : Width → Nat
  | w8 => 8
  | w16 => 16
  | w32 => 32
  | w64 => 64

/-- The next width, absent above 64 bits. -/
def next? : Width → Option Width
  | w8 => some w16
  | w16 => some w32
  | w32 => some w64
  | w64 => none

/-- The wider of two widths. -/
def max (a b : Width) : Width :=
  if b.bits ≤ a.bits then a else b

end Width

structure IntegerType where
  signed : Bool
  width : Width
  deriving DecidableEq, Repr

namespace IntegerType

def bits (t : IntegerType) : Nat := t.width.bits

/-- The least value of the type. -/
def min (t : IntegerType) : Int :=
  if t.signed then -Nat.pow 2 (t.bits - 1) else 0

/-- The greatest value of the type. -/
def max (t : IntegerType) : Int :=
  if t.signed then Nat.pow 2 (t.bits - 1) - 1 else Nat.pow 2 t.bits - 1

def name (t : IntegerType) : String :=
  (if t.signed then "i" else "u") ++ toString t.bits

/-- The signed type holding both a signed and an unsigned type: the signed one if it is
strictly wider, otherwise the next signed type above the unsigned one. -/
def signedCommon? (signed unsigned : Width) : Option IntegerType :=
  if unsigned.bits < signed.bits then some ⟨true, signed⟩
  else unsigned.next?.map (⟨true, ·⟩)

/-- The smallest integer type holding both ranges. -/
def common? (a b : IntegerType) : Option IntegerType :=
  match a.signed, b.signed with
  | true, true | false, false => some ⟨a.signed, a.width.max b.width⟩
  | true, false => signedCommon? a.width b.width
  | false, true => signedCommon? b.width a.width

end IntegerType

/-- Binary floating-point types. -/
inductive FloatType where
  | single | double
  deriving DecidableEq, Repr

namespace FloatType

def exponentBits : FloatType → Nat
  | single => 8
  | double => 11

def fractionBits : FloatType → Nat
  | single => 23
  | double => 52

def name : FloatType → String
  | single => "f32"
  | double => "f64"

end FloatType

inductive NumericType where
  | integer (type : IntegerType)
  | float (type : FloatType)
  | decimal
  deriving DecidableEq, Repr

namespace NumericType

abbrev i8 : NumericType := integer ⟨true, .w8⟩
abbrev u8 : NumericType := integer ⟨false, .w8⟩
abbrev i16 : NumericType := integer ⟨true, .w16⟩
abbrev u16 : NumericType := integer ⟨false, .w16⟩
abbrev i32 : NumericType := integer ⟨true, .w32⟩
abbrev u32 : NumericType := integer ⟨false, .w32⟩
abbrev i64 : NumericType := integer ⟨true, .w64⟩
abbrev u64 : NumericType := integer ⟨false, .w64⟩
abbrev f32 : NumericType := float .single
abbrev f64 : NumericType := float .double

/-- Every numeric type, integers first. -/
def all : List NumericType :=
  [i8, u8, i16, u16, i32, u32, i64, u64, f32, f64, decimal]

def name : NumericType → String
  | integer t => t.name
  | float t => t.name
  | decimal => "decimal"

def isInteger : NumericType → Bool
  | integer _ => true
  | _ => false

def isSigned : NumericType → Bool
  | integer t => t.signed
  | _ => false

/-- Bit width of an integer type, zero for the others. -/
def bits : NumericType → Nat
  | integer t => t.bits
  | _ => 0

/-- The smallest type both numeric types widen to. An integer gives way to any type that is
not one; a decimal mixes with no float. -/
def common? : NumericType → NumericType → Option NumericType
  | integer a, integer b => (a.common? b).map integer
  | integer _, b => some b
  | a, integer _ => some a
  | float .single, float .single => some f32
  | float _, float _ => some f64
  | decimal, decimal => some decimal
  | float _, decimal | decimal, float _ => none

end NumericType

end RecordFilter
