import RecordFilter.Value.Basic

set_option autoImplicit false

/-!
The declared types of properties. A type may hold null when it is wrapped as nullable or is
reference-like: a string, a list, or a custom type said to be one. Under at most one such wrapper
lies the underlying type, which decides what a value may be and which relations it has.
-/

namespace RecordFilter

/-- Which relations a type defines; an order comes with an equality. -/
inductive Comparability where
  | opaqueType | equatable | ordered
  deriving DecidableEq, Repr

namespace Comparability

def hasEquality : Comparability → Bool
  | opaqueType => false
  | _ => true

def hasOrdering : Comparability → Bool
  | ordered => true
  | _ => false

end Comparability

structure CustomType where
  name : String
  comparability : Comparability
  /-- Reference-like types hold null without a wrapper. -/
  reference : Bool
  deriving DecidableEq, Repr

inductive ValueType where
  | bool
  | char
  | numeric (type : NumericType)
  | string
  | dateTime
  | enum (name : String)
  | custom (type : CustomType)
  | list (element : ValueType)
  | nullable (inner : ValueType)
  deriving DecidableEq, Repr

namespace ValueType

def isReferenceLike : ValueType → Bool
  | string | list _ => true
  | custom c => c.reference
  | _ => false

def canBeNull : ValueType → Bool
  | nullable _ => true
  | t => t.isReferenceLike

/-- The type that holds the same values and null. -/
def orNull (t : ValueType) : ValueType :=
  if t.canBeNull then t else nullable t

/-- The type under one wrapper. -/
def underlying : ValueType → ValueType
  | nullable inner => inner
  | t => t

def isString (t : ValueType) : Bool := t.underlying == string

def numeric? (t : ValueType) : Option NumericType :=
  match t.underlying with
  | numeric n => some n
  | _ => none

/-- The type of the items when the underlying type is a list. -/
def element? (t : ValueType) : Option ValueType :=
  match t.underlying with
  | list element => some element
  | _ => none

/-- The relations of the type's values. -/
def comparability : ValueType → Comparability
  | numeric _ | char | dateTime | enum _ => .ordered
  | bool | string => .equatable
  | custom c => c.comparability
  | list _ => .opaqueType
  | nullable inner => inner.comparability

/-- Whether a value is legal for a type of which one wrapper may be opened. A wrapper that may
not be opened holds nothing. -/
def holds : ValueType → Bool → Value → Bool
  | nullable inner, true, v => v.isNull || inner.holds false v
  | string, _, .null | list _, _, .null => true
  | custom c, _, .null => c.reference
  | bool, _, .bool _ => true
  | char, _, .char _ => true
  | numeric n, _, .number v => v.type == n
  | string, _, .string _ => true
  | dateTime, _, .dateTime _ => true
  | enum _, _, .enum _ => true
  | custom c, _, .custom v => v.typeName == c.name
  | list element, _, .list items => items.all (element.holds true)
  | _, _, _ => false

/-- Whether a value is legal for the type. -/
def admits (t : ValueType) (v : Value) : Bool := t.holds true v

def text : ValueType → String
  | bool => "bool"
  | char => "char"
  | numeric n => n.name
  | string => "string"
  | dateTime => "datetime"
  | enum name => name
  | custom c => c.name
  | list element => "list<" ++ element.text ++ ">"
  | nullable inner => inner.text ++ "?"

end ValueType

end RecordFilter
