import RecordFilter.Value.Basic
import RecordFilter.Operator

set_option autoImplicit false

/-!
How operators apply to values. Null equals null and nothing else, and has no order. Values that
are not related do not match: they are neither equal nor ordered. Only a list contains anything.
-/

namespace RecordFilter

/-- The string as a comparison mode sees it. -/
def StringComparison.fold (comparison : StringComparison) (s : String) : List Char :=
  match comparison with
  | caseSensitive => s.toList
  | caseInsensitive => Text.lowercase s.toList

/-- Whether one text occurs in another. -/
def Text.occursIn (pattern : List Char) : List Char → Bool
  | [] => pattern.isEmpty
  | c :: rest => pattern.isPrefixOf (c :: rest) || occursIn pattern rest

/-- Applies a text test. -/
def TextOp.holds (op : TextOp) (value pattern : List Char) : Bool :=
  match op with
  | equals => value == pattern
  | contains => Text.occursIn pattern value
  | startsWith => pattern.isPrefixOf value
  | endsWith => pattern.isSuffixOf value

namespace Value

/-- Equality of values; where a kind has only an order, that order decides. -/
def equal (a b : Value) : Bool :=
  match a.isNull, b.isNull with
  | true, true => true
  | false, false => ((a.equals? b).or ((a.compare? b).map (·.isEq))).getD false
  | _, _ => false

/-- The order of two values that are not null. -/
def order? (a b : Value) : Option Ordering :=
  if a.isNull || b.isNull then none else a.compare? b

/-- Whether an operator holds. An ordering operator holds of no two values without an order. -/
def satisfies (op : CompareOp) (a b : Value) : Bool :=
  match op with
  | .equal => a.equal b
  | .notEqual => !a.equal b
  | op => (a.order? b).any op.holds

/-- Whether a list holds an item. -/
def containsItem (collection item : Value) : Bool :=
  match collection with
  | list items => items.any (·.equal item)
  | _ => false

/-- Applies a text test to values. Two nulls pass the test for equality; apart from that both
sides have to be strings. -/
def matchesText (op : TextOp) (value pattern : Value) (comparison : StringComparison) : Bool :=
  match value, pattern with
  | string v, string p => op.holds (comparison.fold v) (comparison.fold p)
  | null, null => op == .equals
  | _, _ => false

/-- Whether a list holds a string, or for null a null. -/
def containsText (collection item : Value) (comparison : StringComparison) : Bool :=
  match collection, item with
  | list items, string s => items.any fun candidate =>
    (candidate.string?).any fun c => comparison.fold c == comparison.fold s
  | list items, null => items.any isNull
  | _, _ => false

end Value

end RecordFilter
