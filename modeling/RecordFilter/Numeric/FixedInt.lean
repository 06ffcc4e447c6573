import RecordFilter.Numeric.Type

set_option autoImplicit false

/-!
Integers of a fixed width. The range belongs to the value, so no operation on one can leave
it unnoticed: an integer outside the range has no value of the type.
-/

namespace RecordFilter

structure FixedInt (t : IntegerType) where
  value : Int
  min_le : t.min ≤ value
  le_max : value ≤ t.max
  deriving DecidableEq, Repr

namespace IntegerType

/-- The value of the type with the given number, if the number is in range. -/
def ofInt? (t : IntegerType) (n : Int) : Option (FixedInt t) :=
  if h : t.min ≤ n ∧ n ≤ t.max then some ⟨n, h.1, h.2⟩ else none

theorem ofInt?_value {t : IntegerType} (n : FixedInt t) : t.ofInt? n.value = some n := by
  simp [ofInt?, n.min_le, n.le_max]

end IntegerType

end RecordFilter
