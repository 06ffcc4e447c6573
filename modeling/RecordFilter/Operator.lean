set_option autoImplicit false

/-!
The operators a binding can apply. Every inverse is an involution: it decides the opposite
of the operator, and its own inverse is the operator again.
-/

namespace RecordFilter

/-- Comparison of an entity value with a filter value. -/
inductive CompareOp where
  | equal | notEqual | greaterThan | greaterOrEqual | lessThan | lessOrEqual
  deriving DecidableEq, Repr

namespace CompareOp

def all : List CompareOp :=
  [equal, notEqual, greaterThan, greaterOrEqual, lessThan, lessOrEqual]

/-- The operator of a comparison that names none. -/
def standard : CompareOp := equal

def inverse : CompareOp → CompareOp
  | equal => notEqual
  | notEqual => equal
  | greaterThan => lessOrEqual
  | lessOrEqual => greaterThan
  | greaterOrEqual => lessThan
  | lessThan => greaterOrEqual

/-- Whether the operator needs an ordering, not just an equality. -/
def isOrdering : CompareOp → Bool
  | equal | notEqual => false
  | _ => true

def symbol : CompareOp → String
  | equal => "=="
  | notEqual => "!="
  | greaterThan => ">"
  | greaterOrEqual => ">="
  | lessThan => "<"
  | lessOrEqual => "<="

/-- Whether an ordering operator holds of two values that compare as given; the two
equality operators are read the same way. -/
def holds : CompareOp → Ordering → Bool
  | equal, o => o.isEq
  | notEqual, o => o.isNe
  | greaterThan, o => o.isGT
  | greaterOrEqual, o => o.isGE
  | lessThan, o => o.isLT
  | lessOrEqual, o => o.isLE

@[simp] theorem inverse_inverse (op : CompareOp) : op.inverse.inverse = op := by
  cases op <;> rfl

end CompareOp

/-- Whether the entity's collection holds the filter's value. -/
inductive ContainOp where
  | contains | notContains
  deriving DecidableEq, Repr

namespace ContainOp

/-- The operator of a test that names none. -/
def standard : ContainOp := contains

def inverse : ContainOp → ContainOp
  | contains => notContains
  | notContains => contains

def isNegated : ContainOp → Bool
  | contains => false
  | notContains => true

def text : ContainOp → String
  | contains => "contains"
  | notContains => "not contains"

@[simp] theorem inverse_inverse (op : ContainOp) : op.inverse.inverse = op := by
  cases op <;> rfl

@[simp] theorem isNegated_inverse (op : ContainOp) : op.inverse.isNegated = !op.isNegated := by
  cases op <;> rfl

end ContainOp

/-- Whether the entity's value is in the filter's collection. -/
inductive MembershipOp where
  | isIn | notIn
  deriving DecidableEq, Repr

namespace MembershipOp

/-- The operator of a test that names none. -/
def standard : MembershipOp := isIn

def inverse : MembershipOp → MembershipOp
  | isIn => notIn
  | notIn => isIn

def isNegated : MembershipOp → Bool
  | isIn => false
  | notIn => true

def text : MembershipOp → String
  | isIn => "in"
  | notIn => "not in"

@[simp] theorem inverse_inverse (op : MembershipOp) : op.inverse.inverse = op := by
  cases op <;> rfl

@[simp] theorem isNegated_inverse (op : MembershipOp) :
    op.inverse.isNegated = !op.isNegated := by
  cases op <;> rfl

end MembershipOp

/-- A test of one string against another. -/
inductive TextOp where
  | equals | contains | startsWith | endsWith
  deriving DecidableEq, Repr

namespace TextOp

def name : TextOp → String
  | equals => "equals"
  | contains => "contains"
  | startsWith => "starts_with"
  | endsWith => "ends_with"

end TextOp

/-- Operators of string bindings: a text test or membership in a list of strings, either one
possibly negated. -/
inductive StringOp where
  | equal | notEqual
  | contains | notContains
  | startsWith | notStartsWith
  | endsWith | notEndsWith
  | isIn | notIn
  deriving DecidableEq, Repr

namespace StringOp

def all : List StringOp :=
  [equal, notEqual, contains, notContains, startsWith, notStartsWith, endsWith, notEndsWith,
    isIn, notIn]

def inverse : StringOp → StringOp
  | equal => notEqual
  | notEqual => equal
  | contains => notContains
  | notContains => contains
  | startsWith => notStartsWith
  | notStartsWith => startsWith
  | endsWith => notEndsWith
  | notEndsWith => endsWith
  | isIn => notIn
  | notIn => isIn

def isNegated : StringOp → Bool
  | notEqual | notContains | notStartsWith | notEndsWith | notIn => true
  | _ => false

/-- Whether the filter side is a list of strings. -/
def isMembership : StringOp → Bool
  | isIn | notIn => true
  | _ => false

/-- The text test an operator applies before negation; for the membership operators the test
of each list item. -/
def test : StringOp → TextOp
  | equal | notEqual | isIn | notIn => .equals
  | contains | notContains => .contains
  | startsWith | notStartsWith => .startsWith
  | endsWith | notEndsWith => .endsWith

def name : StringOp → String
  | equal => "equal"
  | notEqual => "not_equal"
  | contains => "contains"
  | notContains => "not_contains"
  | startsWith => "starts_with"
  | notStartsWith => "not_starts_with"
  | endsWith => "ends_with"
  | notEndsWith => "not_ends_with"
  | isIn => "in"
  | notIn => "not_in"

/-- The operator with a given name. -/
def ofName? (s : String) : Option StringOp :=
  all.find? (·.name == s)

@[simp] theorem inverse_inverse (op : StringOp) : op.inverse.inverse = op := by
  cases op <;> rfl

@[simp] theorem isNegated_inverse (op : StringOp) : op.inverse.isNegated = !op.isNegated := by
  cases op <;> rfl

end StringOp

/-- How string bindings treat letter case. -/
inductive StringComparison where
  | caseSensitive
  /-- Both sides are brought to lower case first. -/
  | caseInsensitive
  deriving DecidableEq, Repr

namespace StringComparison

def name : StringComparison → String
  | caseSensitive => "case_sensitive"
  | caseInsensitive => "case_insensitive"

def ofName? (s : String) : Option StringComparison :=
  [caseSensitive, caseInsensitive].find? (·.name == s)

end StringComparison

/-- Whether the end of a range belongs to it. -/
inductive RangeBound where
  | inclusive | exclusive
  deriving DecidableEq, Repr

namespace RangeBound

/-- The kind of an end of which nothing is said. -/
def standard : RangeBound := inclusive

/-- The operator with which a value is compared to the lower end. -/
def lowerOp : RangeBound → CompareOp
  | inclusive => .greaterOrEqual
  | exclusive => .greaterThan

/-- The operator with which a value is compared to the upper end. -/
def upperOp : RangeBound → CompareOp
  | inclusive => .lessOrEqual
  | exclusive => .lessThan

end RangeBound

end RecordFilter
