import RecordFilter.Expr.Basic
import RecordFilter.Value.Match

set_option autoImplicit false

/-!
Trees turned once into functions of the entity record. Operands that are literals or fields are
kept as such, so a comparison of a field with a literal is a test of its own; conversions of
literals happen once; and a condition stays a test and becomes a truth value only where a value
is asked for. Filter fields read as null here.
-/

namespace RecordFilter

/-- A function of the entity record, in the simplest form it can be given. -/
inductive Accessor where
  | constant (value : Value)
  | field (index : Nat)
  | computed (f : Record → Value)
  | condition (test : Record → Bool)

namespace Accessor

/-- The value for a record. -/
def read : Accessor → Record → Value
  | constant value, _ => value
  | field index, record => record.get index
  | computed f, record => f record
  | condition test, record => .bool (test record)

/-- The accessor as a condition. -/
def test : Accessor → Record → Bool
  | constant value => let accepted := value.isTrue; fun _ => accepted
  | field index => fun record => (record.get index).isTrue
  | computed f => fun record => (f record).isTrue
  | condition test => test

/-- The accessor followed by a conversion. -/
def converted (target : NumericType) : Accessor → Accessor
  | constant value => constant ((value.widen target).getD .null)
  | operand => computed fun record => ((operand.read record).widen target).getD .null

/-- The test of an equality operator between two accessors. -/
def compared (op : CompareOp) : Accessor → Accessor → Record → Bool
  | field index, constant value => fun record => Value.satisfies op (record.get index) value
  | left, right => fun record => Value.satisfies op (left.read record) (right.read record)

/-- The test of an ordering operator between two accessors. -/
def ordered (holds : Ordering → Bool) : Accessor → Accessor → Record → Bool
  | field index, constant value => fun record => ((record.get index).order? value).any holds
  | left, right => fun record => ((left.read record).order? (right.read record)).any holds

end Accessor

namespace Expr

/-- The tree as an accessor. -/
def accessor : Expr → Accessor
  | literal value => .constant value
  | field index => .field index
  | filterField _ => .constant .null
  | convert operand target => operand.accessor.converted target
  | compare op left right => .condition <|
    match op with
    | .equal | .notEqual => Accessor.compared op left.accessor right.accessor
    | .lessThan => Accessor.ordered (·.isLT) left.accessor right.accessor
    | .lessOrEqual => Accessor.ordered (·.isLE) left.accessor right.accessor
    | .greaterThan => Accessor.ordered (·.isGT) left.accessor right.accessor
    | .greaterOrEqual => Accessor.ordered (·.isGE) left.accessor right.accessor
  | and left right =>
    let l := left.accessor.test
    let r := right.accessor.test
    .condition fun record => l record && r record
  | or left right =>
    let l := left.accessor.test
    let r := right.accessor.test
    .condition fun record => l record || r record
  | not operand =>
    let test := operand.accessor.test
    .condition fun record => !test record
  | isNull operand =>
    let value := operand.accessor
    .condition fun record => (value.read record).isNull
  | isNotNull operand =>
    let value := operand.accessor
    .condition fun record => !(value.read record).isNull
  | contains collection item =>
    let c := collection.accessor
    let i := item.accessor
    .condition fun record => (c.read record).containsItem (i.read record)
  | text op value pattern comparison =>
    let v := value.accessor
    let p := pattern.accessor
    .condition fun record => Value.matchesText op (v.read record) (p.read record) comparison
  | textIn collection item comparison =>
    let c := collection.accessor
    let i := item.accessor
    .condition fun record => (c.read record).containsText (i.read record) comparison

/-- The tree as a test of entity records. -/
def lower (expr : Expr) : Record → Bool := expr.accessor.test

end Expr

end RecordFilter
