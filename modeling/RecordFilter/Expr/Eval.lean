import RecordFilter.Expr.Basic
import RecordFilter.Value.Match

set_option autoImplicit false

/-!
The meaning of a tree over an entity record, with or without a filter record. Without one, filter
fields read as null, and so does a conversion that fails. As a condition a tree holds only when
its value is the truth value true.
-/

namespace RecordFilter

namespace Expr

def eval (entity : Record) (filter : Option Record) : Expr → Value
  | literal value => value
  | field index => entity.get index
  | filterField index => filter.elim .null (·.get index)
  | convert operand target => ((operand.eval entity filter).widen target).getD .null
  | compare op left right =>
    .bool (Value.satisfies op (left.eval entity filter) (right.eval entity filter))
  | and left right =>
    .bool ((left.eval entity filter).isTrue && (right.eval entity filter).isTrue)
  | or left right =>
    .bool ((left.eval entity filter).isTrue || (right.eval entity filter).isTrue)
  | not operand => .bool (!(operand.eval entity filter).isTrue)
  | isNull operand => .bool (operand.eval entity filter).isNull
  | isNotNull operand => .bool (!(operand.eval entity filter).isNull)
  | contains collection item =>
    .bool ((collection.eval entity filter).containsItem (item.eval entity filter))
  | text op value pattern comparison =>
    .bool (Value.matchesText op (value.eval entity filter) (pattern.eval entity filter) comparison)
  | textIn collection item comparison =>
    .bool ((collection.eval entity filter).containsText (item.eval entity filter) comparison)

/-- Whether the condition holds. -/
def holds (expr : Expr) (entity : Record) (filter : Option Record) : Bool :=
  (expr.eval entity filter).isTrue

end Expr

end RecordFilter
