import RecordFilter.Expr.Lower
import RecordFilter.Expr.Text

set_option autoImplicit false

/-!
A condition on the records of an entity shape, to be looked at as a tree or to be applied. Applying
it does not check the record's shape.
-/

namespace RecordFilter

structure Predicate where
  expr : Expr
  entityShape : Shape

namespace Predicate

/-- The predicate as a test of entity records. -/
def test (predicate : Predicate) : Record → Bool := predicate.expr.lower

/-- The records that pass. -/
def select (predicate : Predicate) (entities : List Record) : List Record :=
  entities.filter predicate.test

def text (predicate : Predicate) : String := predicate.expr.display predicate.entityShape none

def dump (predicate : Predicate) : String :=
  "Predicate \x7b entity_shape: " ++ Text.quoted predicate.entityShape.name ++ ", expr: " ++
    predicate.expr.dump ++ ", .. \x7d"

end Predicate

end RecordFilter
