import RecordFilter.Value.Basic
import RecordFilter.Shape

set_option autoImplicit false

/-!
Conditions on an entity record as trees. A tree may also refer to fields of the filter; binding
it to a filter record puts that record's values in their place, so that what remains speaks of
the entity alone.
-/

namespace RecordFilter

inductive Expr where
  | literal (value : Value)
  /-- A field of the entity, by position. -/
  | field (index : Nat)
  /-- A field of the filter, by position. -/
  | filterField (index : Nat)
  | convert (operand : Expr) (target : NumericType)
  | compare (op : CompareOp) (left right : Expr)
  | and (left right : Expr)
  | or (left right : Expr)
  | not (operand : Expr)
  | isNull (operand : Expr)
  | isNotNull (operand : Expr)
  | contains (collection item : Expr)
  | text (op : TextOp) (value pattern : Expr) (comparison : StringComparison)
  /-- Whether a list of strings holds a string. -/
  | textIn (collection item : Expr) (comparison : StringComparison)

namespace Expr

instance : Inhabited Expr := ⟨literal .null⟩

/-- The operand with a conversion around it, if one is given. -/
def convertIf (operand : Expr) : Option NumericType → Expr
  | some target => convert operand target
  | none => operand

/-- The operand, or its negation. -/
def negatedIf (operand : Expr) (negated : Bool) : Expr :=
  if negated then not operand else operand

/-- All conditions at once, grouped from the left; true when there are none. -/
def conjunction : List Expr → Expr
  | [] => literal (.bool true)
  | first :: rest => rest.foldl and first

/-- Any of the conditions, grouped from the left; false when there are none. -/
def disjunction : List Expr → Expr
  | [] => literal (.bool false)
  | first :: rest => rest.foldl or first

/-- A conversion of a literal is carried out at once, unless the value has none. -/
def convertLiteral (operand : Expr) (target : NumericType) : Expr :=
  match operand with
  | literal value => ((value.widen target).map literal).getD (convert operand target)
  | _ => convert operand target

/-- Puts the values of a filter record in the place of filter fields. -/
def bind (filter : Record) : Expr → Expr
  | literal value => literal value
  | field index => field index
  | filterField index => literal (filter.get index)
  | convert operand target => (operand.bind filter).convertLiteral target
  | compare op left right => compare op (left.bind filter) (right.bind filter)
  | and left right => and (left.bind filter) (right.bind filter)
  | or left right => or (left.bind filter) (right.bind filter)
  | not operand => not (operand.bind filter)
  | isNull operand => isNull (operand.bind filter)
  | isNotNull operand => isNotNull (operand.bind filter)
  | contains collection item => contains (collection.bind filter) (item.bind filter)
  | text op value pattern comparison =>
    text op (value.bind filter) (pattern.bind filter) comparison
  | textIn collection item comparison =>
    textIn (collection.bind filter) (item.bind filter) comparison

/-- The positions of the entity fields a tree reads, from left to right. -/
def entityFields : Expr → List Nat
  | literal _ | filterField _ => []
  | field index => [index]
  | convert operand _ | not operand | isNull operand | isNotNull operand => operand.entityFields
  | compare _ left right | and left right | or left right | contains left right
  | text _ left right _ | textIn left right _ => left.entityFields ++ right.entityFields

/-- The positions of the filter fields a tree reads, from left to right. -/
def filterFields : Expr → List Nat
  | literal _ | field _ => []
  | filterField index => [index]
  | convert operand _ | not operand | isNull operand | isNotNull operand => operand.filterFields
  | compare _ left right | and left right | or left right | contains left right
  | text _ left right _ | textIn left right _ => left.filterFields ++ right.filterFields

/-- Whether two trees are alike, with interchangeable literals. -/
def same : Expr → Expr → Bool
  | literal a, literal b => a.same b
  | field a, field b | filterField a, filterField b => a == b
  | convert a s, convert b t => a.same b && s == t
  | compare p a c, compare q b d => p == q && a.same b && c.same d
  | and a c, and b d | or a c, or b d | contains a c, contains b d => a.same b && c.same d
  | not a, not b | isNull a, isNull b | isNotNull a, isNotNull b => a.same b
  | text p a c m, text q b d n => p == q && a.same b && c.same d && m == n
  | textIn a c m, textIn b d n => a.same b && c.same d && m == n
  | _, _ => false

end Expr

end RecordFilter
