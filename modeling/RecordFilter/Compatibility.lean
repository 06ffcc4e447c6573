import RecordFilter.Value.Type
import RecordFilter.Operator

set_option autoImplicit false

/-!
Which types an operator may relate, and what each side has to be converted to first. The rules
look at the underlying types only. Equal types need the relation the operator asks for; different
ones must both be numeric and have a common type. In a collection the items stay as they are, so
their type has to be the common one.
-/

namespace RecordFilter

inductive Relation where
  | equality | ordering
  deriving DecidableEq, Repr

def Relation.name : Relation → String
  | equality => "equality"
  | ordering => "ordering"

/-- Why two types cannot be related. -/
inductive Incompatibility where
  | missingRelation (type : ValueType) (relation : Relation)
  | noCommonType
  | widerItem (element item : NumericType)
  | notAString
  deriving DecidableEq, Repr

def Incompatibility.message : Incompatibility → String
  | missingRelation type relation =>
    "type " ++ type.text ++ " defines no " ++ relation.name ++ " operator"
  | noCommonType => "no common representation"
  | widerItem element item =>
    "item type " ++ item.name ++ " is wider than element type " ++ element.name
  | notAString => "not a string"

/-- The conversion each side of a comparison needs, and which sides may be null. -/
structure ConversionPlan where
  entity : Option NumericType
  filter : Option NumericType
  entityNullable : Bool
  filterNullable : Bool
  deriving DecidableEq, Repr

namespace ValueType

/-- The common type of two numeric types. -/
def commonNumeric? (a b : ValueType) : Option (NumericType × NumericType × NumericType) := do
  let m ← a.numeric?
  let n ← b.numeric?
  return (m, n, ← m.common? n)

/-- How an entity property is compared with a filter property. -/
def comparisonPlan (entity filter : ValueType) (op : CompareOp) :
    Except Incompatibility ConversionPlan :=
  let plan (a b : Option NumericType) : ConversionPlan :=
    ⟨a, b, entity.canBeNull, filter.canBeNull⟩
  if entity.underlying = filter.underlying then
    if !entity.underlying.comparability.hasEquality then
      .error (.missingRelation entity.underlying .equality)
    else if op.isOrdering && !entity.underlying.comparability.hasOrdering then
      .error (.missingRelation entity.underlying .ordering)
    else .ok (plan none none)
  else
    match entity.underlying.commonNumeric? filter.underlying with
    | some (a, b, common) =>
      .ok (plan (if a = common then none else some common) (if b = common then none else some common))
    | none => .error .noCommonType

/-- The conversion an item needs to be looked up in a collection. -/
def containmentPlan (element item : ValueType) : Except Incompatibility (Option NumericType) :=
  if element.underlying = item.underlying then
    if element.underlying.comparability.hasEquality then .ok none
    else .error (.missingRelation element.underlying .equality)
  else
    match element.underlying.commonNumeric? item.underlying with
    | some (el, it, common) => if common = el then .ok (some el) else .error (.widerItem el it)
    | none => .error .noCommonType

/-- Whether the type is a list of strings. -/
def isStringList (t : ValueType) : Bool := t.element?.any isString

/-- Checks a string operator: strings on both sides, or a list of strings on the filter side of
a membership operator. -/
def checkStrings (entity filter : ValueType) (op : StringOp) : Except Incompatibility Unit :=
  let legal := entity.isString && (if op.isMembership then filter.isStringList else filter.isString)
  if legal then .ok () else .error .notAString

end ValueType

end RecordFilter
