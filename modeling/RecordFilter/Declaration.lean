import RecordFilter.Binding.Basic
import RecordFilter.Settings.Basic

set_option autoImplicit false

/-!
Declarations of bindings by property name. Resolving one against a pair of shapes looks the
properties up, checks that the operator can relate their types, and fills in what the declaration
leaves to the settings. Unknown properties are reported first, then a useless rule about nulls,
then types that do not fit.
-/

namespace RecordFilter

inductive Declaration where
  | compare (entity filter : String) (op : CompareOp) (rules : Rules)
  /-- The entity's collection and the item of the filter. -/
  | contain (entity filter : String) (op : ContainOp) (comparison : Option StringComparison)
      (rules : Rules)
  /-- The item of the entity and the filter's collection. -/
  | member (entity filter : String) (op : MembershipOp) (comparison : Option StringComparison)
      (rules : Rules)
  | text (entity filter : String) (op : Option StringOp) (comparison : Option StringComparison)
      (rules : Rules)
  | filterRange (min entity max : String) (lower upper : RangeBound) (rules : Rules)
  | entityRange (min filter max : String) (lower upper : RangeBound) (rules : Rules)
  | raw (label : String) (expr : Expr)

namespace Rules

/-- Refuses a rule about nulls when none of the entity's properties can be null. The first one is
named. -/
def checkNullInclusion (rules : Rules) (first : Property) (others : List Property) :
    Except FilterError Unit :=
  if rules.includeNullIf.isNone || (first :: others).any (·.canBeNull) then .ok ()
  else .error (.unnecessaryNullInclusion first.operand)

end Rules

namespace Property

/-- How an entity property is compared with a filter property. -/
def comparisonPlan (entity filter : Property) (op : CompareOp) :
    Except FilterError ConversionPlan :=
  (entity.type.comparisonPlan filter.type op).mapError
    (.incompatibleOperator entity.operand filter.operand op)

/-- The conversion of an item that is looked up in a collection. -/
def containmentPlan (collection item : Property) : Except FilterError (Option NumericType) :=
  match collection.type.element? with
  | none => .error (.incompatibleContainer collection.operand item.operand .notACollection)
  | some element =>
    (element.containmentPlan item.type).mapError fun reason =>
      .incompatibleContainer collection.operand item.operand (.incompatible reason)

/-- The comparison mode for the items of a collection, if they are strings. -/
def itemComparison (collection : Property) (requested : Option StringComparison)
    (settings : Settings) : Option StringComparison :=
  if collection.type.isStringList then some (requested.getD settings.stringComparison) else none

/-- The operator of a string binding that names none. -/
def stringOp (filter : Property) (settings : Settings) : StringOp :=
  if filter.type.isStringList then .isIn else settings.defaultStringOp

/-- Checks a string operator between two properties. -/
def checkStrings (entity filter : Property) (op : StringOp) : Except FilterError Unit :=
  (entity.type.checkStrings filter.type op).mapError fun _ =>
    .invalidStringBinding entity.operand filter.operand op

end Property

/-- Refuses positions that are not those of a field. The first one is named. -/
def Shape.checkIndices (shape : Shape) (indices : List Nat) : Except FilterError Unit :=
  match indices.find? (shape.fields.length ≤ ·) with
  | some index => .error (.unknownProperty shape.name ("#" ++ toString index))
  | none => .ok ()

namespace Declaration

def resolve (declaration : Declaration) (entity filter : Shape) (settings : Settings) :
    Except FilterError Binding :=
  match declaration with
  | compare entityName filterName op rules => do
    let e ← entity.property entityName
    let f ← filter.property filterName
    rules.checkNullInclusion e []
    return ⟨.compare e f op (← e.comparisonPlan f op), rules⟩
  | contain entityName filterName op comparison rules => do
    let e ← entity.property entityName
    let f ← filter.property filterName
    rules.checkNullInclusion e []
    return ⟨.contain e f op (← e.containmentPlan f) (e.itemComparison comparison settings), rules⟩
  | member entityName filterName op comparison rules => do
    let e ← entity.property entityName
    let f ← filter.property filterName
    rules.checkNullInclusion e []
    return ⟨.member e f op (← f.containmentPlan e) (f.itemComparison comparison settings), rules⟩
  | text entityName filterName op comparison rules => do
    let e ← entity.property entityName
    let f ← filter.property filterName
    let op := op.getD (f.stringOp settings)
    e.checkStrings f op
    return ⟨.text e f op (comparison.getD settings.stringComparison), rules⟩
  | filterRange minName entityName maxName lower upper rules => do
    let e ← entity.property entityName
    let min ← filter.property minName
    let max ← filter.property maxName
    rules.checkNullInclusion e []
    let minPlan ← e.comparisonPlan min lower.lowerOp
    let maxPlan ← e.comparisonPlan max upper.upperOp
    return ⟨.filterRange e ⟨min, lower, minPlan⟩ ⟨max, upper, maxPlan⟩, rules⟩
  | entityRange minName filterName maxName lower upper rules => do
    let f ← filter.property filterName
    let min ← entity.property minName
    let max ← entity.property maxName
    rules.checkNullInclusion min [max]
    let minPlan ← min.comparisonPlan f lower.lowerOp
    let maxPlan ← max.comparisonPlan f upper.upperOp
    return ⟨.entityRange f ⟨min, lower, minPlan⟩ ⟨max, upper, maxPlan⟩, rules⟩
  | raw label expr => do
    entity.checkIndices expr.entityFields
    filter.checkIndices expr.filterFields
    return ⟨.raw label expr, {}⟩

end Declaration

end RecordFilter
