import RecordFilter.Binding.Basic
import RecordFilter.Expr.Eval
import RecordFilter.Predicate

set_option autoImplicit false

/-!
Bindings compiled for a pair of shapes. Each binding becomes one or two sides, which hold the
condition and its reverse; what is left to do for a filter record is to ask the rules and to put
its values in. The predicate for a filter record is the conjunction of all bindings that are not
dropped for it.
-/

namespace RecordFilter

/-- One condition of a compiled binding. -/
structure Side where
  normal : Expr
  inverse : Expr
  /-- A filter field that drops the side when it is null. -/
  guard : Option Nat
  /-- The entity field that decisions about null look at. -/
  nullOperand : Option Nat

structure CompiledBinding where
  label : String
  sides : List Side
  rules : Rules
  /-- A filter field that drops the binding when it is null. -/
  defaultIgnore : Option Nat

namespace Property

/-- The position of a property that can be null. -/
def nullableIndex (property : Property) : Option Nat :=
  if property.canBeNull then some property.index else none

/-- The position of a filter property that drops the binding when it is null. -/
def ignoreIndex (property : Property) (rules : Rules) : Option Nat :=
  if property.canBeNull && rules.usesDefaultIgnore then some property.index else none

end Property

namespace Side

/-- The side that compares two operands. -/
def comparing (op : CompareOp) (left right : Expr) (guard nullOperand : Option Nat) : Side :=
  ⟨.compare op left right, .compare op.inverse left right, guard, nullOperand⟩

/-- The side that demands a condition or its negation. -/
def demanding (condition : Expr) (negated : Bool) (nullOperand : Option Nat) : Side :=
  ⟨condition.negatedIf negated, condition.negatedIf !negated, none, nullOperand⟩

/-- The side for one end of a range set by the filter. -/
def ofFilterEnd (entity : Property) (rules : Rules) (side : RangeSide) (op : CompareOp) : Side :=
  comparing op (.convertIf (.field entity.index) side.plan.entity)
    (.convertIf (.filterField side.bound.index) side.plan.filter)
    (side.bound.ignoreIndex rules) entity.nullableIndex

/-- The side for one end of a range set by the entity. -/
def ofEntityEnd (filter : Property) (side : RangeSide) (op : CompareOp) : Side :=
  comparing op (.convertIf (.filterField filter.index) side.plan.filter)
    (.convertIf (.field side.bound.index) side.plan.entity)
    none side.bound.nullableIndex

/-- Whether the side counts for a filter record. -/
def isActive (side : Side) (filter : Record) : Bool :=
  side.guard.all fun index => !(filter.get index).isNull

/-- The condition for a filter record. A decision about null applies outside of the reversal. -/
def condition (side : Side) (filter : Record) (reversed : Bool) (nulls : Option Bool) : Expr :=
  let base := (if reversed then side.inverse else side.normal).bind filter
  match nulls, side.nullOperand with
  | some true, some index => .or (.isNull (.field index)) base
  | some false, some index => .and (.isNotNull (.field index)) base
  | _, _ => base

end Side

/-- Whether a list holds an item, under a comparison mode if one is given. -/
def Expr.lookup (collection item : Expr) : Option StringComparison → Expr
  | some comparison => .textIn collection item comparison
  | none => .contains collection item

namespace Constraint

def sides (rules : Rules) : Constraint → List Side
  | compare entity filter op plan =>
    [.comparing op (.convertIf (.field entity.index) plan.entity)
      (.convertIf (.filterField filter.index) plan.filter) none entity.nullableIndex]
  | contain entity filter op convert comparison =>
    [.demanding
      (.lookup (.field entity.index) (.convertIf (.filterField filter.index) convert) comparison)
      op.isNegated entity.nullableIndex]
  | member entity filter op convert comparison =>
    [.demanding
      (.lookup (.filterField filter.index) (.convertIf (.field entity.index) convert) comparison)
      op.isNegated entity.nullableIndex]
  | text entity filter op comparison =>
    [.demanding
      (if op.isMembership then
        .textIn (.filterField filter.index) (.field entity.index) comparison
      else .text op.test (.field entity.index) (.filterField filter.index) comparison)
      op.isNegated entity.nullableIndex]
  | filterRange entity min max =>
    [.ofFilterEnd entity rules min min.kind.lowerOp, .ofFilterEnd entity rules max max.kind.upperOp]
  | entityRange filter min max =>
    [.ofEntityEnd filter min min.kind.lowerOp, .ofEntityEnd filter max max.kind.upperOp]
  | raw _ expr => [.demanding expr false none]

/-- The filter field whose null drops the whole binding. The ends of a range set by the filter
are dropped one by one instead. -/
def defaultIgnore (rules : Rules) : Constraint → Option Nat
  | compare _ filter .. | contain _ filter .. | member _ filter .. | text _ filter ..
  | entityRange filter .. => filter.ignoreIndex rules
  | filterRange .. | raw .. => none

/-- The rules that apply to the constraint. -/
def applicable (rules : Rules) : Constraint → Rules
  | raw .. => { exclusions := rules.exclusions }
  | _ => rules

end Constraint

def Binding.compile (binding : Binding) : CompiledBinding where
  label := binding.label
  sides := binding.constraint.sides binding.rules
  rules := binding.constraint.applicable binding.rules
  defaultIgnore := binding.constraint.defaultIgnore binding.rules

namespace CompiledBinding

/-- Whether the binding is dropped for a filter record. -/
def isIgnored (binding : CompiledBinding) (filter : Record) : Bool :=
  binding.rules.drops filter ||
    binding.defaultIgnore.any fun index => (filter.get index).isNull

/-- What the binding demands for a filter record, if anything. The sides of a reversed range are
alternatives, since its conjunction is negated. -/
def fragment? (binding : CompiledBinding) (filter : Record) : Option Expr :=
  if binding.isIgnored filter then none
  else
    let reversed := binding.rules.isReversed filter
    let nulls := binding.rules.nullDecision filter
    match (binding.sides.filter (·.isActive filter)).map (·.condition filter reversed nulls) with
    | [] => none
    | conditions =>
      some (if reversed then .disjunction conditions else .conjunction conditions)

end CompiledBinding

structure CompiledFilter where
  entityShape : Shape
  filterShape : Shape
  bindings : List CompiledBinding

namespace CompiledFilter

def compile (entity filter : Shape) (bindings : List Binding) : CompiledFilter :=
  ⟨entity, filter, bindings.map (·.compile)⟩

def pair (compiled : CompiledFilter) : ShapePair := compiled.entityShape.pairWith compiled.filterShape

def labels (compiled : CompiledFilter) : List String := compiled.bindings.map (·.label)

/-- The condition for a filter record: all bindings that are not dropped. -/
def expr (compiled : CompiledFilter) (filter : Record) : Except FilterError Expr := do
  compiled.filterShape.checkRecord filter
  return .conjunction (compiled.bindings.filterMap (·.fragment? filter))

/-- The predicate for a filter record. -/
def predicate (compiled : CompiledFilter) (filter : Record) : Except FilterError Predicate := do
  return ⟨← compiled.expr filter, compiled.entityShape⟩

/-- Whether an entity record meets the condition for a filter record. -/
def accepts (compiled : CompiledFilter) (filter entity : Record) : Except FilterError Bool := do
  compiled.entityShape.checkRecord entity
  return (← compiled.expr filter).holds entity none

end CompiledFilter

end RecordFilter
