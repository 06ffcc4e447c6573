import RecordFilter.Expr.Basic

set_option autoImplicit false

/-!
Bindings: how properties of the filter constrain properties of the entity, and the rules that
change a binding from one filter record to the next. A rule may reverse the binding, decide about
null entity values, or drop the binding.
-/

namespace RecordFilter

/-- A condition on the filter record. -/
abbrev FilterCondition := Record → Bool

/-- A decision about null entity values by the filter record: to admit them, to reject them, or to
leave them to the binding. -/
abbrev NullInclusion := Record → Option Bool

structure Rules where
  reverseIf : Option FilterCondition := none
  includeNullIf : Option NullInclusion := none
  ignoreIf : Option FilterCondition := none
  /-- Any of these drops the binding. They come from conditional exclusions of properties. -/
  exclusions : List FilterCondition := []

namespace Rules

/-- Without a rule that ignores or that decides about nulls, a null filter value drops the
binding. -/
def usesDefaultIgnore (rules : Rules) : Bool :=
  rules.ignoreIf.isNone && rules.includeNullIf.isNone

def isReversed (rules : Rules) (filter : Record) : Bool := rules.reverseIf.any (· filter)

/-- The decision about null entity values for a filter record. -/
def nullDecision (rules : Rules) (filter : Record) : Option Bool :=
  rules.includeNullIf.bind (· filter)

/-- Whether a rule drops the binding for a filter record. -/
def drops (rules : Rules) (filter : Record) : Bool :=
  rules.ignoreIf.any (· filter) || rules.exclusions.any (· filter)

def dump (rules : Rules) : String :=
  "BindingRules \x7b reverse_if: " ++ toString rules.reverseIf.isSome ++
    ", include_null_if: " ++ toString rules.includeNullIf.isSome ++
    ", ignore_if: " ++ toString rules.ignoreIf.isSome ++
    ", exclusions: " ++ toString rules.exclusions.length ++ " \x7d"

end Rules

/-- One end of a range: the property that holds it, whether it belongs to the range, and how it
is compared. -/
structure RangeSide where
  bound : Property
  kind : RangeBound
  plan : ConversionPlan
  deriving DecidableEq, Repr

/-- What a binding demands of an entity record. -/
inductive Constraint where
  /-- The operator holds between the entity's value and the filter's value. -/
  | compare (entity filter : Property) (op : CompareOp) (plan : ConversionPlan)
  /-- The entity's list holds the filter's value, or does not. A comparison mode is given when the
  items are strings. -/
  | contain (entity filter : Property) (op : ContainOp) (convert : Option NumericType)
      (comparison : Option StringComparison)
  /-- The filter's list holds the entity's value, or does not. -/
  | member (entity filter : Property) (op : MembershipOp) (convert : Option NumericType)
      (comparison : Option StringComparison)
  /-- A string operator holds between the two values. -/
  | text (entity filter : Property) (op : StringOp) (comparison : StringComparison)
  /-- The entity's value lies between two values of the filter. -/
  | filterRange (entity : Property) (min max : RangeSide)
  /-- The filter's value lies between two values of the entity. -/
  | entityRange (filter : Property) (min max : RangeSide)
  /-- A condition taken as it is. Of the rules only the exclusions apply to it. -/
  | raw (label : String) (expr : Expr)

structure Binding where
  constraint : Constraint
  rules : Rules

/-- What a binding is known by when looking for duplicates. -/
inductive BindingKey where
  | pair (entity filter : String)
  | filterRange (min entity max : String)
  | entityRange (min filter max : String)
  deriving DecidableEq, Repr

def BindingKey.text : BindingKey → String
  | pair entity filter => entity ++ " <- filter." ++ filter
  | filterRange min entity max =>
    "filter." ++ min ++ " .. " ++ entity ++ " .. filter." ++ max
  | entityRange min filter max => min ++ " .. filter." ++ filter ++ " .. " ++ max

namespace Constraint

/-- The key of a constraint; a raw one has none. -/
def key? : Constraint → Option BindingKey
  | compare entity filter .. | contain entity filter .. | member entity filter ..
  | text entity filter .. => some (.pair entity.name filter.name)
  | filterRange entity min max => some (.filterRange min.bound.name entity.name max.bound.name)
  | entityRange filter min max => some (.entityRange min.bound.name filter.name max.bound.name)
  | raw .. => none

/-- A short description. -/
def label : Constraint → String
  | compare entity filter op _ => entity.name ++ " " ++ op.symbol ++ " filter." ++ filter.name
  | contain entity filter op .. => entity.name ++ " " ++ op.text ++ " filter." ++ filter.name
  | member entity filter op .. => entity.name ++ " " ++ op.text ++ " filter." ++ filter.name
  | text entity filter op _ => entity.name ++ " " ++ op.name ++ " filter." ++ filter.name
  | filterRange entity min max =>
    (BindingKey.filterRange min.bound.name entity.name max.bound.name).text
  | entityRange filter min max =>
    (BindingKey.entityRange min.bound.name filter.name max.bound.name).text
  | raw label _ => "raw " ++ label

/-- The positions of the entity fields it reads. -/
def entityFields : Constraint → List Nat
  | compare entity .. | contain entity .. | member entity .. | text entity ..
  | filterRange entity .. => [entity.index]
  | entityRange _ min max => [min.bound.index, max.bound.index]
  | raw _ expr => expr.entityFields

/-- The positions of the filter fields it reads. -/
def filterFields : Constraint → List Nat
  | compare _ filter .. | contain _ filter .. | member _ filter .. | text _ filter ..
  | entityRange filter .. => [filter.index]
  | filterRange _ min max => [min.bound.index, max.bound.index]
  | raw _ expr => expr.filterFields

end Constraint

namespace Binding

def key? (binding : Binding) : Option BindingKey := binding.constraint.key?

def label (binding : Binding) : String := binding.constraint.label

def entityFields (binding : Binding) : List Nat := binding.constraint.entityFields

def filterFields (binding : Binding) : List Nat := binding.constraint.filterFields

/-- The binding with more conditions that drop it. -/
def excludedWhen (binding : Binding) (conditions : List FilterCondition) : Binding :=
  { binding with
    rules := { binding.rules with exclusions := binding.rules.exclusions ++ conditions } }

end Binding

end RecordFilter
