import RecordFilter.Proofs.Negation
import RecordFilter.Proofs.Reversal

set_option autoImplicit false

/-!
Bindings of strings agree with the bindings of any type. Membership compiles to the same tree from
both. A test for equality that keeps the case is the comparison by equality: it treats two nulls,
and a null beside a string, in the same way. So it makes no difference to which of them a
declaration leads.
-/

namespace RecordFilter

namespace StringOp

/-- The operator by which a comparison tests the same. -/
def compareOp? : StringOp → Option CompareOp
  | equal => some .equal
  | notEqual => some .notEqual
  | _ => none

/-- The operator by which a membership in a list of any type tests the same. -/
def membershipOp? : StringOp → Option MembershipOp
  | isIn => some .isIn
  | notIn => some .notIn
  | _ => none

end StringOp

/-- Whether a value is a string or null, as the values of a string property are. -/
def Value.IsStringOrNull (value : Value) : Prop := value = .null ∨ ∃ s, value = .string s

theorem ValueType.isStringOrNull_of_admits {type : ValueType} {value : Value}
    (string : type.isString = true) (admitted : type.admits value = true) :
    value.IsStringOrNull := by
  cases null : value.isNull with
  | true => exact .inl (Value.eq_null_of_isNull null)
  | false =>
      have held := holds_of_admits admitted null
      rw [beq_iff_eq.mp string] at held
      cases value with
      | string s => exact .inr ⟨s, rfl⟩
      | null => nomatch null
      | _ => nomatch held

theorem StringComparison.beq_fold_caseSensitive (a b : String) :
    (caseSensitive.fold a == caseSensitive.fold b) = (a == b) := by
  rw [Bool.eq_iff_iff, beq_iff_eq, beq_iff_eq]
  exact String.toList_inj

namespace Value

theorem matchesText_equals {value pattern : Value} (first : value.IsStringOrNull)
    (second : pattern.IsStringOrNull) :
    matchesText .equals value pattern .caseSensitive = value.equal pattern := by
  rcases first with rfl | ⟨s, rfl⟩
  · rcases second with rfl | ⟨p, rfl⟩ <;> rfl
  · rcases second with rfl | ⟨p, rfl⟩
    · rfl
    · exact StringComparison.beq_fold_caseSensitive s p

theorem containsText_caseSensitive (collection : Value) {item : Value}
    (string : item.IsStringOrNull) :
    collection.containsText item .caseSensitive = collection.containsItem item := by
  cases collection with
  | list items =>
      rcases string with rfl | ⟨s, rfl⟩
      · refine congrArg items.any (funext fun candidate => ?_)
        cases candidate <;> rfl
      · refine congrArg items.any (funext fun candidate => ?_)
        cases candidate with
        | string c => exact StringComparison.beq_fold_caseSensitive c s
        | _ => rfl
  | _ => rcases string with rfl | ⟨s, rfl⟩ <;> rfl

end Value

namespace Expr

theorem holds_text_equals {left right : Expr} {entity : Record} {filter : Option Record}
    (first : (left.eval entity filter).IsStringOrNull)
    (second : (right.eval entity filter).IsStringOrNull) :
    (text .equals left right .caseSensitive).holds entity filter =
      (compare .equal left right).holds entity filter :=
  Value.matchesText_equals first second

theorem holds_compare_notEqual (left right : Expr) (entity : Record) (filter : Option Record) :
    (compare .notEqual left right).holds entity filter =
      !(compare .equal left right).holds entity filter := rfl

end Expr

theorem CompiledBinding.accepts_congr {first second : CompiledBinding} {side other : Side}
    {filter entity : Record} (single : first.sides = [side]) (singleOther : second.sides = [other])
    (unguarded : side.guard = none ∧ other.guard = none)
    (ignored : first.isIgnored filter = second.isIgnored filter)
    (rules : first.rules = second.rules) (operand : side.nullOperand = other.nullOperand)
    (normal : side.normal.holds entity (some filter) = other.normal.holds entity (some filter))
    (inverse : side.inverse.holds entity (some filter) =
      other.inverse.holds entity (some filter)) :
    first.accepts filter entity = second.accepts filter entity := by
  rw [accepts_of_single filter entity single unguarded.1,
    accepts_of_single filter entity singleOther unguarded.2, ignored, rules,
    Side.accepts_congr operand normal inverse]

namespace Binding

variable (property other : Property) (rules : Rules)

/-- A membership in a list of strings demands what the same membership in any list demands. -/
theorem fragment?_text_of_membershipOp? {op : StringOp} {generic : MembershipOp}
    (same : op.membershipOp? = some generic) (comparison : StringComparison) (filter : Record) :
    (⟨.text property other op comparison, rules⟩ : Binding).compile.fragment? filter =
      (⟨.member property other generic none (some comparison), rules⟩ :
        Binding).compile.fragment? filter := by
  cases op with
  | isIn | notIn =>
      obtain rfl := Option.some.inj same
      rfl
  | _ => nomatch same

/-- A comparison of strings by equality and the test for equality accept the same entities, as both
their conditions and the reverses of these agree. -/
theorem accepts_text_of_compareOp? {op : StringOp} {generic : CompareOp} {plan : ConversionPlan}
    (same : op.compareOp? = some generic) (unconverted : plan.entity = none ∧ plan.filter = none)
    {filter entity : Record} (first : (entity.get property.index).IsStringOrNull)
    (second : (filter.get other.index).IsStringOrNull) :
    (⟨.text property other op .caseSensitive, rules⟩ : Binding).accepts filter entity =
      (⟨.compare property other generic plan, rules⟩ : Binding).accepts filter entity := by
  obtain ⟨entityTarget, filterTarget, _, _⟩ := plan
  obtain ⟨rfl, rfl⟩ : entityTarget = none ∧ filterTarget = none := unconverted
  have agree : (Expr.text .equals (.field property.index) (.filterField other.index)
      .caseSensitive).holds entity (some filter) =
      (Expr.compare .equal (.field property.index) (.filterField other.index)).holds entity
        (some filter) := Expr.holds_text_equals first second
  have opposite : (Expr.not (.text .equals (.field property.index) (.filterField other.index)
      .caseSensitive)).holds entity (some filter) =
      (Expr.compare .notEqual (.field property.index) (.filterField other.index)).holds entity
        (some filter) := by
    rw [Expr.holds_not, agree, Expr.holds_compare_notEqual]
  cases op with
  | equal =>
      obtain rfl := Option.some.inj same
      exact CompiledBinding.accepts_congr rfl rfl ⟨rfl, rfl⟩ rfl rfl rfl agree opposite
  | notEqual =>
      obtain rfl := Option.some.inj same
      exact CompiledBinding.accepts_congr rfl rfl ⟨rfl, rfl⟩ rfl rfl rfl opposite agree
  | _ => nomatch same

end Binding

namespace CompiledFilter

theorem accepts_eq_all (compiled : CompiledFilter) (filter entity : Record) :
    compiled.accepts filter entity = (do
      compiled.entityShape.checkRecord entity
      compiled.filterShape.checkRecord filter
      return compiled.bindings.all (·.accepts filter entity)) := by
  rw [accepts, expr, ← compiled.holds_conjunction_fragments]
  cases compiled.entityShape.checkRecord entity with
  | error reason => rfl
  | ok checked => cases compiled.filterShape.checkRecord filter <;> rfl

theorem accepts_congr {entityShape filterShape : Shape} {binding other : Binding}
    {filter entity : Record} (same : other.accepts filter entity = binding.accepts filter entity) :
    (compile entityShape filterShape [other]).accepts filter entity =
      (compile entityShape filterShape [binding]).accepts filter entity := by
  have answers (binding : Binding) :
      (compile entityShape filterShape [binding]).bindings.all (·.accepts filter entity) =
        binding.accepts filter entity := Bool.and_true _
  rw [accepts_eq_all, accepts_eq_all, answers, answers, same]
  rfl

end CompiledFilter

/-- Bindings of strings agree with the bindings of any type, whatever the rules are. A membership in
a list of strings compiles for every filter record to the tree of the same membership in any list.
Where the case counts and both properties are strings, a test for equality, or for the opposite,
answers as the comparison without conversions does, for all records whose values the properties
admit; and a search for a string or for null is the search for any item. -/
theorem string_bindings_agree_with_generic_ones :
    (∀ (entityShape filterShape : Shape) (filter : Record) (property other : Property)
      (op : StringOp) (generic : MembershipOp) (comparison : StringComparison) (rules : Rules),
      op.membershipOp? = some generic →
        (CompiledFilter.compile entityShape filterShape
            [⟨.text property other op comparison, rules⟩]).expr filter =
          (CompiledFilter.compile entityShape filterShape
            [⟨.member property other generic none (some comparison), rules⟩]).expr filter) ∧
    (∀ (entityShape filterShape : Shape) (filter entity : Record) (property other : Property)
      (op : StringOp) (generic : CompareOp) (plan : ConversionPlan) (rules : Rules),
      op.compareOp? = some generic → plan.entity = none ∧ plan.filter = none →
      property.type.isString = true → other.type.isString = true →
      property.type.admits (entity.get property.index) = true →
      other.type.admits (filter.get other.index) = true →
        (CompiledFilter.compile entityShape filterShape
            [⟨.text property other op .caseSensitive, rules⟩]).accepts filter entity =
          (CompiledFilter.compile entityShape filterShape
            [⟨.compare property other generic plan, rules⟩]).accepts filter entity) ∧
    ∀ collection item : Value, item.IsStringOrNull →
      collection.containsText item .caseSensitive = collection.containsItem item := by
  refine ⟨?_, ?_, fun collection _ string => collection.containsText_caseSensitive string⟩
  · intro entityShape filterShape filter property other op generic comparison rules same
    exact CompiledFilter.expr_congr
      (Binding.fragment?_text_of_membershipOp? property other rules same comparison filter)
  · intro entityShape filterShape filter entity property other op generic plan rules same
      unconverted first second admitted admittedOther
    exact CompiledFilter.accepts_congr
      (Binding.accepts_text_of_compareOp? property other rules same unconverted
        (ValueType.isStringOrNull_of_admits first admitted)
        (ValueType.isStringOrNull_of_admits second admittedOther))

/-- Books by their names: one of several, or one alone. -/
def listingShape : Shape := ⟨"Listing", [⟨"Names", .list .string⟩, ⟨"Name", .string⟩], by decide⟩

/-- Two names, one of them not known, and no name alone. -/
def listing : Record := ⟨listingShape, [.list [.null, .string "Dune"], .null], rfl⟩

/-- Books from elsewhere, with those that have no name. -/
def elsewhere : Rules where
  reverseIf := some fun _ => true
  includeNullIf := some fun _ => some true

def bookName : Property := ⟨"Name", 0, .string⟩

def listedNames : Property := ⟨"Names", 0, .list .string⟩

def listedName : Property := ⟨"Name", 1, .string⟩

/-- Null stands for the one name and is among the several ones. -/
theorem string_bindings_agree_with_generic_ones_dune :
    StringOp.membershipOp? .isIn = some .isIn ∧ StringOp.compareOp? .equal = some .equal ∧
      listedName.type.admits (listing.get 1) = true ∧ bookName.type.admits (dune.get 0) = true ∧
      (CompiledFilter.compile bookShape listingShape
          [⟨.text bookName listedNames .isIn .caseInsensitive, elsewhere⟩]).expr listing =
        (CompiledFilter.compile bookShape listingShape
          [⟨.member bookName listedNames .isIn none (some .caseInsensitive), elsewhere⟩]).expr
            listing ∧
      (CompiledFilter.compile bookShape listingShape
          [⟨.text bookName listedName .equal .caseSensitive, elsewhere⟩]).accepts listing dune =
        .ok true ∧
      (CompiledFilter.compile bookShape listingShape
          [⟨.text bookName listedName .equal .caseSensitive, elsewhere⟩]).accepts listing dune =
        (CompiledFilter.compile bookShape listingShape
          [⟨.compare bookName listedName .equal ⟨none, none, true, true⟩, elsewhere⟩]).accepts
            listing dune ∧
      (listing.get 0).containsText .null .caseSensitive = true ∧
      (listing.get 0).containsText .null .caseSensitive = (listing.get 0).containsItem .null := by
  obtain ⟨membership, equality, search⟩ := string_bindings_agree_with_generic_ones
  have compiled := membership bookShape listingShape listing bookName listedNames .isIn .isIn
    .caseInsensitive elsewhere rfl
  have answered := equality bookShape listingShape listing dune bookName listedName .equal .equal
    ⟨none, none, true, true⟩ elsewhere rfl ⟨rfl, rfl⟩ rfl rfl rfl rfl
  exact ⟨rfl, rfl, rfl, rfl, compiled, rfl, answered, rfl, search (listing.get 0) .null (.inl rfl)⟩

end RecordFilter
