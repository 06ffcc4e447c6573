import RecordFilter.Proofs.Negation

set_option autoImplicit false

/-!
Containment is equality with some element. Where two types are accepted for containment, they are
accepted for a comparison by equality that converts the item alike and the elements not at all, and
a list holds an item when one of its elements is equal to the item under that comparison.
-/

namespace RecordFilter

namespace ValueType

variable {element item : ValueType} {convert : Option NumericType}

theorem comparisonPlan_of_containmentPlan
    (normal : element.isNormal = true ∧ item.isNormal = true)
    (accepted : element.containmentPlan item = .ok convert) :
    element.comparisonPlan item .equal =
      .ok ⟨none, convert, element.canBeNull, item.canBeNull⟩ := by
  rcases containmentPlan_cases accepted with
    ⟨same, equality, rfl⟩ | ⟨different, m, n, isM, isN, isCommon, rfl⟩
  · rw [comparisonPlan, if_pos same, equality]
    rfl
  -- The types are different, so the item is converted, and not the elements.
  · have apart : n ≠ m :=
      numeric_ne_of_ne (underlying_ne_nullable normal.1) (underlying_ne_nullable normal.2) different
        isM isN
    have common : element.underlying.commonNumeric? item.underlying = some (m, n, m) := by
      simp [commonNumeric?, isM, isN, isCommon]
    simp only [comparisonPlan, if_neg different, common, if_pos, if_neg apart]

theorem widenIf?_of_containmentPlan {value : Value} (normal : element.isNormal = true)
    (accepted : element.containmentPlan item = .ok convert)
    (admitted : item.admits value = true) :
    ∃ converted, value.widenIf? convert = some converted := by
  cases null : value.isNull with
  | true =>
      rw [Value.eq_null_of_isNull null]
      cases convert <;> exact ⟨.null, rfl⟩
  | false =>
      obtain ⟨converted, widened, -⟩ :=
        related_of_containmentPlan normal accepted admitted null
      exact ⟨converted, widened⟩

end ValueType

/-- Whether an operator holds between two values after the conversions planned for them. -/
def ConversionPlan.Relates (plan : ConversionPlan) (op : CompareOp) (a b : Value) : Prop :=
  ∃ x y, a.widenIf? plan.entity = some x ∧ b.widenIf? plan.filter = some y ∧
    Value.satisfies op x y = true

namespace Value

theorem containsItem_iff (collection item : Value) :
    collection.containsItem item = true ↔
      ∃ items, collection = list items ∧ ∃ element ∈ items, element.equal item = true := by
  cases collection with
  | list items => simp [containsItem]
  | _ => simp [containsItem]

/-- Where a plan converts the second value only, an operator relates the first one as it is to the
converted second one. -/
theorem relates_of_widenIf?_iff {plan : ConversionPlan} {item converted : Value}
    (kept : plan.entity = none) (widened : item.widenIf? plan.filter = some converted)
    (op : CompareOp) (element : Value) :
    plan.Relates op element item ↔ satisfies op element converted = true := by
  have same : element.widenIf? none = some element := rfl
  simp only [ConversionPlan.Relates, kept, widened, same, Option.some.injEq, exists_and_left,
    exists_eq_left']

/-- So looking the converted item up is looking for an element that is equal to the item under the
plan. -/
theorem containsItem_of_widenIf?_iff {plan : ConversionPlan} {item converted : Value}
    (kept : plan.entity = none) (widened : item.widenIf? plan.filter = some converted)
    (collection : Value) :
    collection.containsItem converted = true ↔
      ∃ items, collection = list items ∧ ∃ element ∈ items, plan.Relates .equal element item := by
  simp only [containsItem_iff, relates_of_widenIf?_iff kept widened, satisfies]

end Value

theorem Record.converted_of_widenIf? {record : Record} {property : Property}
    {target : Option NumericType} {value : Value}
    (widened : (record.get property.index).widenIf? target = some value) :
    record.converted property target = value := by
  rw [converted, widened, Option.getD_some]

namespace Expr

section Lookups

variable (entity : Record) (filter : Option Record)

theorem holds_negatedIf (condition : Expr) (negated : Bool) :
    (condition.negatedIf negated).holds entity filter =
      (negated ^^ condition.holds entity filter) := by
  cases negated with
  | false => exact (Bool.false_xor _).symm
  | true => exact (Bool.true_xor _).symm

theorem holds_compare (op : CompareOp) (left right : Expr) :
    (compare op left right).holds entity filter =
      Value.satisfies op (left.eval entity filter) (right.eval entity filter) := rfl

theorem holds_contains (collection item : Expr) :
    (contains collection item).holds entity filter =
      (collection.eval entity filter).containsItem (item.eval entity filter) := rfl

end Lookups

end Expr

namespace Binding

variable {rules : Rules} {filter : Record} (straight : rules.isReversed filter = false)
  (undecided : rules.nullDecision filter = none) (property other : Property)
  (convert : Option NumericType) (entity : Record)

include straight undecided

theorem accepts_compare (op : CompareOp) (plan : ConversionPlan)
    (kept : (⟨.compare property other op plan, rules⟩ : Binding).isDropped filter = false) :
    (⟨.compare property other op plan, rules⟩ : Binding).accepts filter entity =
      Value.satisfies op (entity.converted property plan.entity)
        (filter.converted other plan.filter) := by
  rw [accepts, CompiledBinding.accepts_of_plain filter entity rfl rfl
    (counts_of_not_isDropped kept).1 straight undecided, Side.comparing, Expr.holds_compare,
    Expr.eval_convertIf_field, Expr.eval_convertIf_filterField]

theorem accepts_contain (op : ContainOp)
    (kept : (⟨.contain property other op convert none, rules⟩ : Binding).isDropped filter = false) :
    (⟨.contain property other op convert none, rules⟩ : Binding).accepts filter entity =
      (op.isNegated ^^
        (entity.get property.index).containsItem (filter.converted other convert)) := by
  rw [accepts, CompiledBinding.accepts_of_plain filter entity rfl rfl
    (counts_of_not_isDropped kept).1 straight undecided, Side.demanding, Expr.holds_negatedIf,
    Expr.lookup, Expr.holds_contains, Expr.eval_convertIf_filterField]
  rfl

theorem accepts_member (op : MembershipOp)
    (kept : (⟨.member property other op convert none, rules⟩ : Binding).isDropped filter = false) :
    (⟨.member property other op convert none, rules⟩ : Binding).accepts filter entity =
      (op.isNegated ^^
        (filter.get other.index).containsItem (entity.converted property convert)) := by
  rw [accepts, CompiledBinding.accepts_of_plain filter entity rfl rfl
    (counts_of_not_isDropped kept).1 straight undecided, Side.demanding, Expr.holds_negatedIf,
    Expr.lookup, Expr.holds_contains, Expr.eval_convertIf_field]
  rfl

end Binding

/-- What it is for a binding and its opposite to look an item up in a collection, given how bindings
answer: the binding asks for an element that is equal to the item under the plan, and the opposite
one accepts what it rejects. -/
def LooksUp (answers : Binding → Bool → Prop) (plan : ConversionPlan) (collection item : Value)
    (binding opposite : Binding) : Prop :=
  ∃ found, answers binding found ∧ answers opposite (!found) ∧
    (found = true ↔
      ∃ items, collection = .list items ∧ ∃ element ∈ items, plan.Relates .equal element item)

/-- Bindings that search the collection for the converted item look the item up. -/
theorem looksUp_of_containsItem {answers : Binding → Bool → Prop} {plan : ConversionPlan}
    {collection item converted : Value} {binding opposite : Binding} {filter entity : Record}
    (answered : ∀ binding, answers binding (binding.accepts filter entity))
    (kept : plan.entity = none) (widened : item.widenIf? plan.filter = some converted)
    (straight : binding.accepts filter entity = collection.containsItem converted)
    (negated : opposite.accepts filter entity = !collection.containsItem converted) :
    LooksUp answers plan collection item binding opposite := by
  refine ⟨collection.containsItem converted, ?_, ?_, ?_⟩
  · exact straight ▸ answered binding
  · exact negated ▸ answered opposite
  · exact Value.containsItem_of_widenIf?_iff kept widened collection

/-- Containment is equality with some element. Where two types without a wrapper right under a
wrapper are accepted for containment, they are accepted for a comparison by equality, which converts
the item in the same way and the elements not at all. By rules that neither drop nor reverse a
binding nor decide about null, a binding that compares by this plan accepts what the plan relates. A
binding that asks whether a collection of the entity holds an item of the filter accepts when the
collection is a list with an element that is equal to the item under the plan, be they null or not,
and its opposite accepts in all other cases; so does a binding that asks whether a collection of the
filter holds an item of the entity. -/
theorem containment_is_equality_with_an_element {element item : ValueType}
    {convert : Option NumericType} (normal : element.isNormal = true ∧ item.isNormal = true)
    (accepted : element.containmentPlan item = .ok convert) :
    ∃ plan, element.comparisonPlan item .equal = .ok plan ∧
      plan.entity = none ∧ plan.filter = convert ∧
      ∀ (entityShape filterShape : Shape) (filter entity : Record) (rules : Rules)
        (property other : Property),
        filter.shape.name = filterShape.name → entity.shape.name = entityShape.name →
        rules.isReversed filter = false → rules.nullDecision filter = none →
        (property.type = element → other.type = item →
          item.admits (filter.get other.index) = true →
          (⟨.compare property other .equal plan, rules⟩ : Binding).isDropped filter = false →
          ∃ accepts,
            (CompiledFilter.compile entityShape filterShape
              [⟨.compare property other .equal plan, rules⟩]).accepts filter entity = .ok accepts ∧
            (accepts = true ↔
              plan.Relates .equal (entity.get property.index) (filter.get other.index))) ∧
        (property.type.element? = some element → other.type = item →
          item.admits (filter.get other.index) = true →
          (⟨.contain property other .contains convert none, rules⟩ : Binding).isDropped filter =
            false →
          LooksUp
            (fun binding answer => (CompiledFilter.compile entityShape filterShape
              [binding]).accepts filter entity = .ok answer)
            plan (entity.get property.index) (filter.get other.index)
            ⟨.contain property other .contains convert none, rules⟩
            ⟨.contain property other .notContains convert none, rules⟩) ∧
        (other.type.element? = some element → property.type = item →
          item.admits (entity.get property.index) = true →
          (⟨.member property other .isIn convert none, rules⟩ : Binding).isDropped filter = false →
          LooksUp
            (fun binding answer => (CompiledFilter.compile entityShape filterShape
              [binding]).accepts filter entity = .ok answer)
            plan (filter.get other.index) (entity.get property.index)
            ⟨.member property other .isIn convert none, rules⟩
            ⟨.member property other .notIn convert none, rules⟩) := by
  refine ⟨_, ValueType.comparisonPlan_of_containmentPlan normal accepted, rfl, rfl, ?_⟩
  intro entityShape filterShape filter entity rules property other ofFilter ofEntity straight
    undecided
  have answered (binding : Binding) :=
    CompiledFilter.accepts_single binding ofFilter ofEntity
  refine ⟨?_, ?_, ?_⟩
  · intro _ _ admitted kept
    obtain ⟨item, widened⟩ := ValueType.widenIf?_of_containmentPlan normal.1 accepted admitted
    refine ⟨_, answered _, ?_⟩
    rw [Binding.accepts_compare straight undecided property other entity .equal _ kept,
      Record.converted_of_widenIf? widened]
    exact (Value.relates_of_widenIf?_iff rfl widened .equal _).symm
  · intro _ _ admitted kept
    obtain ⟨item, widened⟩ := ValueType.widenIf?_of_containmentPlan normal.1 accepted admitted
    have searches (op : ContainOp) :=
      Binding.accepts_contain straight undecided property other convert entity op kept
    rw [Record.converted_of_widenIf? widened] at searches
    apply looksUp_of_containsItem answered rfl widened
    · rw [searches, ContainOp.isNegated, Bool.false_xor]
    · rw [searches, ContainOp.isNegated, Bool.true_xor]
  · intro _ _ admitted kept
    obtain ⟨item, widened⟩ := ValueType.widenIf?_of_containmentPlan normal.1 accepted admitted
    have searches (op : MembershipOp) :=
      Binding.accepts_member straight undecided property other convert entity op kept
    rw [Record.converted_of_widenIf? widened] at searches
    apply looksUp_of_containsItem answered rfl widened
    · rw [searches, MembershipOp.isNegated, Bool.false_xor]
    · rw [searches, MembershipOp.isNegated, Bool.true_xor]

/-- A series of books by the years of its volumes, of which some may not be known. -/
def seriesShape : Shape :=
  ⟨"Series", [⟨"Years", .list (.nullable (.numeric .i64))⟩], by decide⟩

/-- Two volumes, one of them from 1960. -/
def foundationSeries : Record :=
  ⟨seriesShape,
    [.list [.null, .number (.integer ⟨true, .w64⟩ ⟨1960, by decide, by decide⟩)]], rfl⟩

/-- Whether some volume is from the year of the filter, which is of an unsigned type with fewer bits
than the years of the volumes. -/
def seriesBinding (op : ContainOp) : Binding :=
  ⟨.contain ⟨"Years", 0, .list (.nullable (.numeric .i64))⟩
    ⟨"From", 1, .nullable (.numeric .u32)⟩ op (some .i64) none, {}⟩

theorem containment_is_equality_with_an_element_foundation :
    (ValueType.nullable (.numeric .i64)).containmentPlan (.nullable (.numeric .u32)) =
        .ok (some .i64) ∧
      (seriesBinding .contains).isDropped fromTheSixties = false ∧
      ∃ plan,
        (ValueType.nullable (.numeric .i64)).comparisonPlan (.nullable (.numeric .u32)) .equal =
          .ok plan ∧
        LooksUp
          (fun binding answer => (CompiledFilter.compile seriesShape bookFilterShape
            [binding]).accepts fromTheSixties foundationSeries = .ok answer)
          plan (foundationSeries.get 0) (fromTheSixties.get 1)
          (seriesBinding .contains) (seriesBinding .notContains) ∧
        (CompiledFilter.compile seriesShape bookFilterShape
          [seriesBinding .contains]).accepts fromTheSixties foundationSeries = .ok true := by
  have accepted : (ValueType.nullable (.numeric .i64)).containmentPlan (.nullable (.numeric .u32)) =
      .ok (some .i64) := rfl
  obtain ⟨plan, planned, -, -, lookups⟩ :=
    containment_is_equality_with_an_element ⟨rfl, rfl⟩ accepted
  obtain ⟨-, contained, -⟩ := lookups seriesShape bookFilterShape fromTheSixties foundationSeries {}
    ⟨"Years", 0, .list (.nullable (.numeric .i64))⟩ ⟨"From", 1, .nullable (.numeric .u32)⟩
    rfl rfl rfl rfl
  exact ⟨accepted, rfl, plan, planned, contained rfl rfl rfl rfl, rfl⟩

end RecordFilter
